import RowSource.Sql.Sum
import RowSource.Sql.Term

/-!
# Tallies

What a function over the rows of a group knows of the rows that it has taken so far, and what its
value is in the end.
-/

namespace RowSource.Sql

structure Tally where
  count : Nat := 0
  sum : Sum := {}
  best : Option Datum := none
  joined : Option (List UInt8) := none
  seen : List Datum := []
  /-- The arguments of rows that are taken in an order of their own, the latest first, with the keys. -/
  waiting : List (List Datum × List Datum) := []

namespace Tally

def comma : List UInt8 := [44]

def join (tally : Tally) (value : Datum) (separator : List UInt8) : Tally :=
  match textOf value with
  | none => tally
  | some bytes =>
      let joined := match tally.joined with
        | none => bytes
        | some before => before ++ separator ++ bytes
      { tally with joined := some joined }

def isBetter (tally : Tally) (collation : Collation) (greatest : Bool) (value : Datum) : Bool :=
  match tally.best with
  | none => true
  | some best =>
      !value.isNull && compareValues collation best value == if greatest then .lt else .gt

/-- Takes the arguments of a row, and tells whether the row is the best one so far. -/
def take (tally : Tally) (function : Summary) (collation : Collation) (arguments : List Datum) :
    Tally × Bool :=
  let value := arguments.headD .null
  match function with
  | .count =>
      (if !arguments.isEmpty && value.isNull then tally else { tally with count := tally.count + 1 },
        true)
  | .sum | .total | .average => ({ tally with sum := tally.sum.add value }, true)
  | .least | .greatest =>
      let isBetter := tally.isBetter collation (function == .greatest) value
      (if isBetter && !value.isNull then { tally with best := some value } else tally, isBetter)
  | _ =>
      let separator := match arguments with
        | [_, separator] => (textOf separator).getD []
        | _ => comma
      (tally.join value separator, true)

def hasSeen (tally : Tally) (collation : Collation) (value : Datum) : Bool :=
  tally.seen.any fun other => (⟨.blob, collation⟩ : Comparison).same other value

def value (tally : Tally) : Summary → Except EngineFault Datum
  | .count => .ok (.ofInteger tally.count)
  | .sum => tally.sum.value
  | .total => .ok (Datum.real tally.sum.realValue).withoutNaN
  | .average => .ok tally.sum.mean
  | .least | .greatest => .ok (tally.best.getD .null)
  | _ => .ok ((tally.joined.map Datum.text).getD .null)

end Tally

end RowSource.Sql
