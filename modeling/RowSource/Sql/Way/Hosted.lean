import RowSource.Sql.Locate
import RowSource.Sql.Way

/-!
# Ways to the rows of a host table

A host table is offered all conditions on its columns, first as if all other sources were read. If
its plan then needs some of them, it is asked again as if only some were, and at last as if none
were. A plan that it turns down is no way.
-/

namespace RowSource.Sql

structure Offer where
  term : Nat
  column : Int
  op : ConstraintOp
  needs : Places
  /-- The column equals one of several values. Each of them is offered for itself. -/
  isChoice : Bool

namespace Offer

/-- What is offered to a host table at a place, where some sources can never be read before it. When
rows before it stay without any of its own, only the conditions that join them count. -/
def ofConditions (place : Nat) (isOuter : Bool) (never : Places) (conditions : List Condition) :
    List Offer :=
  conditions.zipIdx.filterMap fun (condition, term) =>
    match condition.column, condition.op with
    | some (owner, ref), some op =>
        if owner = place ∧ !condition.isPresence ∧ Places.disjoint condition.valueNeeds never ∧
            (!isOuter ∨ condition.join = some place) then
          some ⟨term, ref.number, op, condition.valueNeeds, condition.isChoice⟩
        else none
    | _, _ => none

structure Question where
  read : Places
  choices : Bool := true

def constraint (question : Question) (offer : Offer) : Constraint where
  column := offer.column
  op := offer.op
  usable := Places.within offer.needs question.read && (question.choices || !offer.isChoice)

/-- The offers whose values a plan asks for, with what it says of them, in the order of the values. -/
def taken (offers : List Offer) (info : IndexInfo) : List (Offer × Nat × ConstraintUsage) :=
  let asked := (offers.zip info.usages).zipIdx.filterMap fun ((offer, usage), index) =>
    if 0 < usage.position then some (offer, index, usage) else none
  asked.mergeSort fun a b => a.2.2.position ≤ b.2.2.position

def settleLimit : Nat := 16

/-- The way that a plan is. Only the first constraints can be settled, by the first values. -/
def way (place : Nat) (needs : Places) (offers : List Offer) (info : IndexInfo) : Way :=
  let taken := taken offers info
  { place := place
    needs := taken.foldl (fun places entry => places ||| entry.1.needs) needs
    run := Estimate.ofCount (info.estimatedCost.toInt?.getD 0).toNat
    rows := Estimate.ofCount info.estimatedRows.toNat
    terms := taken.map fun entry => entry.1.term
    means := .hosted info.indexNumber (taken.filterMap fun (offer, index, usage) =>
      if usage.settled && decide (index < settleLimit) && decide (usage.position ≤ settleLimit)
      then some offer.term else none) }

def takesChoice (offers : List Offer) (way : Way) : Bool :=
  offers.any fun offer => offer.isChoice && way.terms.contains offer.term

end Offer

namespace Compiling

def hostedWay (table : HostedTable) (place : Nat) (needs : Places) (offers : List Offer)
    (question : Offer.Question) : Compiling (Option Way) := do
  let reply ← ask (.plan table.number (offers.map (Offer.constraint question)))
  return reply.map (Offer.way place needs offers)

/-- The least set of sources, greater than `last`, that some offer needs beyond `needs`. -/
def nextNeeds? (offers : List Offer) (needs last : Places) : Option Places :=
  ((offers.map fun offer => Places.without offer.needs needs).filter (last < ·)).min?

structure Answers where
  ways : List Way
  /-- A plan needed no other sources. -/
  seen : Bool := false
  /-- So did one without choices. -/
  seenPlain : Bool := false

/-- Takes note of an answer. A plan that is turned down needs nothing. -/
def Answers.add (answers : Answers) (needs : Places) (offers : List Offer) (way : Option Way) :
    Answers :=
  match way with
  | none => { answers with seen := true, seenPlain := true }
  | some way =>
      let isFree := way.needs == needs
      { ways := Way.add answers.ways way
        seen := answers.seen || isFree
        seenPlain := answers.seenPlain || (isFree && !Offer.takesChoice offers way) }

def furtherWays (table : HostedTable) (place : Nat) (needs : Places) (known : List Places)
    (offers : List Offer) : Nat → Places → Answers → Compiling Answers
  | 0, _, answers => return answers
  | fuel + 1, last, answers => do
      match nextNeeds? offers needs last with
      | none => return answers
      | some next =>
          if known.contains next then furtherWays table place needs known offers fuel next answers
          else
            let way ← hostedWay table place needs offers { read := next ||| needs }
            furtherWays table place needs known offers fuel next (answers.add needs offers way)

def furtherNeeds (needs : Places) (way : Option Way) : Places :=
  Places.without ((way.map (·.needs)).getD needs) needs

def hostedWays (table : HostedTable) (place : Nat) (needs : Places) (offers : List Offer)
    (all : Places) (ways : List Way) : Compiling (List Way) := do
  let whole ← hostedWay table place needs offers { read := all }
  let ways := match whole with
    | some way => Way.add ways way
    | none => ways
  let best := furtherNeeds needs whole
  let hasChoice := whole.any (Offer.takesChoice offers)
  if best = 0 && !hasChoice then return ways
  else
    let start : Answers := { ways := ways }
    let (start, plain) ← if hasChoice then do
        let way ← hostedWay table place needs offers { read := all, choices := false }
        let next := match way with
          | some way => Way.add ways way
          | none => ways
        let isFree := furtherNeeds needs way == 0
        pure (({ ways := next, seen := isFree, seenPlain := isFree } : Answers),
          furtherNeeds needs way)
      else pure (start, 0)
    let answers ← furtherWays table place needs [best, plain] offers (offers.length + 1) 0 start
    let answers ← if answers.seen then pure answers else do
      let way ← hostedWay table place needs offers { read := needs }
      let added := answers.add needs offers way
      pure { added with seenPlain := answers.seenPlain || !(way.any (Offer.takesChoice offers)) }
    if answers.seenPlain then return answers.ways
    else
      let way ← hostedWay table place needs offers { read := needs, choices := false }
      return (answers.add needs offers way).ways

end Compiling

end RowSource.Sql
