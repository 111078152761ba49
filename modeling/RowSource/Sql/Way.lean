import RowSource.Sql.Condition
import RowSource.Sql.Estimate

/-!
# Ways to the rows of a source

A way has a price and may need other sources to be read before. Of two ways to the same rows the one
that is never better is forgotten as soon as both are known.
-/

namespace RowSource.Sql

structure Index where
  /-- The columns in order: first those of the key, then those that tell equal keys apart. -/
  columns : List IndexColumn
  keyCount : Nat
  /-- No column of the key may be null. -/
  isFilled : Bool
  /-- The rows themselves are kept in its order. -/
  holdsRows : Bool := false
  size : Estimate := 0
  /-- How many rows are left when none, one, two and more columns are known. -/
  left : List Estimate := []
  deriving DecidableEq

inductive Means where
  /-- Through an index, or else by their identifiers, with some columns known. -/
  | ordered (index : Option Index) (equals : Nat) (isCovering isOneRow hasEquality : Bool)
  /-- Through an index that is made for the purpose. -/
  | lookup
  | hosted (number : Int32) (settled : List Nat)
  deriving DecidableEq

structure Way where
  place : Nat
  needs : Places
  setup : Estimate := 0
  run : Estimate
  rows : Estimate
  /-- Ways that may give different orders are not compared with each other. -/
  order : Nat := 0
  terms : List Nat := []
  means : Means
  deriving DecidableEq

namespace Way

def isIndexed (way : Way) : Bool :=
  match way.means with
  | .ordered (some _) _ _ _ _ => true
  | _ => false

def isLookup (way : Way) : Bool := way.means == .lookup

def isHosted (way : Way) : Bool :=
  match way.means with
  | .hosted _ _ => true
  | _ => false

def isCovering (way : Way) : Bool :=
  match way.means with
  | .ordered _ _ isCovering _ _ => isCovering
  | _ => false

def isOneRow (way : Way) : Bool :=
  match way.means with
  | .ordered _ _ _ isOneRow _ => isOneRow
  | _ => false

def hasEquality (way : Way) : Bool :=
  match way.means with
  | .ordered _ _ _ _ hasEquality => hasEquality
  | _ => false

def equals (way : Way) : Nat :=
  match way.means with
  | .ordered _ equals _ _ _ => equals
  | _ => 0

def index? (way : Way) : Option Index :=
  match way.means with
  | .ordered index _ _ _ _ => index
  | _ => none

/-! ### Comparing ways -/

/-- Whether a way through an index makes use of less than another one, for a price that is not
greater in every respect. -/
def isCheaperPart (a b : Way) : Bool :=
  if b.run < a.run ∧ b.rows < a.rows then false
  else if a.equals < b.equals ∧ a.index? = b.index? then true
  else
    decide (a.terms.length < b.terms.length) && a.terms.all b.terms.contains &&
      !(a.isCovering && !b.isCovering)

/-- A way at a price that fits those of the ways that make use of less, or of more. -/
def adjusted (known : List Way) (way : Way) : Way :=
  if !way.isIndexed then way
  else
    known.foldl
      (fun way other =>
        if other.place ≠ way.place ∨ !other.isIndexed then way
        else if isCheaperPart other way then
          { way with run := min other.run way.run, rows := min (other.rows - 1) way.rows }
        else if isCheaperPart way other then
          { way with run := max other.run way.run, rows := max (other.rows + 1) way.rows }
        else way)
      way

inductive Verdict where
  | keepBoth | keepOld | keepNew

def verdict (old new : Way) : Verdict :=
  if old.place ≠ new.place ∨ old.order ≠ new.order then .keepBoth
  else if old.isLookup && new.isIndexed && new.hasEquality && Places.within new.needs old.needs then
    .keepNew
  else if Places.within old.needs new.needs && decide (old.setup ≤ new.setup) &&
      decide (old.run ≤ new.run) && decide (old.rows ≤ new.rows) then .keepOld
  else if Places.within new.needs old.needs && decide (new.run ≤ old.run) &&
      decide (new.rows ≤ old.rows) then .keepNew
  else .keepBoth

def supplanted (new : Way) : List Way → List Way
  | [] => []
  | old :: rest =>
      match verdict old new with
      | .keepOld => old :: rest
      | .keepNew => supplanted new rest
      | .keepBoth => old :: supplanted new rest

/-- Puts a way in the place of the first one that it is better than, or at the end. -/
def placed? (new : Way) : List Way → Option (List Way)
  | [] => some [new]
  | old :: rest =>
      match verdict old new with
      | .keepOld => none
      | .keepNew => some (new :: supplanted new rest)
      | .keepBoth => (placed? new rest).map (old :: ·)

def add (known : List Way) (way : Way) : List Way :=
  ((way.adjusted known).placed? known).getD known

end Way

end RowSource.Sql
