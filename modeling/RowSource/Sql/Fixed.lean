import RowSource.Sql.Term

/-!
# Fixed columns

A condition `a = 5` says what the column is wherever else it occurs in the conditions. There it is
replaced by the value, which is still compared as a column is. A column that may hold values of every
kind is replaced only as a whole side of a comparison, and nothing is said by a comparison that takes
different texts for equal.
-/

namespace RowSource.Sql

/-- A column that a condition says to be a value, and where it says so. -/
structure FixedColumn where
  ref : ColumnRef
  value : Term
  condition : Nat
  onRight : Bool

namespace FixedColumn

def isValue (term : Term) : Bool := term.isConstant && term.affinity?.isNone

/-- The columns that a condition says to be values. The right side is looked at first. -/
def ofCondition (condition : Term) (index : Nat) : List FixedColumn :=
  match condition with
  | .binary .eq left right =>
      if (left.comparison right).collation = .binary then
        let there := if isValue left then right.column?.map (⟨·, left, index, true⟩) else none
        let here := if isValue right then left.column?.map (⟨·, right, index, false⟩) else none
        there.toList ++ here.toList
      else []
  | _ => []

def add (known : List FixedColumn) (column : FixedColumn) : List FixedColumn :=
  if (known.any fun other => other.ref.isSame column.ref) then known else known ++ [column]

/-- The columns that conditions say to be values. Of several conditions on a column the last counts. -/
def ofConditions (conditions : List Term) : List FixedColumn :=
  (conditions.zipIdx.reverse.flatMap fun (condition, index) => ofCondition condition index).foldl
    add []

/-- A term that is a known column, as its value. Columns without an affinity may be left out. -/
def replaced (known : List FixedColumn) (plainToo : Bool) (term : Term) : Term :=
  match term with
  | .column ref =>
      match known.find? fun column => column.ref.isSame ref with
      | some column => if column.ref.isPlain && !plainToo then term else .fixed ref column.value
      | none => term
  | _ => term

/-- Whether whole sides of an operator are replaced whatever they hold. -/
def comparesSides : BinaryOp → Bool
  | .eq | .lt | .le | .gt | .ge | .is => true
  | _ => false

def within (known : List FixedColumn) (hasPlain : Bool) (term : Term) : Term :=
  term.transform fun
    | .column ref => replaced known (!hasPlain) (.column ref)
    | .binary op left right =>
        if hasPlain && comparesSides op then
          let left := replaced known true left
          .binary op left (if left.affinity? = some .text then right else replaced known true right)
        else .binary op left right
    | other => other

/-- A condition with values for known columns, but for those it speaks of itself. -/
def inCondition (known : List FixedColumn) (hasPlain : Bool) (condition : Term) (index : Nat) :
    Term :=
  match condition, within known hasPlain condition with
  | .binary _ left right, .binary op left' right' =>
      let speaks (onRight : Bool) : Bool :=
        known.any fun column => column.condition == index && column.onRight == onRight
      .binary op (if speaks false then left else left') (if speaks true then right else right')
  | _, other => other

def step (conditions : List Term) : List Term :=
  let known := ofConditions conditions
  let hasPlain := known.any fun column => column.ref.isPlain
  conditions.zipIdx.map fun (condition, index) => inCondition known hasPlain condition index

def settle : Nat → List Term → List Term
  | 0, conditions => conditions
  | fuel + 1, conditions =>
      let next := step conditions
      if Term.sameAll next conditions then conditions else settle fuel next

end FixedColumn

/-- Conditions with values for the columns that they fix. Every step that changes something leaves
fewer columns. -/
def withFixedColumns (conditions : List Term) : List Term :=
  if conditions.length < 2 then conditions
  else FixedColumn.settle (conditions.flatMap Term.columns).length conditions

end RowSource.Sql
