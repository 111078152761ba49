import RowSource.Number.Binary64

/-!
# What a planner offers a table

A planner shows a table the constraints of a query. `IndexInfo` is one round of that: the table
says for every constraint whether it wants the value, and at which position, and estimates what the
scan will cost.
-/

namespace RowSource

inductive ConstraintOp where
  | eq | gt | le | lt | ge | matches | like | glob | regexp | ne | isNot | isNotNull | isNull | is
  | limit | offset
  /-- An overloaded function, or a code without a meaning of its own. -/
  | function (code : UInt8)
  deriving DecidableEq

namespace ConstraintOp

def table : List (UInt8 × ConstraintOp × String) :=
  [(2, .eq, "Eq"), (4, .gt, "Gt"), (8, .le, "Le"), (16, .lt, "Lt"), (32, .ge, "Ge"),
    (64, .matches, "Match"), (65, .like, "Like"), (66, .glob, "Glob"), (67, .regexp, "Regexp"),
    (68, .ne, "Ne"), (69, .isNot, "IsNot"), (70, .isNotNull, "IsNotNull"),
    (71, .isNull, "IsNull"), (72, .is, "Is"), (73, .limit, "Limit"), (74, .offset, "Offset")]

def ofCode (code : UInt8) : ConstraintOp :=
  match table.find? fun entry => entry.1 == code with
  | some entry => entry.2.1
  | none => .function code

def name : ConstraintOp → String
  | .function code => "Function(" ++ toString code ++ ")"
  | op => ((table.find? fun entry => entry.2.1 == op).map (·.2.2)).getD ""

/-- `LIMIT` and `OFFSET` are offered as constraints but constrain no column. -/
def isPseudo (op : ConstraintOp) : Bool := op = .limit || op = .offset

end ConstraintOp

structure Constraint where
  /-- The position of the column in the declaration; the row identifier is at -1. -/
  column : Int
  op : ConstraintOp
  /-- False when the other side depends on a table that comes later in the plan. -/
  usable : Bool
  deriving DecidableEq

structure ConstraintUsage where
  /-- The position of the value among the arguments of the scan, counted from one. Zero leaves the
  constraint to the engine. -/
  position : Nat := 0
  settled : Bool := false
  deriving DecidableEq

/-- One round of planning. The usages run parallel to the constraints. -/
structure IndexInfo where
  constraints : List Constraint
  usages : List ConstraintUsage
  /-- Handed back unchanged when the scan starts. -/
  indexNumber : Int32
  estimatedCost : Binary64
  estimatedRows : Int
  deriving DecidableEq

def IndexInfo.fresh (constraints : List Constraint) : IndexInfo where
  constraints := constraints
  usages := constraints.map fun _ => {}
  indexNumber := 0
  estimatedCost := Binary64.greatest
  estimatedRows := twoTo 63 - 1

end RowSource
