import RowSource.Plan.Constraint
import RowSource.Sql.Function.PatternStart
import RowSource.Sql.Query

/-!
# Plans of queries

What is done to run a query. Each part goes through its sources in nested loops, checks conditions
as soon as they can be worked out, puts its rows into groups if it has any, and sorts them if they do
not come in order by themselves. The queries that a part reads are run anew whenever their rows are
gone through, or once.
-/

namespace RowSource.Sql

structure Probe where
  column : Option Nat
  op : ConstraintOp
  value : Term
  comparison : Comparison
  isChoice : Bool
  bounds : Option Pattern.Bounds
  isPresence : Bool

structure HostValue where
  value : Term
  comparison : Comparison
  isChoice : Bool
  check : Option ColumnRef

/-- How the rows of a source are reached. What is kept has a slot of its own in the statement. -/
inductive Access (Q : Type) where
  | stored (table : TableId) (columns : List IndexColumn) (probes : List Probe)
      (isOneRow backwards : Bool)
  /-- A host table, with the number that its plan left and the values that it asked for. -/
  | hosted (table : Nat) (number : Int32) (values : List HostValue)
  | derived (query : Q)
  | kept (slot : Nat) (backwards : Bool)
  /-- An index made for the purpose: the rows in the order of the probed columns, then of others. -/
  | lookup (slot : Nat) (rows : Access Q) (probes : List Probe) (others : List Nat)

structure Loop (Q : Type) where
  source : Nat
  access : Access Q
  /-- The conditions under which its rows join those before, which stay even without any. -/
  matching : Option (List Term) := none
  conditions : List Term

inductive SortMode where
  /-- After its keys, and only if the row is kept. -/
  | late
  /-- Before its keys, but for the results that are keys themselves. -/
  | early
  /-- All of them before its keys. -/
  | whole
  deriving DecidableEq

structure Grouping where
  keys : List OrderKey
  inOrder : Bool
  columns : List ColumnRef

structure Kept (Q : Type) where
  slot : Nat
  query : Q
  /-- It is run anew each time, since its rows depend on a query around. -/
  isDependent : Bool

structure Part (Q : Type) where
  kept : List (Kept Q)
  conditions : List Term
  loops : List (Loop Q)
  results : List Term
  totals : List Aggregate
  bare : List ColumnRef
  grouping : Option Grouping := none
  having : List Term := []
  /-- The first row decides. -/
  isSettledByFirst : Bool := false
  isDistinct : Bool := false
  keys : List OrderKey
  /-- The number of keys by which the rows come in order. -/
  met : Nat
  mode : SortMode

def Part.isAggregate {Q : Type} (part : Part Q) : Bool :=
  part.grouping.isSome || !part.totals.isEmpty

structure CommonKey where
  position : Nat
  direction : Direction
  collation : Collation

structure QueryPlan where
  parts : List (Part QueryPlan)
  links : List Compound
  order : List CommonKey
  columns : List CommonKey := []
  limit : Option Term
  offset : Option Term
  depth : Nat

instance : Inhabited QueryPlan := ⟨⟨[], [], [], [], none, none, 0⟩⟩

structure CompiledQuery where
  plan : QueryPlan
  names : List String
  shape : Shape
  isReading : Bool
  /-- It names some that are not the connection's own. -/
  readsMain : Bool
  tables : List TableId
  hosts : List Nat

end RowSource.Sql
