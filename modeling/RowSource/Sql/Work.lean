import RowSource.Engine
import RowSource.Sql.QueryPlan

/-!
# The work of statements

What a statement does once it is compiled. Names are resolved and queries are planned by then.
-/

namespace RowSource.Sql

structure Filling where
  columns : List (Option Nat)
  rowid : Option Nat

inductive RowsWork where
  | defaults
  | values (row : List Term)
  | query (query : CompiledQuery) (apart : Bool)
  /-- All rows of a table that is like the one they are inserted into. They keep their identifiers
  if there are no rows yet, but for those of a query that gives the same rows. -/
  | copy (table : TableId) (query : CompiledQuery)

/-- Whether an insertion may insert several rows. -/
def RowsWork.mayBeSeveral : RowsWork → Bool
  | .defaults | .values _ => false
  | _ => true

structure Setting where
  targets : List (Option Nat)
  value : Term

structure Meeting where
  /-- The keys in which they meet, by their places among the uniquenesses of the table. The identifier
  of a row has no place. They may meet anywhere if nothing is said. -/
  keys : Option (List (Option Nat))
  /-- The numbers of the row that is there, and of the new one, among the sources. -/
  present : Nat
  excluded : Nat
  /-- Nothing is done without changes. -/
  changes : Option (List Setting)
  conditions : List Term

structure FoundRows where
  /-- The number of the table among the sources. -/
  source : Nat
  conditions : List Term
  loops : List (Loop QueryPlan)

structure Returning where
  source : Nat
  results : List Term

inductive UpdateWork where
  | rows (rows : FoundRows) (changes : List Setting)
  | joined (targets : List (Option Nat)) (query : CompiledQuery)

inductive Work where
  | nothing
  | select (query : CompiledQuery)
  | insert (table : TableId) (resolution : Option Resolution) (filling : Filling) (rows : RowsWork)
      (meetings : List Meeting) (returning : Returning)
  | update (table : TableId) (resolution : Option Resolution) (work : UpdateWork)
      (returning : Returning)
  | delete (table : TableId) (rows : FoundRows) (returning : Returning)
  | create (schema : Schema) (item : Item)
  | createTableAs (schema : Schema) (item : Item) (query : CompiledQuery)
  | createHosted (schema : Schema) (item : Item) (module : String) (args : List String)
  | drop (table : TableId)
  | begin (beginning : Beginning)
  | commit
  | rollback
  | savepoint (name : String)
  | release (name : String)
  | rollbackTo (name : String)

structure CompiledStatement where
  info : StatementInfo
  work : Work
  /-- The queries within terms, by slot. -/
  queries : List QueryPlan := []

end RowSource.Sql
