import RowSource.Sql.Target

/-!
# Compiling insertions

Where the values of new rows go, where the rows come from, and what is done where they meet rows that
are there already.
-/

namespace RowSource.Sql

namespace Compiling

/-! ### Columns -/

def namedTarget (context : Context) (written : String) (table : Table) (name : String) :
    Compiling (Option Nat) := do
  match changeable? table name with
  | none =>
      complain context
        { message := "table " ++ written ++ " has no column named " ++ name, missing := true }
  | some position =>
      if isGenerated table position then
        let column := (position.bind fun position => table.columns[position]?).map (·.name)
        complain context
          { message := "cannot INSERT into generated column \"" ++ column.getD name ++ "\"" }
      else return position

def targets (context : Context) (written : String) (table : Table) :
    Option (List String) → Compiling (List (Option Nat))
  | none => return table.givenColumns.map some
  | some names => names.mapM (namedTarget context written table)

/-- Where values for some columns go. Of several values for one column the first one counts, and of
those for the identifier of the row the last one. -/
def fillingOf (table : Table) (targets : List (Option Nat)) : Filling where
  columns := (List.range table.columns.length).map fun position => targets.idxOf? (some position)
  rowid :=
    ((targets.zipIdx.filter fun entry => isSameTarget table none entry.1).getLast?).map (·.2)

def checkWidth (context : Context) (written : String) (isNamed : Bool) (needed given : Nat) :
    Compiling Unit :=
  if needed = given then return
  else
    let message :=
      if isNamed then toString given ++ " values for " ++ toString needed ++ " columns"
      else
        "table " ++ written ++ " has " ++ toString needed ++ " columns but " ++ toString given ++
          " values were supplied"
    complain context { message := message }

/-! ### Rows -/

/-- Whether a column takes the values of another one as they are. Only later columns have to agree in
what stands for a missing value. -/
def takesColumn (position : Nat) (column other : Column) : Bool :=
  column.affinity == other.affinity && column.collation == other.collation &&
    (!column.notNull || other.notNull) && (column.kind.isNone || column.kind == other.kind) &&
    column.generated == other.generated && (position == 0 || column.default == other.default)

/-- Whether a table can take the rows of another one as they are. -/
def takesRowsOf (table source : Table) : Bool :=
  let conditions (table : Table) : List Term := table.checks.map (·.condition)
  table.columns.length == source.columns.length && table.key == source.key &&
    table.keyed.isSome == source.keyed.isSome && table.references.isEmpty &&
    conditions table == conditions source &&
    ((table.columns.zip source.columns).zipIdx.all fun ((column, other), position) =>
      takesColumn position column other) &&
    table.unique.all fun uniqueness =>
      source.unique.any fun other =>
        other.columns == uniqueness.columns && other.resolution == uniqueness.resolution

def wholeTable? (context : Context) (select : Select) : Compiling (Option (TableId × Table)) := do
  match select.tables, select.parts, select.order.isEmpty && select.limit.isNone with
  | [], [⟨_, core⟩], true =>
      match core.columns, core.tables with
      | [.all], [{ item := .named name none, condition := none, .. }] =>
          if core.distinct || core.condition.isSome || !core.groups.isEmpty ||
              (namedTable? context name).isSome then return none
          else
            match ← locate? context name with
            | some (.stored id table) => return some (id, table)
            | _ => return none
      | _, _ => return none
  | _, _, _ => return none

def singleRow? (select : Select) : Option (List Expression) :=
  match select.parts with
  | [⟨_, core⟩] =>
      if core.isValues then
        some (core.columns.filterMap fun column =>
          match column with
          | .expr value _ _ => some value
          | _ => none)
      else none
  | _ => none

structure Inserted where
  target : Target
  written : String
  columns : Option (List String)
  targets : List (Option Nat)
  isReturning : Bool

def Inserted.isInOrder (inserted : Inserted) : Bool :=
  inserted.target.table.generatedColumns.isEmpty &&
    inserted.targets == (List.range inserted.targets.length).map some

def Inserted.rows (inserted : Inserted) (context : Context) : RowsSource → Compiling RowsWork
  | .defaults => do
      if inserted.columns.isSome then
        checkWidth context inserted.written true inserted.targets.length 0
      return .defaults
  | .query select => do
      let target := inserted.target
      let check (width : Nat) : Compiling Unit :=
        checkWidth context inserted.written inserted.columns.isSome inserted.targets.length width
      match singleRow? select with
      | some expressions => do
          let (terms, _) ← resolvedExpressions (withNamed select.tables context) {} expressions
          check terms.length
          refuseOversized context terms
          return .values terms
      | none => do
          let query ← query context (if inserted.isInOrder then .early else .late) select
          check query.names.length
          let whole ←
            if inserted.columns.isNone && !inserted.isReturning then wholeTable? context select
            else pure none
          match whole with
          | some (source, table) =>
              if source ≠ target.id && takesRowsOf target.table table then
                return .copy source query
              else return .query query (query.tables.contains target.id)
          | none => return .query query (inserted.isReturning || query.tables.contains target.id)

/-! ### Rows that are there already -/

/-- Whether a term is a column of a key, in its order of texts if one is asked for. -/
def isKeyColumn (key : IndexColumn) (term : Term) : Bool :=
  match term, term.uncollated with
  | .collate _ collation _, .column ref => ref.position == key.position && collation == key.collation
  | _, .column ref => ref.position == key.position
  | _, _ => false

def keyOf? (table : Table) (terms : List Term) : Option (Option Nat) :=
  let isRowid : Bool :=
    match terms with
    | [.column ref] => ref.position.isNone
    | _ => false
  if isRowid && table.keyed.isNone then some none
  else
    (table.unique.findIdx? fun uniqueness =>
      uniqueness.columns.length == terms.length && uniqueness.columns.all fun key =>
        terms.any (isKeyColumn key)).map some

def metKeys (context : Context) (target : Target) (upsert : Upsert) (place count : Nat) :
    Compiling (Option (List (Option Nat))) := do
  if upsert.target.isEmpty then return none
  else
    let (terms, _) ← resolvedExpressions context target.scope
      (upsert.target.map (·.key) ++ upsert.targetCondition.toList)
    match keyOf? target.table (terms.take upsert.target.length) with
    | some key => return some [key]
    | none =>
        let which := if count = 1 then "" else ordinal (place + 1) ++ " "
        complain context
          { message := which ++
              "ON CONFLICT clause does not match any PRIMARY KEY or UNIQUE constraint" }

/-- What a new row is called where it meets another one. Its columns go by that name only. -/
def excludedTable (target : Target) (number : Nat) : ScopeTable :=
  let source := { target.source with number := number }
  let all := List.range source.columns.length
  { scopeTable "excluded" none all source with rowid := none }

def meeting (context : Context) (target : Target) (upsert : Upsert)
    (keys : Option (List (Option Nat))) : Compiling Meeting := do
  let excluded ← fresh
  let scope := { target.scope with
    tables := target.scope.tables ++ [excludedTable target excluded] }
  let changes ← match upsert.changes with
    | none => pure none
    | some assignments => do
        pure (some (← settings context scope target.table assignments))
  let (conditions, _) ← resolvedExpressions context scope upsert.condition.toList
  return {
    keys := keys, present := target.source.number, excluded := excluded, changes := changes
    conditions := conditions }

/-- What is done where new rows meet others. The keys of all clauses are found first. -/
def meetings (context : Context) (target : Target) (upserts : List Upsert) :
    Compiling (List Meeting) := do
  let keys ← upserts.zipIdx.mapM fun (upsert, place) =>
    metKeys context target upsert place upserts.length
  (upserts.zip keys).mapM fun (upsert, keys) => meeting context target upsert keys

/-! ### Insertions -/

def checkGenerated (context : Context) (table : Table) : Compiling Unit :=
  let left := (List.range table.columns.length).foldl
    (fun pending _ =>
      match table.ready? pending with
      | some (position, _, _) => pending.erase position
      | none => pending)
    table.generatedColumns
  match left.head?.bind fun position => table.columns[position]? with
  | some column =>
      complain context { message := "generated column loop on \"" ++ column.name ++ "\"" }
  | none => return

def insertion (context : Context) (insertion : Insertion) : Compiling (Work × List String) := do
  let context := withNamed insertion.tables context
  let target ← target context insertion.table insertion.label .free
  let written := insertion.label.getD insertion.table.text
  let targets ← targets context written target.table insertion.columns
  let inserted : Inserted :=
    { target := target, written := written, columns := insertion.columns, targets := targets
      isReturning := !insertion.returning.isEmpty }
  let rows ← inserted.rows context insertion.source
  let meetings ← meetings context target insertion.upserts
  checkGenerated context target.table
  checkReferences context target (.inserts rows.mayBeSeveral)
  let (returning, names) ← returning context target insertion.returning
  let filling := match rows with
    | .defaults => fillingOf target.table []
    | _ => fillingOf target.table targets
  return (.insert target.id insertion.resolution filling rows meetings returning, names)

end Compiling

end RowSource.Sql
