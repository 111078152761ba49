import RowSource.Sql.Compile
import RowSource.Sql.Work

/-!
# Tables that are changed

What the statements that change rows have in common: the table that they change, the new values that
they give to its columns, the rows that they find, the references that they touch, and what they return.
-/

namespace RowSource.Sql

namespace Compiling

structure Target where
  id : TableId
  table : Table
  source : Source Query
  label : String
  scope : Scope

def target (context : Context) (name : TableName) (label : Option String) (hint : IndexHint) :
    Compiling Target := do
  match ← locate context name with
  | .stored id table => do
      if Database.isListName id.name then
        complain context { message := "table " ++ id.name ++ " may not be modified" }
      let source : Source Query :=
        { number := ← fresh, origin := .stored id table, columns := table.columns
          used := List.range table.columns.length, hint := hint }
      let label := label.getD name.name
      return ⟨id, table, source, label, { tables := [scopeTable label (some id.schema) [] source] }⟩
  | .hosted table =>
      complain context { message := "table " ++ table.name ++ " may not be modified" }
  | .view id _ query => do
      let schema := if id.schema = .main then some .main else none
      let _ ← resolved { context with views := [id.name], schema := schema } query
      complain context { message := "cannot modify " ++ id.name ++ " because it is a view" }

def columnIndex? (table : Table) (name : String) : Option Nat :=
  table.columns.findIdx? fun column => sameName column.name name

def changeable? (table : Table) (name : String) : Option (Option Nat) :=
  match columnIndex? table name with
  | some position => some (some position)
  | none => if table.keyed.isNone && Scope.isRowidName name then some none else none

def isGenerated (table : Table) (position : Option Nat) : Bool :=
  (position.bind fun position => table.columns[position]?).any fun column => column.generated.isSome

/-! ### Rows and results -/

def foundRows (context : Context) (target : Target) (condition : Option Expression) :
    Compiling FoundRows := do
  let (terms, _) ← resolvedExpressions context target.scope condition.toList
  let (conditions, loops) ← changeLoops context target.source (terms.flatMap Term.conjuncts)
  return ⟨target.source.number, conditions, loops⟩

def finder (context : Context) : Compiling Finder := do
  return foundTo (readTo ((← viewCount context) + 1)) (deepest context)

/-- What a statement returns of the rows that it changes, with the names of the results. The table goes
by its own name there. -/
def returning (context : Context) (target : Target) (columns : List (ResultColumn Select)) :
    Compiling (Returning × List String) := do
  if columns.any fun column => match column with | .allOf _ => true | _ => false then
    complain context { message := "RETURNING may not use \"TABLE.*\" wildcards" }
  let source := target.source
  let name := target.id.name
  let table : FoundTable FoundQuery :=
    { label := name, item := .source source (some target.id.schema)
      columns := source.columns.map fun column => (column.name, column.hidden) }
  let columns ← columns.mapM (foundColumn (← finder context) context)
  let items ← ofExcept context (items [table] columns)
  let scope : Scope := { tables := [scopeTable name (some target.id.schema) [] source] }
  let (results, _) ← resolving context (results (resolvedTo (deepest context)) scope items)
  let terms := results.map (·.term)
  refuseOversized context terms
  return (⟨source.number, terms⟩, results.map (·.name))

/-! ### New values -/

def settingTarget (context : Context) (table : Table) (name : String) :
    Compiling (Option Nat) := do
  match changeable? table name with
  | none => complain context { message := "no such column: " ++ name, missing := true }
  | some position =>
      if isGenerated table position then
        let column := (position.bind fun position => table.columns[position]?).map (·.name)
        complain context
          { message := "cannot UPDATE generated column \"" ++ column.getD name ++ "\"" }
      else return position

def setting (context : Context) (scope : Scope) (table : Table) (assignment : Assignment) :
    Compiling Setting := do
  let (terms, _) ← resolvedExpressions context scope [assignment.value]
  let term := terms.headD (.literal .null)
  let width := assignment.columns.length
  if term.width ≠ width then
    complain context { message :=
      match term with
      | .query _ _ _ =>
          "sub-select returns " ++ toString term.width ++ " columns - expected " ++ toString width
      | _ =>
          if width = 1 then "row value misused"
          else toString width ++ " columns assigned " ++ toString term.width ++ " values" }
  return ⟨← assignment.columns.mapM (settingTarget context table), term⟩

/-- Whether two targets are the same column. That which shows the identifier of the row is the
identifier. -/
def isSameTarget (table : Table) (a b : Option Nat) : Bool :=
  let isRowid (target : Option Nat) : Bool := target.isNone || target == table.key
  a == b || (isRowid a && isRowid b)

/-- The settings that count, in the order in which they are worked out: the identifier first, and then
the columns in their own order. Of several for one column the last one counts. -/
def ordered (table : Table) (settings : List Setting) : List Setting :=
  let counts (setting : Setting) (later : List Setting) : Bool :=
    setting.targets.any fun target =>
      !(later.flatMap (·.targets)).any (isSameTarget table target)
  let left := (settings.zipIdx.filter fun (setting, index) =>
    counts setting (settings.drop (index + 1))).map (·.1)
  let place (setting : Setting) : Nat :=
    match setting.targets.head? with
    | some (some position) => if table.key == some position then 0 else position + 1
    | _ => 0
  left.mergeSort fun a b => decide (place a ≤ place b)

def settings (context : Context) (scope : Scope) (table : Table) (assignments : List Assignment) :
    Compiling (List Setting) := do
  return ordered table (← assignments.mapM (setting context scope table))

/-! ### References -/

inductive Touch where
  | inserts (several : Bool)
  | updates (targets : List (Option Nat))
  | deletes

namespace Touch

def changes (touch : Touch) (table : Table) (position : Nat) : Bool :=
  match touch with
  | .updates targets => targets.any (isSameTarget table (some position))
  | _ => true

def reaches (touch : Touch) (name : String) (table : Table) (reference : Reference) : Bool :=
  sameName reference.table name || reference.columns.any (touch.changes table)

def isReachedBy (touch : Touch) (table : Table) (reference : Reference) : Bool :=
  let isPrimary (position : Nat) : Bool :=
    table.key == some position || table.unique.any fun uniqueness =>
      uniqueness.primary && uniqueness.positions.contains position
  match touch with
  | .inserts several => several || reference.deferred
  | .deletes => true
  | .updates _ =>
      table.columns.zipIdx.any fun (column, position) =>
        touch.changes table position &&
          if reference.targets.isEmpty then isPrimary position
          else reference.targets.any (sameName column.name)

end Touch

def mismatch (child : String) (reference : Reference) : Complaint :=
  { message := "foreign key mismatch - \"" ++ child ++ "\" referencing \"" ++ reference.table ++
      "\"" }

/-- Refuses to change a table whose references are not to keys of tables, or to which others do not
refer by keys. -/
def checkReferences (context : Context) (target : Target) (touch : Touch) : Compiling Unit := do
  let id := target.id
  let database ← picture context id.schema
  (target.table.references.filter (touch.reaches id.name target.table)).forM fun reference => do
    match database.find? reference.table with
    | none =>
        complain context
          { message := "no such table: " ++ id.schema.name ++ "." ++ reference.table
            missing := true }
    | some _ =>
        if (reference.key? (database.table reference.table)).isNone then
          complain context (mismatch id.name reference)
  (database.referring id.name).forM fun (child, _, reference) => do
    if touch.isReachedBy target.table reference && (reference.key? target.table).isNone then
      complain context (mismatch child reference)

end Compiling

end RowSource.Sql
