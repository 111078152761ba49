import RowSource.Sql.Insertion
import RowSource.Sql.Sequence

/-!
# Statements

Compiles each kind of statement to the work that it is.
-/

namespace RowSource.Sql

namespace Compiling

/-! ### Updates and deletions -/

/-- The query for the rows that an update finds together with other tables: their identifiers, and the new
values. -/
def joinedQuery (updating : Updating) (label : String) (values : List Expression) : Select :=
  let rowid : Expression := .column none (some label) "rowid" none 0
  let target : TableRef Select :=
    { item := .named updating.table none, label := some label, hint := updating.hint }
  let core : SelectCore Select :=
    { columns := (rowid :: values).map fun value => .expr value none ""
      tables := target :: updating.sources
      condition := updating.condition }
  { parts := [{ core := core }] }

def assignedValues (assignment : Assignment) : List Expression :=
  match assignment.columns, assignment.value with
  | [_], value => [value]
  | _, .row items => items
  | _, value => [value]

def updateWork (context : Context) (target : Target) (updating : Updating) :
    Compiling (UpdateWork × List (Option Nat)) := do
  if updating.sources.isEmpty then
    let changes ← settings context target.scope target.table updating.changes
    let rows ← foundRows context target updating.condition
    refuseOversized context (changes.map (·.value))
    return (.rows rows changes, changes.flatMap (·.targets))
  else
    let targets ← (updating.changes.flatMap (·.columns)).mapM (settingTarget context target.table)
    let values := updating.changes.flatMap assignedValues
    let query ← query context .late (joinedQuery updating target.label values)
    return (.joined targets query, targets)

def alteration (context : Context) (updating : Updating) : Compiling (Work × List String) := do
  let context := withNamed updating.tables context
  let target ← target context updating.table updating.label updating.hint
  let (work, targets) ← updateWork context target updating
  checkGenerated context target.table
  checkReferences context target (.updates targets)
  let (returning, names) ← returning context target updating.returning
  return (.update target.id updating.resolution work returning, names)

def deletion (context : Context) (deletion : Deletion) : Compiling (Work × List String) := do
  let context := withNamed deletion.tables context
  let target ← target context deletion.table deletion.label deletion.hint
  let rows ← foundRows context target deletion.condition
  checkReferences context target .deletes
  let (returning, names) ← returning context target deletion.returning
  return (.delete target.id rows returning, names)

/-! ### The list of tables -/

def schemaOf (name : NewName) : Schema :=
  if name.temporary then .temp else (name.name.database.bind Schema.ofName?).getD .main

def isKnown (context : Context) (name : NewName) : Compiling Bool := do
  return ((← picture context (schemaOf name)).known? name.name.name).isSome

def typeOf : Affinity → String
  | .blob => ""
  | .text => "TEXT"
  | .numeric | .flexible => "NUM"
  | .integer => "INT"
  | .real => "REAL"

def filledColumns (query : CompiledQuery) : List Column :=
  ((columnNames query.names).zip query.shape.columns).map fun (name, affinity, _) =>
    let type := typeOf (affinity.getD .blob)
    { name := name, affinity := Affinity.ofType type, size := ColumnDef.sizeOf type }

/-- A name as a declaration writes it: in quotes unless it is a plain word. -/
def writtenName (name : String) : String :=
  let isPlain (c : Char) : Bool := c.isAlphanum || c == '_'
  let isWord := name.toList.all isPlain && !name.isEmpty &&
    !(name.toList.head?.any Char.isDigit) && !Token.isKeyword name
  if isWord then name else quotedName name
where
  quotedName (name : String) : String :=
    let doubled := name.toList.flatMap fun c => if c = '"' then [c, c] else [c]
    String.ofList ('"' :: doubled ++ ['"'])

/-- The declaration of a table that a query fills. A long one takes several lines. -/
def filledDeclaration (name : String) (columns : List Column) (types : List String) : String :=
  let width (name : String) : Nat :=
    (name.toList.map fun c => if c = '"' then c.utf8Size + 1 else c.utf8Size).foldl Nat.add 2
  let total := (columns.map fun column => width column.name + 5).foldl Nat.add (width name)
  let (first, next, last) :=
    if total < 50 then ("", ",", ")") else ("\n  ", ",\n  ", "\n)")
  let written := (columns.zip types).map fun (column, type) =>
    writtenName column.name ++ if type.isEmpty then "" else " " ++ type
  "CREATE TABLE " ++ writtenName name ++ "(" ++ first ++ String.intercalate next written ++ last

def filledItem (name : String) (query : CompiledQuery) : Item :=
  let columns := filledColumns query
  let types := query.shape.columns.map fun column => typeOf (column.1.getD .blob)
  { name := name, entry := .table { columns := columns }
    sql := filledDeclaration name columns types }

/-- Whether a table may not be dropped: it belongs to the engine, or is a module itself. -/
def isFixture (context : Context) : Located → Compiling Bool
  | .stored id _ => return (foldCase id.name).startsWith "sqlite_"
  | .view _ _ _ => return false
  | .hosted table => do
      return ((← picture context table.schema).find? table.name).isNone

/-- Removes a table or a view. Its name has to stand for something of that kind. -/
def dropped (context : Context) (kind : EntryKind) (name : TableName) (ifExists : Bool) :
    Compiling Work := do
  match ← locate? context name with
  | none =>
      if ifExists then return .nothing
      else
        complain context
          { message := "no such " ++ kind.name ++ ": " ++ name.text, missing := true }
  | some located => do
      let (id, isView) := match located with
        | .stored id _ => (id, false)
        | .view id _ _ => (id, true)
        | .hosted table => (⟨table.schema, table.name⟩, false)
      if ← isFixture context located then
        complain context { message := "table " ++ id.name ++ " may not be dropped" }
      else if isView && kind != .view then
        complain context { message := "use DROP VIEW to delete view " ++ id.name }
      else if !isView && kind == .view then
        complain context { message := "use DROP TABLE to delete table " ++ id.name }
      else return .drop id

/-! ### Commands -/

/-- The work of a command that creates something, unless there is something of its name already. -/
def creation (context : Context) (name : NewName) (work : Compiling Work) :
    Compiling (Work × List String) := do
  if ← isKnown context name then return (.nothing, []) else return (← work, [])

/-- The work of a command, with the names of its result columns. The text of a declaration is given
from its name on. -/
def work (context : Context) (declaration : String) : Command → Compiling (Work × List String)
  | .select select => do
      let _ ← picture context .main
      let query ← query context .late select
      return (.select query, query.names)
  | .insert command => insertion context command
  | .update command => alteration context command
  | .delete command => deletion context command
  | .createTable name definition =>
      creation context name do
        match definition.defect? name.name.name with
        | some complaint => complain context complaint
        | none =>
            return .create (schemaOf name)
              { name := name.name.name, entry := .table (definition.table name.name.name)
                sql := "CREATE TABLE " ++ declaration }
  | .createTableAs name select =>
      creation context name do
        let query ← query context .late select
        return .createTableAs (schemaOf name) (filledItem name.name.name query) query
  | .createView name columns select =>
      creation context name do
        return .create (schemaOf name)
          { name := name.name.name, entry := .view columns select
            sql := "CREATE VIEW " ++ declaration }
  | .createVirtual name module args =>
      creation context name do
        return .createHosted (schemaOf name)
          { name := name.name.name, entry := .hosted module args
            sql := "CREATE VIRTUAL TABLE " ++ declaration } module args
  | .drop kind name ifExists => return (← dropped context kind name ifExists, [])
  | .begin beginning => return (.begin beginning, [])
  | .commit => return (.commit, [])
  | .rollback => return (.rollback, [])
  | .savepoint name => return (.savepoint name, [])
  | .release name => return (.release name, [])
  | .rollbackTo name => return (.rollbackTo name, [])

def isTransactional : Command → Bool
  | .begin _ | .commit | .rollback | .savepoint _ | .release _ | .rollbackTo _ => true
  | _ => false

/-- Whether a command leaves the database as it is. A transaction that could not change it claims
nothing. -/
def isReadonly (connection : Connection) : Command → Bool
  | .select _ => true
  | .begin beginning => beginning == .deferred || connection.readonly
  | command => isTransactional command

def usesTables (command : Command) (work : Work) : Bool :=
  match command, work with
  | .select _, .select query => query.isReading
  | .select _, _ => false
  | command, _ => !isTransactional command

def catalog (context : Context) : Compiling Catalog := do
  let known ← look fun store => fun schema => (store.picture context.connection schema).known?
  return { find? := fun database name =>
    (Schema.ofName? database).bind fun schema => known schema name }

/-- Reads the first statement of a text. A complaint that waited for the end of the statement points
nowhere if the list of tables had to be looked at first. -/
def read (context : Context) (sql : String) : Compiling Parser.Reading := do
  let connection ← look (·.connection context.connection)
  match Parser.read (← catalog context) sql with
  | .ok reading => return reading
  | .error complaint =>
      if complaint.atEnd && !connection.hasLooked then
        step (Store.lookedAt context.connection)
        complain context { complaint with place := none }
      else complain context complaint

def statement (connection : Nat) (sql : String) : Compiling (CompiledStatement × String) := do
  update (Store.updateConnection connection fun c => { c with isDoubtful := false })
  let context : Context := { connection := connection, sql := sql }
  let reading ← read context sql
  match reading.command with
  | none =>
      return ({ info := { isEmpty := true, columns := [], readonly := true, parameters := 0 }
                work := .nothing }, reading.rest)
  | some command =>
      let (work, columns) ← work context reading.declaration command
      let info : StatementInfo :=
        { isEmpty := false
          columns := columns
          readonly := isReadonly (← look (·.connection connection)) command
          parameters := reading.parameters
          usesTables := usesTables command work }
      return ({ info := info, work := work, queries := ← innerPlans context }, reading.rest)

end Compiling

/-- Compiles the first statement of a text. If something was not found and the list of tables was
changed by another connection, it is compiled once more with the new list. -/
def compile (connection : Nat) (sql : String) : Running (CompiledStatement × String) :=
  let once : Running (CompiledStatement × String) := (Compiling.statement connection sql).run' {}
  once.orElse
    (fun store => (store.connection connection).isDoubtful && store.isOutdated connection) do
    Routine.update (Store.refreshed connection)
    once

end RowSource.Sql
