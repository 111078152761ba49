import RowSource.Sql.Declared

/-!
# Finding tables

What a name in a query stands for: a table with rows of its own, a view, or a table of the host. A
host table is connected when it is named for the first time.
-/

namespace RowSource.Sql

/-- What compiling gathers: the number of the next source, and the queries within expressions. -/
structure CompilingState where
  sources : Nat := 0
  queries : List Query := []

/-- Compiling on a store, with demands on the host. Sources are numbered as they are met. -/
abbrev Compiling := StateT CompilingState (Routine Store)

namespace Compiling

/-- A query that a statement gives a name, with the others that it may name itself. -/
inductive NamedTable where
  | mk (table : CommonTable Select) (others : List NamedTable)

structure Context where
  connection : Nat
  sql : String
  /-- The views whose queries are being read, the innermost first. -/
  views : List String := []
  /-- The database whose tables the plain names in a view stand for. -/
  schema : Option Schema := none
  named : List NamedTable := []

def Context.inView (context : Context) : Bool := !context.views.isEmpty

def look {α : Type} (f : Store → α) : Compiling α := (Routine.look f : Running α)

def update (f : Store → Store) : Compiling Unit := (Routine.update f : Running Unit)

def step (step : Step) : Compiling Unit := (transact step : Running Unit)

def fail {α : Type} (fault : EngineFault) : Compiling α := (Routine.fail fault : Running α)

def ask (demand : Demand) : Compiling demand.Reply := (Routine.ask demand : Running demand.Reply)

/-- Refuses the text. A place in the query of a view is no place in the text. -/
def complain {α : Type} (context : Context) (complaint : Complaint) : Compiling α := do
  if complaint.missing then
    update (Store.updateConnection context.connection fun c => { c with isDoubtful := true })
  let complaint := if context.inView then { complaint with place := none } else complaint
  fail (complaint.toFault context.sql)

def ofExcept {α : Type} (context : Context) : Except Complaint α → Compiling α
  | .ok value => return value
  | .error complaint => complain context complaint

/-- Resolves something, and tells which functions over all rows it uses. -/
def resolving {α : Type} (context : Context) (action : Resolving α) :
    Compiling (α × List Aggregate) := do
  let (value, gathered) ← ofExcept context (action.run { queries := (← get).queries })
  modify fun state => { state with queries := gathered.queries }
  return (value, gathered.totals)

def fresh : Compiling Nat :=
  modifyGet fun state => (state.sources, { state with sources := state.sources + 1 })

def picture (context : Context) (schema : Schema) : Compiling Database := do
  step (Store.lookedAt context.connection)
  look (·.picture context.connection schema)

/-! ### Host tables -/

/-- The table that a schema declares, if it declares one whose columns all hold values of their
own. -/
def declared? (schema : String) : Option TableDef :=
  match Parser.read {} schema with
  | .ok { command := some (.createTable _ definition), .. } =>
      if definition.columns.any fun column => column.generated.isSome then none
      else some definition
  | _ => none

def connect (id : TableId) (module : String) (args : List String) : Compiling HostedTable := do
  let connected ← ask (.connect module args)
  match declared? connected.schemaSql with
  | none => fail (.failed 1 (some ("vtable constructor failed: " ++ id.name)))
  | some definition =>
      return {
        schema := id.schema
        name := id.name
        number := connected.number
        columns := definition.hostedColumns
        hasRowid := !definition.withoutRowid
        directOnly := connected.directOnly }

def declaredTable (context : Context) (id : TableId) (module : String) (args : List String) :
    Compiling HostedTable := do
  let connection ← look (·.connection context.connection)
  match connection.declared.find? fun table =>
      table.schema == id.schema && sameName table.name id.name with
  | some table => return table
  | none =>
      if (connection.modules.any fun known => sameName known.1 module) then
        let table ← connect id module (module :: id.schema.name :: id.name :: args)
        update (Store.updateConnection context.connection fun connection =>
          { connection with declared := table :: connection.declared })
        return table
      else fail (.failed 1 (some ("no such module: " ++ module)))

def standingTable? (context : Context) (name : String) : Compiling (Option HostedTable) := do
  let connection ← look (·.connection context.connection)
  match connection.standing.find? fun table => sameName table.name name with
  | some table => return some table
  | none =>
      match connection.modules.find? fun known => sameName known.1 name && known.2 with
      | none => return none
      | some (registered, _) =>
          let table ← connect ⟨.main, registered⟩ registered [registered, "main", registered]
          update (Store.updateConnection context.connection fun connection =>
            { connection with standing := table :: connection.standing })
          return some table

/-! ### Names -/

inductive Located where
  | stored (id : TableId) (table : Table)
  | view (id : TableId) (columns : Option (List String)) (query : Select)
  | hosted (table : HostedTable)

/-- The databases in which a table is looked for, in order. -/
def schemasFor (context : Context) (name : TableName) : List Schema :=
  match name.database, context.schema with
  | some database, _ => (Schema.ofName? database).toList
  | none, some schema => [schema]
  | none, none => [.temp, .main]

def listOf? (schemas : List Schema) (isQualified : Bool) (name : String) : Option TableId :=
  let isTemporary := sameName name "sqlite_temp_master" || sameName name "sqlite_temp_schema"
  if !Database.isListName name then none
  else if schemas.contains .main && !isTemporary then some ⟨.main, "sqlite_master"⟩
  else if schemas.contains .temp && (isTemporary || isQualified) then
    some ⟨.temp, "sqlite_temp_master"⟩
  else none

def itemOf? (context : Context) (name : String) :
    List Schema → Compiling (Option (Schema × Item))
  | [] => return none
  | schema :: rest => do
      match (← picture context schema).find? name with
      | some item => return some (schema, item)
      | none => itemOf? context name rest

def locate? (context : Context) (name : TableName) : Compiling (Option Located) := do
  let schemas := schemasFor context name
  match ← itemOf? context name.name schemas with
  | some (schema, item) =>
      let id : TableId := ⟨schema, item.name⟩
      match item.entry with
      | .table table => return some (.stored id table)
      | .view columns query => return some (.view id columns query)
      | .hosted module args => return some (.hosted (← declaredTable context id module args))
  | none =>
      match listOf? schemas name.database.isSome name.name with
      | some id => return some (.stored id { columns := Database.listColumns })
      | none => return (← standingTable? context name.name).map .hosted

def missingName (context : Context) (name : TableName) : String :=
  match name.database, context.schema with
  | none, some .main => "main." ++ name.name
  | _, _ => name.text

def locate (context : Context) (name : TableName) : Compiling Located := do
  match ← locate? context name with
  | some located => return located
  | none =>
      complain context { message := "no such table: " ++ missingName context name, missing := true }

end Compiling

end RowSource.Sql
