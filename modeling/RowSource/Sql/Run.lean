import RowSource.Sql.Locate
import RowSource.Sql.Update

/-!
# Running statements

Does the work of compiled statements: queries and changes of rows, changes of the list of tables, and
transactions.
-/

namespace RowSource.Sql

/-! ### The list of tables -/

/-- Adds something to the list of tables. A table that promises never to give an identifier twice
comes with the table that keeps them. -/
def addItem (connection : Nat) (schema : Schema) (item : Item) : Running Unit :=
  Routine.update (Store.reshape connection schema fun database =>
    let database := database.insert item
    match item.entry with
    | .table table => if table.autoincrement then database.withSequences else database
    | _ => database)

/-- Creates a table and fills it. The list of tables has changed only when the table is complete. -/
def runCreateTableAs (connection : Nat) (schema : Schema) (item : Item) (queries : List QueryPlan)
    (query : CompiledQuery) (parameters : List Datum) : Running Unit :=
  reshaping connection schema do
    Routine.update fun store =>
      store.setDatabase connection schema ((store.database connection schema).insert item)
    let affinities := query.shape.columns.map fun column => column.1.getD .blob
    let put (values : List Datum) : Store → Store :=
      Store.changeTable connection ⟨schema, item.name⟩ fun table =>
        let row := (affinities.zip values).map fun (affinity, value) => stored affinity value
        { table with rows := Table.insertRow (table.lastRowid + 1) row table.rows }
    runQuery connection queries query parameters
      (fun values _ => do
        Routine.update (put values)
        return ((), true)) ()
    Routine.update (Store.reshape connection schema id)

/-- What is left of a host table that could not be created: what goes on of a transaction has a list
of tables in which it stands, until the list is looked at anew. -/
def withPhantom (connection : Nat) (schema : Schema) (item : Item) (store : Store) : Store :=
  let phantom := (store.database connection schema).insert item
  store.updateConnection connection fun c =>
    if schema = .main && (c.inTransaction || 1 < c.writers) then
      { c with picture := some phantom, reshaped := true }
    else { c with picture := none, declared := [] }

def runCreateHosted (connection : Nat) (schema : Schema) (item : Item) (module : String)
    (args : List String) : Running Unit :=
  reshaping connection schema do
    Routine.guarded (withPhantom connection schema item) do
      let known ← Routine.look (·.connection connection)
      if (known.modules.any fun known => sameName known.1 module && !known.2) then
        let (table, _) ← (Compiling.connect ⟨schema, item.name⟩ module
          (module :: schema.name :: item.name :: args)).run {}
        addItem connection schema item
        Routine.update (Store.updateConnection connection fun c =>
          { c with declared := table :: c.declared })
      else .fail (.failed 1 (some ("no such module: " ++ module)))

/-- Whether something may not be removed: a table while anybody is reading, and a host table while
it is scanned. -/
def isLocked (connection : Connection) (id : TableId) : Entry → Bool
  | .table _ => decide (0 < connection.readers)
  | .view _ _ => false
  | .hosted _ _ =>
      connection.declared.any fun table =>
        table.schema == id.schema && sameName table.name id.name &&
          connection.scanned.contains table.number

def clearReferred (connection : Nat) (id : TableId) : Running Unit := do
  let store ← Routine.look fun (store : Store) => store
  if !((store.database connection id.schema).referring id.name).isEmpty then
    let env : Environment := { connection := connection }
    let rows := (store.table connection id).rows
    let _ ← keepingReferences connection
      (Changing.after (rows.forM fun row => (deeds env).remove id row) {})

def runDrop (connection : Nat) (id : TableId) : Running Unit :=
  reshaping connection id.schema do
    clearReferred connection id
    let store ← Routine.look fun (store : Store) => store
    let entry := ((store.database connection id.schema).find? id.name).map Item.entry
    if entry.any (isLocked (store.connection connection) id) then
      .fail (.failed 6 (some "database table is locked"))
    else
      Routine.update (Store.reshape connection id.schema fun database =>
        (database.erase id.name).withoutSequence id.name)
      Routine.update (Store.updateConnection connection fun c =>
        { c with declared := c.declared.filter fun table =>
            !(table.schema == id.schema && sameName table.name id.name) })

/-! ### Statements -/

def runWork (connection : Nat) (queries : List QueryPlan) (parameters : List Datum) :
    Work → Running Unit
  | .nothing => transact (Store.read connection)
  | .select query =>
      runQuery connection queries query parameters
        (fun values _ => do
          Routine.row (values.map Datum.toValue)
          return ((), true)) ()
  | .insert id resolution filling rows meetings returning =>
      alteringRows connection id.schema do
        let env ← startingEnvironment connection queries parameters
        let storage : Storage := { id := id, resolution := resolution, meetings := meetings }
        runInsert ⟨env, storage, filling, returning⟩ queries rows
  | .update id resolution work returning =>
      alteringRows connection id.schema do
        let env ← startingEnvironment connection queries parameters
        runUpdate env queries id resolution returning work
  | .delete id rows returning =>
      alteringRows connection id.schema do
        let env ← startingEnvironment connection queries parameters
        runDelete env queries id rows returning
  | .create schema item => reshaping connection schema (addItem connection schema item)
  | .createTableAs schema item query =>
      runCreateTableAs connection schema item queries query parameters
  | .createHosted schema item module args => runCreateHosted connection schema item module args
  | .drop id => runDrop connection id
  | .begin beginning => transact (Store.begin connection beginning)
  | .commit => transact (Store.commitTransaction connection)
  | .rollback => transact (Store.rollback connection)
  | .savepoint name => transact (Store.setSavepoint connection name)
  | .release name => transact (Store.releaseSavepoint connection name)
  | .rollbackTo name => transact (Store.rollbackToSavepoint connection name)

/-- Runs a compiled statement. There is nothing to run in a text without one. -/
def runStatement (connection : Nat) (statement : CompiledStatement) (parameters : List SqlValue) :
    Running Unit :=
  if statement.info.isEmpty then
    .fail (.failed 21 (some "bad parameter or other API misuse"))
  else
    runWork connection statement.queries
      (parameters.map fun value => (Datum.ofValue value).withoutNaN) statement.work

end RowSource.Sql
