import RowSource.Sql.Storing

/-!
# Inserting rows

New rows are made of given values and of the defaults of the other columns, and stored one after
another.
-/

namespace RowSource.Sql

def newValues (env : Environment) (given : List Datum) :
    List (Column × Option Nat) → Executing (List Datum)
  | [] => return []
  | (column, place) :: rest => do
      let value ← match place with
        | some place => pure (given.getD place .null)
        | none =>
            if column.generated.isSome then pure .null
            else evaluate { connection := env.connection } column.default
      return value :: (← newValues env given rest)

def freshRowid (env : Environment) (id : TableId) : Changing Int := do
  let database ← Changing.look fun store => store.database env.connection id.schema
  match database.newRowid? id.name (database.table id.name) with
  | some rowid => return rowid
  | none => .fail (.failed 13 (some "database or disk is full"))

def noteRowid (env : Environment) (id : TableId) (table : Table) (rowid : Int) : Changing Unit :=
  if table.autoincrement then
    Changing.update fun store =>
      store.setDatabase env.connection id.schema
        ((store.database env.connection id.schema).givenRowid id.name table rowid)
  else return

def storeNew (env : Environment) (storage : Storage) (rowid : Option Int) (values : List Datum) :
    Changing (Option Outcome) := do
  let table ← tableOf env storage.id
  let rowid ← match rowid with
    | some rowid => pure rowid
    | none => freshRowid env storage.id
  noteRowid env storage.id table rowid
  match ← (storeRow (deeds env) env storage rowid values).run with
  | .error outcome => return outcome
  | .ok row => do
      if table.keyed.isNone then
        Changing.update (Store.updateConnection env.connection fun c =>
          { c with lastRowid := Int64.ofInt row.1 })
      return some ⟨row, true⟩

structure Inserting where
  env : Environment
  storage : Storage
  filling : Filling
  returning : Returning

def Inserting.insert (inserting : Inserting) (rowid : Option Int) (values : List Datum) :
    Changing Unit := do
  let env := inserting.env
  match ← storeNew env inserting.storage rowid values with
  | some outcome => noteRow env inserting.returning outcome.row
  | none => return

def Inserting.insertGiven (inserting : Inserting) (given : List Datum) : Changing Unit := do
  let filling := inserting.filling
  let table ← tableOf inserting.env inserting.storage.id
  let values ← (newValues inserting.env given (table.columns.zip filling.columns) : Executing _)
  let rowid ← match filling.rowid with
    | some place => Changing.ofExcept (rowidOf (given.getD place .null))
    | none => pure none
  inserting.insert rowid values

def Inserting.insertQuery (inserting : Inserting) (queries : List QueryPlan) (query : CompiledQuery) :
    Running Progress :=
  runQuery inserting.env.connection queries query inserting.env.parameters
    (fun values progress => do
      let progress ← (inserting.insertGiven values).after progress
      return (progress, progress.stopped.isNone)) {}

def queriedRows (env : Environment) (queries : List QueryPlan) (query : CompiledQuery) :
    Running (List (List Datum)) := do
  let rows ← runQuery env.connection queries query env.parameters
    (fun values rows => return (values :: rows, true)) []
  return rows.reverse

def runInsert (inserting : Inserting) (queries : List QueryPlan) : RowsWork → Running Progress
  | .defaults => (inserting.insertGiven []).after {}
  | .values row =>
      Changing.after
        (do inserting.insertGiven (← (evaluateAll inserting.env row : Executing (List Datum)))) {}
  | .query query apart =>
      if apart then do
        let rows ← queriedRows inserting.env queries query
        Changing.after (rows.forM inserting.insertGiven) {}
      else inserting.insertQuery queries query
  | .copy source query => do
      let connection := inserting.env.connection
      let table ← Routine.look fun store => store.table connection inserting.storage.id
      if table.rows.isEmpty && table.key.isNone && !table.unique.isEmpty then
        let rows := (← Routine.look fun store => store.table connection source).rows
        Changing.after (rows.forM fun row => inserting.insert (some row.1) row.2) {}
      else inserting.insertQuery queries query

end RowSource.Sql
