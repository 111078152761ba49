import RowSource.Sql.Insert

/-!
# Updating and deleting rows

The rows that are to be changed are found before the first one is changed. A row that is gone by the
time it is reached is passed over.
-/

namespace RowSource.Sql

/-! ### Found rows -/

/-- The identifiers of the rows that are to be changed, in the order in which they are found. -/
def identifiers (env : Environment) (queries : List QueryPlan) (rows : FoundRows) :
    Executing (List Int) := do
  if ← holdAll env rows.conditions then
    let note : Visit (List Int) := fun env known => do
      match env.current? rows.source with
      | some (.live _ rowid) => return (rowid :: known, true)
      | _ => return (known, true)
    let (known, _) ← nested (runTo queries (depthOf queries)) note rows.loops env []
    return known.reverse
  else return []

def eachFound (env : Environment) (id : TableId) (change : StoredRow → Changing Unit) :
    List Int → Changing Unit
  | [] => return
  | rowid :: rest => do
      match (← tableOf env id).row? rowid with
      | some values => change (rowid, values)
      | none => pure ()
      eachFound env id change rest

/-! ### Updates -/

def updateRow (env : Environment) (id : TableId) (resolution : Option Resolution)
    (returning : Returning) (old : StoredRow) (settings : List (Option Nat × Datum)) :
    Changing Unit := do
  let table ← tableOf env id
  let rowid ← Changing.ofExcept (settledRowid table old.1 settings)
  match ← changeRow (deeds env) env id resolution old rowid (withSettings old.2 settings) with
  | some row => noteRow env returning row
  | none => return

/-- The rows that a query gives for identifiers, in order. Of several for one the last one counts. -/
def byRowid (rows : List (List Datum)) : List (Int × List Datum) :=
  let found := rows.filterMap fun row =>
    match row with
    | .integer rowid :: values => some (rowid.toInt, values)
    | _ => none
  found.foldl
    (fun known (rowid, values) =>
      Table.insertRow rowid values (known.filter fun entry => entry.1 != rowid))
    []

def runUpdate (env : Environment) (queries : List QueryPlan) (id : TableId)
    (resolution : Option Resolution) (returning : Returning) : UpdateWork → Running Progress
  | .rows rows changes =>
      Changing.after
        (do
          let change (row : StoredRow) : Changing Unit := do
            let env := env.withRow rows.source (.row row.1 row.2)
            let settings ← (settingValues env changes : Executing _)
            updateRow env id resolution returning row settings
          eachFound env id change (← (identifiers env queries rows : Executing (List Int)))) {}
  | .joined targets query => do
      let found := byRowid (← queriedRows env queries query)
      Changing.after
        (found.forM fun (rowid, values) =>
          eachFound env id
            (fun row => updateRow env id resolution returning row (targets.zip values)) [rowid]) {}

/-! ### Deletions -/

def runDelete (env : Environment) (queries : List QueryPlan) (id : TableId) (rows : FoundRows)
    (returning : Returning) : Running Progress :=
  Changing.after
    (do
      let change (row : StoredRow) : Changing Unit := do
        (deeds env).remove id row
        noteRow env returning row
      eachFound env id change (← (identifiers env queries rows : Executing (List Int)))) {}

end RowSource.Sql
