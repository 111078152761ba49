import RowSource.Sql.Breach
import RowSource.Sql.Sequence

/-!
# Storing rows

Puts rows into tables and takes them away. A row that is in the way of another one is refused,
replaced or changed, as the rules say, and the rows that refer to one that goes away or changes go
away or change with it. That may go on from table to table, but not without end.
-/

namespace RowSource.Sql

structure Deeds where
  remove : TableId → StoredRow → Changing Unit
  replace : TableId → StoredRow → Int → List Datum → Changing StoredRow

structure Storage where
  id : TableId
  resolution : Option Resolution := none
  meetings : List Meeting := []
  /-- The row that goes away for the new one. -/
  old : Option StoredRow := none

def tableOf (env : Environment) (id : TableId) : Changing Table :=
  Changing.look fun store => store.table env.connection id

def withSettings (values : List Datum) (settings : List (Option Nat × Datum)) : List Datum :=
  settings.foldl
    (fun values (target, value) =>
      match target with
      | some position => values.set position value
      | none => values)
    values

/-! ### Identifiers -/

def rowidOf (value : Datum) : Except EngineFault (Option Int) :=
  match stored .integer value with
  | .null => .ok none
  | .integer i => .ok (some i.toInt)
  | _ => .error (.failed 20 (some "datatype mismatch"))

def settledRowid (table : Table) (rowid : Int) (settings : List (Option Nat × Datum)) :
    Except EngineFault Int := do
  let isRowid (target : Option Nat) : Bool := target.isNone || target == table.key
  match (settings.filter fun setting => isRowid setting.1).getLast? with
  | none => .ok rowid
  | some (_, value) =>
      match ← rowidOf value with
      | some rowid => .ok rowid
      | none => .error (.failed 20 (some "datatype mismatch"))

def settingValues (env : Environment) : List Setting → Executing (List (Option Nat × Datum))
  | [] => return []
  | setting :: rest => do
      let values ← evaluateParts env setting.value
      return setting.targets.zip values ++ (← settingValues env rest)

/-! ### Keys -/

def changeMet (deeds : Deeds) (env : Environment) (storage : Storage) (meeting : Meeting)
    (met new : StoredRow) : Storing Unit := do
  match meeting.changes with
  | none => .leave none
  | some settings => do
      let env := (env.withRow meeting.present (.row met.1 met.2)).withRow meeting.excluded
        (.row new.1 new.2)
      if ← (holdAll env meeting.conditions : Executing Bool) then
        let values ← (settingValues env settings : Executing _)
        let table ← (tableOf env storage.id : Changing Table)
        let rowid ← (Changing.ofExcept (settledRowid table met.1 values) : Changing Int)
        let row ← (deeds.replace storage.id met rowid (withSettings met.2 values) :
          Changing StoredRow)
        .leave (some ⟨row, false⟩)
      else .leave none

def metIn? (table : Table) (old : Option StoredRow) (row : StoredRow) : Option Nat → Option Int
  | none =>
      if table.hasRowid row.1 && (old.map (·.1)) != some row.1 then some row.1 else none
  | some place =>
      (table.unique[place]?).bind fun uniqueness =>
        table.rival? (old.map (·.1)) uniqueness row.2

/-- The rule of a key: what it is called when it is broken, and what it says of that. -/
def keyRule (table : Table) : Option Nat → Breach × Option Resolution
  | none =>
      match table.key.bind fun key => table.columns[key]? with
      | some column => (.key [column.name] true, table.onKey)
      | none => (.rowid, table.onKey)
  | some place =>
      let uniqueness := (table.unique[place]?).getD ⟨[], false, none⟩
      let names := uniqueness.positions.map fun position =>
        ((table.columns[position]?).map (·.name)).getD ""
      (.key names uniqueness.primary, uniqueness.resolution)

/-- Makes way for a row in a key. -/
def settleKey (deeds : Deeds) (env : Environment) (storage : Storage) (row : StoredRow)
    (key : Option Nat) : Storing Unit := do
  let table ← (tableOf env storage.id : Changing Table)
  match metIn? table storage.old row key with
  | none => return
  | some rival =>
      let met : StoredRow := (rival, (table.row? rival).getD [])
      let (breach, own) := keyRule table key
      match storage.meetings.find? fun meeting => meeting.keys.all (·.contains key) with
      | some meeting => changeMet deeds env storage meeting met row
      | none =>
          match resolutionOf storage.resolution own with
          | .replace => (deeds.remove storage.id met : Changing Unit)
          | resolution => .refuse storage.id.name resolution breach

/-- The keys of a table in the order in which they are settled: first those that the statement names.
The identifier comes last if it replaces rows that other keys might keep. -/
def keyOrder (table : Table) (storage : Storage) : List (Option Nat) :=
  let places := (List.range table.unique.length).map some
  let named := (storage.meetings.flatMap fun meeting => meeting.keys.getD []).eraseDups
  if named.isEmpty then
    if storage.resolution.isNone && table.onKey == some .replace then places ++ [none]
    else none :: places
  else
    let first := if named.contains none then named else named ++ [none]
    first ++ places.filter fun place => !first.contains place

/-- Makes way for a row in keys. The kinds of its values are checked before any key but the
identifier. -/
def settleKeys (deeds : Deeds) (env : Environment) (storage : Storage) (table : Table)
    (row : StoredRow) : Bool → List (Option Nat) → Storing Unit
  | isChecked, [] => if isChecked then return else checkKinds storage.id.name table row.2
  | isChecked, key :: rest => do
      if key.isSome && !isChecked then checkKinds storage.id.name table row.2
      settleKey deeds env storage row key
      settleKeys deeds env storage table row (isChecked || key.isSome) rest

/-! ### Rows -/

def putRow (env : Environment) (storage : Storage) (row : StoredRow) : Changing Unit :=
  Changing.update fun store =>
    store.changeTable env.connection storage.id fun table =>
      let others := match storage.old with
        | some old => table.withoutRow old.1
        | none => table
      { others with rows := Table.insertRow row.1 row.2 others.rows }

def storeRow (deeds : Deeds) (env : Environment) (storage : Storage) (rowid : Int)
    (values : List Datum) : Storing StoredRow := do
  let table ← (tableOf env storage.id : Changing Table)
  let (values, isChecked) ←
    conforming env storage.id.name table storage.resolution rowid values
  settleKeys deeds env storage table (rowid, values) isChecked (keyOrder table storage)
  (putRow env storage (rowid, values) : Changing Unit)
  return (rowid, values)

/-! ### Rows that refer to others -/

def referringRows (env : Environment) (child : TableId) (reference : Reference) (parent : Table)
    (row : StoredRow) : Changing (List StoredRow) := do
  match reference.key? parent with
  | none => return []
  | some key =>
      let rows := (← tableOf env child).rows
      return rows.filter fun other =>
        (reference.given? other.2).any fun values => Reference.areIn parent key values row.2

def redirected (reference : Reference) (values row : List Datum) : List Datum :=
  (reference.columns.zip values).foldl (fun row (column, value) => row.set column value) row

def defaultsOf (env : Environment) (table : Table) (reference : Reference) :
    Executing (List Datum) :=
  evaluateAll { connection := env.connection } (reference.columns.map fun column =>
    ((table.columns[column]?).map (·.default)).getD (.literal .null))

def redirect (deeds : Deeds) (child : TableId) (reference : Reference) (values : List Datum)
    (rows : List StoredRow) : Changing Unit :=
  rows.forM fun row => do
    let values := redirected reference values row.2
    let _ ← deeds.replace child row row.1 values
    Changing.modifyDone fun done => { done with further := done.further + 1 }

/-- Does with the rows that refer to a row what a reference says. The new values are those of the key of
a row that stays. -/
def follow (deeds : Deeds) (env : Environment) (child : TableId) (table : Table)
    (reference : Reference) (action : ReferenceAction) (news : Option (List Datum))
    (rows : List StoredRow) : Changing Unit := do
  match action, news with
  | .nothing, _ => return
  | .restrict, _ =>
      if !rows.isEmpty then Changing.fail (.failed 1811 (some "FOREIGN KEY constraint failed"))
  | .cascade, some news => redirect deeds child reference news rows
  | .cascade, none =>
      rows.forM fun row => do
        deeds.remove child row
        Changing.modifyDone fun done => { done with further := done.further + 1 }
  | .setNull, _ =>
      redirect deeds child reference (reference.columns.map fun _ => .null) rows
  | .setDefault, _ => do
      let defaults ← (defaultsOf env table reference : Executing (List Datum))
      redirect deeds child reference defaults rows

def differIn (parent : Table) (key : List Nat) (a b : List Datum) : Bool :=
  key.any fun position =>
    let collation := ((parent.columns[position]?).map (·.collation)).getD .binary
    !(⟨.blob, collation⟩ : Comparison).same (a.getD position .null) (b.getD position .null)

def followAll (deeds : Deeds) (env : Environment) (id : TableId) (old : StoredRow)
    (new : Option StoredRow) : Changing Unit := do
  let database ← Changing.look fun store => store.database env.connection id.schema
  let parent := database.table id.name
  (database.referring id.name).forM fun (name, table, reference) => do
    let child : TableId := ⟨id.schema, name⟩
    match reference.key? parent, new with
    | none, _ => return
    | some _, none => do
        let rows ← referringRows env child reference parent old
        follow deeds env child table reference reference.onDelete none rows
    | some key, some new => do
        if differIn parent key old.2 new.2 then
          let rows ← referringRows env child reference parent old
          let news := key.map fun position => new.2.getD position .null
          follow deeds env child table reference reference.onUpdate (some news) rows

/-! ### Deeds -/

def removeRow (deeds : Deeds) (env : Environment) (id : TableId) (row : StoredRow) :
    Changing Unit := do
  Changing.update fun store =>
    store.changeTable env.connection id fun table => table.withoutRow row.1
  followAll deeds env id row none

def changeRow (deeds : Deeds) (env : Environment) (id : TableId) (resolution : Option Resolution)
    (old : StoredRow) (rowid : Int) (values : List Datum) : Changing (Option StoredRow) := do
  let storage : Storage := { id := id, resolution := resolution, old := some old }
  match ← (storeRow deeds env storage rowid values).run with
  | .ok row => do
      followAll deeds env id old (some row)
      return some row
  | .error outcome => return outcome.map (·.row)

def deedsTo (env : Environment) : Nat → Deeds
  | 0 =>
      let refuse {α : Type} : Changing α :=
        .fail (.failed 1 (some "too many levels of trigger recursion"))
      ⟨fun _ _ => refuse, fun _ _ _ _ => refuse⟩
  | fuel + 1 =>
      { remove := fun id row => removeRow (deedsTo env fuel) env id row
        replace := fun id old rowid values => do
          let row ← changeRow (deedsTo env fuel) env id (some .abort) old rowid values
          return row.getD old }

def deeds (env : Environment) : Deeds := deedsTo env 1000

end RowSource.Sql
