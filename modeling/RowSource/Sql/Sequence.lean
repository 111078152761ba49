import RowSource.Sql.Store

/-!
# New identifiers

A new row gets the identifier after the greatest one. A table may promise never to give one twice: the
greatest that it has given is kept in a table of its own, even when the row is gone.
-/

namespace RowSource.Sql

def greatestRowid : Int := twoTo 63 - 1

namespace Database

def sequenceItem : Item where
  name := "sqlite_sequence"
  entry := .table
    { columns := [{ name := "name", affinity := .blob }, { name := "seq", affinity := .blob }] }
  sql := "CREATE TABLE sqlite_sequence(name,seq)"

/-- What is kept of a table: the identifier of the row that says it, and the greatest identifier. -/
def sequence? (database : Database) (name : String) : Option (Int × Int) :=
  ((database.table sequenceItem.name).rows.find? fun row =>
    row.2.getD 0 .null == .ofString name).map fun row => (row.1, wholeOf (row.2.getD 1 .null))

def withSequences (database : Database) : Database :=
  if (database.find? sequenceItem.name).isSome then database else database.insert sequenceItem

def withSequence (database : Database) (name : String) (greatest : Int) : Database :=
  database.updateTable sequenceItem.name fun table =>
    let row := [Datum.ofString name, .ofInteger greatest]
    match database.sequence? name with
    | some (rowid, _) =>
        { table with rows := table.rows.map fun known =>
            if known.1 = rowid then (rowid, row) else known }
    | none => { table with rows := Table.insertRow (table.lastRowid + 1) row table.rows }

def withoutSequence (database : Database) (name : String) : Database :=
  match database.sequence? name with
  | some (rowid, _) => database.updateTable sequenceItem.name fun table => table.withoutRow rowid
  | none => database

/-- Takes note of an identifier, if a table promises never to give it again. -/
def givenRowid (database : Database) (name : String) (table : Table) (rowid : Int) : Database :=
  let known := ((database.sequence? name).map (·.2)).getD 0
  if table.autoincrement && decide (known < rowid) then database.withSequence name rowid
  else database

/-- The identifier of a new row. When the greatest possible one is taken, any free one will do, unless
none may be given twice. -/
def newRowid? (database : Database) (name : String) (table : Table) : Option Int :=
  let last := if table.rows.isEmpty then 0 else table.lastRowid
  if table.autoincrement then
    let last := max last (((database.sequence? name).map (·.2)).getD 0)
    if last < greatestRowid then some (last + 1) else none
  else if last < greatestRowid then some (last + 1)
  else
    ((List.range (table.rows.length + 1)).map fun (n : Nat) => (n : Int) + 1).find? fun rowid =>
      !table.hasRowid rowid

end Database

end RowSource.Sql
