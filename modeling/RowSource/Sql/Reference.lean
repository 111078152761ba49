import RowSource.Sql.Database

/-!
# References

Columns of a table may refer to a key of a table in the same database. A row that refers to something
which is not there is an orphan: no statement may leave more orphans behind than it has found, and no
transaction any, but for references that say when they are checked.
-/

namespace RowSource.Sql

namespace Reference

/-- The columns of a table that go by the names in a reference, if they are a key in their own orders
of texts. -/
def namedKey? (reference : Reference) (parent : Table) : Option (List Nat) := do
  let positions ← reference.targets.mapM fun name =>
    parent.columns.findIdx? fun column => sameName column.name name
  let isKey (uniqueness : Uniqueness) : Bool :=
    uniqueness.columns.length == positions.length && uniqueness.columns.all fun key =>
      key.position.any fun position =>
        positions.contains position &&
          (parent.columns[position]?).any fun column => column.collation == key.collation
  if parent.unique.any isKey then some positions else none

def key? (reference : Reference) (parent : Table) : Option (List Nat) :=
  let isRowid (position : Nat) : Bool :=
    match reference.columns, reference.targets with
    | [_], [] => true
    | [_], name :: _ =>
        (parent.columns[position]?).any fun column => sameName column.name name
    | _, _ => false
  match parent.key.filter isRowid with
  | some position => some [position]
  | none =>
      if reference.targets.isEmpty then
        ((parent.unique.find? fun uniqueness =>
          uniqueness.primary && uniqueness.columns.length == reference.columns.length)).map
            Uniqueness.positions
      else reference.namedKey? parent

def given? (reference : Reference) (row : List Datum) : Option (List Datum) :=
  let values := reference.columns.map fun column => row.getD column .null
  if values.any Datum.isNull then none else some values

def areIn (parent : Table) (key : List Nat) (values row : List Datum) : Bool :=
  (key.zip values).all fun (position, value) =>
    let column := (parent.columns[position]?).getD { name := "", affinity := .blob }
    compareValues column.collation (stored column.affinity value) (row.getD position .null) == .eq

def isBroken (reference : Reference) (parent : Table) (row : List Datum) : Bool :=
  match reference.given? row, reference.key? parent with
  | none, _ => false
  | some _, none => true
  | some values, some key => !parent.rows.any fun other => areIn parent key values other.2

end Reference

namespace Database

def tables (database : Database) : List (String × Table) :=
  database.items.filterMap fun item =>
    match item.entry with
    | .table table => some (item.name, table)
    | _ => none

def referring (database : Database) (name : String) : List (String × Table × Reference) :=
  database.tables.flatMap fun (child, table) =>
    (table.references.filter fun reference => sameName reference.table name).map fun reference =>
      (child, table, reference)

/-- The number of orphans, of references that may wait or of others. -/
def orphans (database : Database) (deferred : Bool) : Nat :=
  let counts := database.tables.flatMap fun (_, table) =>
    (table.references.filter fun reference => reference.deferred == deferred).map fun reference =>
      let parent := database.table reference.table
      (table.rows.filter fun row => reference.isBroken parent row.2).length
  counts.foldl Nat.add 0

end Database

end RowSource.Sql
