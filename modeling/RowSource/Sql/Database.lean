import RowSource.Sql.Term

/-!
# Databases

A database is a list of named tables, views and tables of host modules. A version tells whether the
list has been changed. The list can be read like a table itself.
-/

namespace RowSource.Sql

structure Column where
  name : String
  affinity : Affinity
  collation : Collation := .binary
  hidden : Bool := false
  notNull : Bool := false
  /-- What becomes of a change that leaves the column empty. -/
  onNull : Option Resolution := none
  default : Term := .literal .null
  /-- What the column is worked out from, given the other columns of the row as those of the source
  zero. -/
  generated : Option Term := none
  /-- How large its values are thought to be, in units of four bytes. -/
  size : Nat := 1
  kind : Option String := none

/-- A column by which rows are ordered. The identifier of a row has no position. -/
structure IndexColumn where
  position : Option Nat
  collation : Collation := .binary
  descending : Bool := false
  deriving DecidableEq, Inhabited

structure Uniqueness where
  columns : List IndexColumn
  primary : Bool
  resolution : Option Resolution := none
  deriving DecidableEq, Inhabited

def Uniqueness.positions (uniqueness : Uniqueness) : List Nat :=
  uniqueness.columns.filterMap (·.position)

structure Check where
  condition : Term
  label : String

abbrev StoredRow := Int × List Datum

structure Table where
  columns : List Column
  /-- The column that shows the identifier of the row. -/
  key : Option Nat := none
  onKey : Option Resolution := none
  unique : List Uniqueness := []
  /-- The columns of the primary key by which the rows go, if their identifiers do not show. -/
  keyed : Option (List Nat) := none
  checks : List Check := []
  references : List Reference := []
  /-- No identifier is given twice. -/
  autoincrement : Bool := false
  rows : List StoredRow := []

inductive Entry where
  | table (table : Table)
  | view (columns : Option (List String)) (query : Select)
  | hosted (module : String) (args : List String)

structure Item where
  name : String
  entry : Entry
  sql : String := ""

structure Database where
  items : List Item := []
  version : Nat := 0

namespace Table

def row? (table : Table) (rowid : Int) : Option (List Datum) := table.rows.lookup rowid

def lastRowid (table : Table) : Int := ((table.rows.getLast?).map (·.1)).getD 0

def hasRowid (table : Table) (rowid : Int) : Bool := table.rows.any fun row => row.1 == rowid

def insertRow (rowid : Int) (values : List Datum) : List StoredRow → List StoredRow
  | [] => [(rowid, values)]
  | row :: rest =>
      if rowid < row.1 then (rowid, values) :: row :: rest
      else row :: insertRow rowid values rest

def withoutRow (table : Table) (rowid : Int) : Table :=
  { table with rows := table.rows.filter fun row => row.1 != rowid }

/-- Whether two rows agree in some columns, in all of which they hold something. -/
def agree (columns : List IndexColumn) (left right : List Datum) : Bool :=
  columns.all fun column =>
    let value := left.getD (column.position.getD 0) .null
    !value.isNull &&
      compareValues column.collation value (right.getD (column.position.getD 0) .null) == .eq

/-- The row, other than some, with which values would break a uniqueness. -/
def rival? (table : Table) (except : Option Int) (uniqueness : Uniqueness) (values : List Datum) :
    Option Int :=
  (table.rows.find? fun row =>
    some row.1 != except && agree uniqueness.columns values row.2).map (·.1)

def givenColumns (table : Table) : List Nat :=
  (List.range table.columns.length).filter fun position =>
    (table.columns[position]?).all fun column => column.generated.isNone

/-- A row as a table stores it. One of its columns may show the identifier. -/
def storedValues (table : Table) (rowid : Int) (values : List Datum) : List Datum :=
  let values := (table.columns.zip values).map fun (column, value) => stored column.affinity value
  match table.key with
  | some key => values.set key (.ofInteger rowid)
  | none => values

def generatedColumns (table : Table) : List Nat :=
  (List.range table.columns.length).filter fun position =>
    (table.columns[position]?).any fun column => column.generated.isSome

def ready? (table : Table) (pending : List Nat) : Option (Nat × Column × Term) :=
  pending.findSome? fun position => do
    let column ← table.columns[position]?
    let term ← column.generated
    if (term.columns.any fun ref => ref.position.any pending.contains) then none
    else some (position, column, term)

end Table

namespace Database

def find? (database : Database) (name : String) : Option Item :=
  database.items.find? fun item => sameName item.name name

def insert (database : Database) (item : Item) : Database :=
  ⟨database.items ++ [item], database.version + 1⟩

def erase (database : Database) (name : String) : Database :=
  ⟨database.items.filter fun item => !sameName item.name name, database.version + 1⟩

def updateTable (database : Database) (name : String) (f : Table → Table) : Database :=
  { database with items := database.items.map fun item =>
      match item.entry with
      | .table table =>
          if sameName item.name name then { item with entry := .table (f table) } else item
      | _ => item }

/-! ### The list as a table -/

def listNames : List String :=
  ["sqlite_master", "sqlite_schema", "sqlite_temp_master", "sqlite_temp_schema"]

def isListName (name : String) : Bool := listNames.any (sameName name)

def textColumn (name : String) : Column := { name := name, affinity := .text, size := 16 }

def listColumns : List Column :=
  [textColumn "type", textColumn "name", textColumn "tbl_name",
    { name := "rootpage", affinity := .integer }, textColumn "sql"]

def indexed (table : Table) : List Uniqueness :=
  table.unique.reverse.filter fun uniqueness => !(table.keyed.isSome && uniqueness.primary)

/-- What the list says of an item, with the indexes that belong to it. Only what has rows has a
page. -/
def described (item : Item) : List (String × String × Bool × Option String) :=
  match item.entry with
  | .table table =>
      ("table", item.name, true, some item.sql) ::
        (indexed table).zipIdx.map fun (_, position) =>
          ("index", "sqlite_autoindex_" ++ item.name ++ "_" ++ toString (position + 1), true, none)
  | .view _ _ => [("view", item.name, false, some item.sql)]
  | .hosted _ _ => [("table", item.name, false, some item.sql)]

/-- The rows of the list. The first page is that of the list itself. -/
def listRows (database : Database) : List (List Datum) :=
  let entries := database.items.flatMap fun item =>
    (described item).map fun entry => (item.name, entry)
  (entries.foldl
    (fun (rows, page) (table, kind, name, hasPage, sql) =>
      (rows ++ [[Datum.ofString kind, .ofString name, .ofString table,
        .ofInteger (if hasPage then page else 0), (sql.map Datum.ofString).getD .null]],
        if hasPage then page + 1 else page))
    (([], 2) : List (List Datum) × Int)).1

def list (database : Database) : Table where
  columns := listColumns
  rows := database.listRows.zipIdx.map fun (row, position) => ((position : Int) + 1, row)

def table (database : Database) (name : String) : Table :=
  match (database.find? name).map Item.entry with
  | some (.table table) => table
  | _ => if isListName name then database.list else { columns := [] }

def known? (database : Database) (name : String) : Option EntryKind :=
  match (database.find? name).map Item.entry with
  | some (.view _ _) => some .view
  | some _ => some .table
  | none =>
      if database.items.any fun item => (described item).any fun entry =>
          entry.1 == "index" && sameName entry.2.1 name then
        some .index
      else none

end Database

/-! ### Schemas -/

/-- Each connection has two databases: the one that it was opened with, and one of its own. -/
inductive Schema where
  | main | temp
  deriving DecidableEq, Inhabited

namespace Schema

def name : Schema → String
  | main => "main"
  | temp => "temp"

def ofName? (name : String) : Option Schema :=
  if sameName name "main" then some main else if sameName name "temp" then some temp else none

end Schema

structure TableId where
  schema : Schema
  name : String
  deriving DecidableEq, Inhabited

structure HostedTable where
  schema : Schema := .main
  name : String
  number : Nat
  columns : List Column
  hasRowid : Bool := true
  directOnly : Bool

end RowSource.Sql
