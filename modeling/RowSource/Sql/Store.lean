import RowSource.Options
import RowSource.Sql.Database
import RowSource.Sql.Location

/-!
# Stores

The store holds a database for every file and every private place, and what is known of each
connection: its transaction, its modules, the host tables it has connected, the database of its own,
and the counters that describe its latest changes.

A connection changes a draft of the database, which nobody else sees until it is committed. It
compiles with a picture of the list of tables that it took earlier.
-/

namespace RowSource.Sql

inductive Place where
  | file (path : String)
  /-- A place that no other connection can reach. -/
  | memory (connection : Nat)
  /-- A place that is there as long as there are connections to it. -/
  | shared (name : String)
  deriving DecidableEq

structure Draft where
  /-- Nothing if the main database is as it was committed. -/
  main : Option Database
  temp : Database

structure Savepoint where
  name : String
  draft : Draft
  reshaped : Bool

structure Connection where
  place : Place
  readonly : Bool
  inTransaction : Bool := false
  /-- What the connection has made of the database, once it has begun to change it. -/
  draft : Option Database := none
  temporary : Database := {}
  /-- That database as it was before the transaction, or before the change that is going on. -/
  temporaryBefore : Option Database := none
  savepoints : List Savepoint := []
  /-- The transaction began with its first savepoint. -/
  beganWithSavepoint : Bool := false
  reshaped : Bool := false
  hasRead : Bool := false
  /-- Whether no other connection may begin to read. -/
  isAlone : Bool := false
  /-- The list of tables as it was looked at last. Its rows do not count. -/
  picture : Option Database := none
  hasLooked : Bool := false
  /-- Whether the latest compilation missed something that a newer list of tables may have. -/
  isDoubtful : Bool := false
  changes : Nat := 0
  totalChanges : Nat := 0
  lastRowid : Int64 := 0
  modules : List (String × Bool) := []
  /-- The connected tables that are modules themselves. -/
  standing : List HostedTable := []
  declared : List HostedTable := []
  readers : Nat := 0
  writers : Nat := 0
  scanned : List Nat := []
  /-- The number of rollbacks that have undone changes to the list of tables. -/
  undone : Nat := 0

structure Store where
  databases : List (Place × Database) := []
  connections : List (Nat × Connection) := []

namespace Store

def absent : Connection := { place := .file "", readonly := true }

def connection (store : Store) (number : Nat) : Connection :=
  ((store.connections.find? fun entry => entry.1 == number).map (·.2)).getD absent

def updateConnection (number : Nat) (f : Connection → Connection) (store : Store) : Store :=
  { store with
    connections := store.connections.map fun entry =>
      if entry.1 = number then (entry.1, f entry.2) else entry }

def committed (store : Store) (place : Place) : Database :=
  ((store.databases.find? fun entry => entry.1 == place).map (·.2)).getD {}

def hasFile (store : Store) (place : Place) : Bool :=
  store.databases.any fun entry => entry.1 == place

def commit (store : Store) (place : Place) (database : Database) : Store :=
  { store with databases := (place, database) ::
      store.databases.filter fun entry => entry.1 != place }

def database (store : Store) (number : Nat) (schema : Schema) : Database :=
  let connection := store.connection number
  match schema with
  | .main => connection.draft.getD (store.committed connection.place)
  | .temp => connection.temporary

def setDatabase (number : Nat) (schema : Schema) (database : Database) (store : Store) : Store :=
  store.updateConnection number fun connection =>
    match schema with
    | .main => { connection with draft := some database }
    | .temp => { connection with temporary := database }

/-- Changes the list of tables. The connection itself sees the change at once. -/
def reshape (number : Nat) (schema : Schema) (f : Database → Database) (store : Store) : Store :=
  let database := f (store.database number schema)
  (store.setDatabase number schema database).updateConnection number fun connection =>
    match schema with
    | .main => { connection with picture := some database, reshaped := true }
    | .temp => { connection with reshaped := true }

def table (store : Store) (number : Nat) (id : TableId) : Table :=
  (store.database number id.schema).table id.name

def changeTable (number : Nat) (id : TableId) (f : Table → Table) (store : Store) : Store :=
  store.setDatabase number id.schema ((store.database number id.schema).updateTable id.name f)

/-- Notes how many rows the latest change has touched, and how many it has led to changing. -/
def counted (number changes further : Nat) (store : Store) : Store :=
  store.updateConnection number fun connection =>
    { connection with
      changes := changes, totalChanges := connection.totalChanges + changes + further }

def draft (store : Store) (number : Nat) : Draft :=
  let connection := store.connection number
  ⟨connection.draft, connection.temporary⟩

def restore (number : Nat) (draft : Draft) (store : Store) : Store :=
  store.updateConnection number fun connection =>
    { connection with draft := draft.main, temporary := draft.temp }

/-! ### Pictures -/

def picture (store : Store) (number : Nat) (schema : Schema) : Database :=
  match schema with
  | .main => (store.connection number).picture.getD (store.database number .main)
  | .temp => (store.connection number).temporary

def looked (number : Nat) (store : Store) : Store :=
  let picture := store.picture number .main
  store.updateConnection number fun connection =>
    { connection with picture := some picture, hasLooked := true }

def isOutdated (number : Nat) (store : Store) : Bool :=
  (store.connection number).picture.any fun picture =>
    picture.version != (store.database number .main).version

/-- Forgets the list of tables. The declared host tables have to be connected anew. -/
def refreshed (number : Nat) (store : Store) : Store :=
  store.updateConnection number fun connection =>
    { connection with picture := none, declared := [] }

/-! ### Connections -/

def placeOf (number : Nat) (location : Location) : Option Place :=
  if location.isShared then some (.shared (String.ofList location.path))
  else if location.isPrivate then some (.memory number)
  else location.file?.map .file

/-- Opens a database. A file comes into being unless that is forbidden. -/
def openDatabase (number : Nat) (path : String) (options : Options) (store : Store) :
    Except EngineFault Store := do
  let location ← Location.ofPath path options
  match placeOf number location with
  | none => .error (.failed 14 (some ("unable to open database file: " ++ path)))
  | some place =>
      let missing := !store.hasFile place
      if missing && !location.isPrivate && !location.mayCreate then
        .error (.failed 14 (some ("unable to open database file: " ++ path)))
      else
        let store := if missing then store.commit place {} else store
        return { store with
          connections :=
            (number, { place := place, readonly := location.isReadonly }) :: store.connections }

/-- Whether a place is still reached after connections have been closed. -/
def isReached (connections : List (Nat × Connection)) : Place → Bool
  | .shared name => connections.any fun entry => entry.2.place == .shared name
  | _ => true

/-- Closes a connection. What it has not committed is lost. -/
def release (number : Nat) (store : Store) : Store :=
  let connections := store.connections.filter fun entry => entry.1 != number
  { databases := store.databases.filter fun entry => isReached connections entry.1
    connections := connections }

def createModule (number : Nat) (name : String) (eponymous : Bool) (store : Store) :
    Except EngineFault Store :=
  match name.toList.findIdx? (· = '\x00') with
  | some position =>
      .error (.nulByte (String.ofList (name.toList.take position)).utf8ByteSize)
  | none =>
      .ok (store.updateConnection number fun connection =>
        { connection with modules := (name, eponymous) :: connection.modules })

end Store

end RowSource.Sql
