import RowSource.Sql.Reference
import RowSource.Sql.Store

/-!
# Transactions

When a connection may read, change and commit a database that others use as well. Any number may
read at a time, and one of them may change a draft; what it has made of the database is committed
only while nobody else reads. A connection that waits to commit keeps the others from beginning to
read. Outside a transaction every change is committed as soon as it ends, unless an earlier one is
still going on.

A step leads to a new store even when it fails.
-/

namespace RowSource.Sql

namespace Connection

def isChanging (connection : Connection) : Bool := connection.draft.isSome

def isReading (connection : Connection) : Bool :=
  connection.isChanging || connection.hasRead || decide (0 < connection.readers)

def settled (connection : Connection) : Connection :=
  { connection with
    inTransaction := false, draft := none, reshaped := false, hasRead := false, isAlone := false
    temporaryBefore := none, savepoints := [], beganWithSavepoint := false }

def noted (connection : Connection) : Connection :=
  { connection with
    temporaryBefore := some (connection.temporaryBefore.getD connection.temporary) }

/-- Gives up the draft. When that changes the list of tables, the declared host tables have to be
connected anew. -/
def restored (connection : Connection) : Connection :=
  let connection :=
    { connection with temporary := connection.temporaryBefore.getD connection.temporary }
  if connection.reshaped then settled { connection with picture := none, declared := [] }
  else settled connection

end Connection

abbrev Step := Store → Except EngineFault Unit × Store

namespace Store

def busy : Step := fun store => (.error (.failed 5 (some "database is locked")), store)

def others (number : Nat) (store : Store) : List Connection :=
  (store.connections.filter fun entry =>
    entry.1 != number && entry.2.place == (store.connection number).place).map (·.2)

def read (number : Nat) : Step := fun store =>
  if !(store.connection number).isReading && (store.others number).any (·.isAlone) then
    store.busy
  else
    (.ok (), store.updateConnection number fun connection =>
      { connection with hasRead := connection.hasRead || connection.inTransaction })

/-- Looks at the list of tables, unless that was done before. -/
def lookedAt (number : Nat) : Step := fun store =>
  let connection := store.connection number
  if connection.picture.isNone && !connection.isReading && (store.others number).any (·.isAlone) then
    store.busy
  else (.ok (), store.looked number)

def change (number : Nat) : Step := fun store =>
  if (store.connection number).isChanging then (.ok (), store)
  else if (store.others number).any (·.isChanging) then store.busy
  else (.ok (), store.setDatabase number .main (store.database number .main))

def keepOut (number : Nat) : Step := fun store =>
  if (store.others number).any (·.isReading) then store.busy
  else
    (.ok (), store.updateConnection number fun connection => { connection with isAlone := true })

def publish (number : Nat) : Step := fun store =>
  let connection := store.connection number
  match connection.draft with
  | none => (.ok (), store.updateConnection number Connection.settled)
  | some database =>
      if (store.others number).any (·.isReading) then store.busy
      else (.ok (), (store.commit connection.place database).updateConnection number
        Connection.settled)

/-! ### Changes -/

/-- Refuses to commit while there are orphans. -/
def completeReferences (number : Nat) : Step := fun store =>
  if 0 < (store.database number .main).orphans true + (store.database number .temp).orphans true then
    (.error (.failed 787 (some "FOREIGN KEY constraint failed")), store)
  else (.ok (), store)

def publishComplete (number : Nat) : Step := fun store =>
  match store.completeReferences number with
  | (.ok (), store) => store.publish number
  | failed => failed

/-- Ends a change that has gone well. Outside a transaction it is committed, or given up when it
cannot be. -/
def endChange (number : Nat) : Step := fun store =>
  let store := store.updateConnection number fun connection =>
    { connection with writers := connection.writers - 1 }
  let connection := store.connection number
  if connection.inTransaction || 0 < connection.writers then (.ok (), store)
  else
    match store.publishComplete number with
    | (.error fault, store) =>
        (.error fault, store.updateConnection number Connection.restored)
    | done => done

/-- Undoes a change that has failed, so that the databases are as `before`. -/
def undoChange (number : Nat) (before : Draft) (store : Store) : Store :=
  store.updateConnection number fun connection =>
    let connection := { connection with writers := connection.writers - 1 }
    if connection.inTransaction || 0 < connection.writers then
      { connection with draft := before.main, temporary := before.temp }
    else connection.restored

/-! ### Transactions -/

def claim (number : Nat) : Beginning → Step
  | .deferred => fun store => (.ok (), store)
  | .immediate => fun store =>
      if (store.connection number).readonly then store.read number else store.change number
  | .exclusive => fun store =>
      let connection := store.connection number
      if connection.readonly then store.read number
      else if connection.isChanging then (.ok (), store)
      else
        match store.change number with
        | (.ok (), claimed) =>
            match claimed.keepOut number with
            | (.error fault, _) => (.error fault, store)
            | done => done
        | failed => failed

def begin (number : Nat) (beginning : Beginning) : Step := fun store =>
  match store.claim number beginning with
  | (.error fault, store) => (.error fault, store)
  | (.ok (), store) =>
      if (store.connection number).inTransaction then
        (.error (.failed 1 (some "cannot start a transaction within a transaction")), store)
      else
        (.ok (), store.updateConnection number fun connection =>
          { connection.noted with
            inTransaction := true
            hasRead := connection.isReading })

/-- Commits a transaction. One that others keep from it goes on, and keeps out those that do not
read yet. -/
def commitTransaction (number : Nat) : Step := fun store =>
  let connection := store.connection number
  if !connection.inTransaction then
    (.error (.failed 1 (some "cannot commit - no transaction is active")), store)
  else if 0 < connection.writers then
    (.error (.failed 5 (some "cannot commit transaction - SQL statements in progress")), store)
  else
    match store.completeReferences number with
    | (.error fault, store) => (.error fault, store)
    | (.ok (), store) =>
        match store.publish number with
        | (.error fault, store) =>
            (.error fault, store.updateConnection number fun connection =>
              { connection with isAlone := true })
        | done => done

def undoAll (number : Nat) (store : Store) : Store :=
  store.updateConnection number fun connection =>
    if connection.reshaped then
      { connection.restored with undone := connection.undone + 1 }
    else connection.restored

def rollback (number : Nat) : Step := fun store =>
  if !(store.connection number).inTransaction then
    (.error (.failed 1 (some "cannot rollback - no transaction is active")), store)
  else (.ok (), store.undoAll number)

/-! ### Savepoints -/

/-- Sets a point to go back to. Outside a transaction one begins with it. -/
def setSavepoint (number : Nat) (name : String) : Step := fun store =>
  let connection := store.connection number
  if 0 < connection.writers then
    (.error (.failed 5 (some "cannot open savepoint - SQL statements in progress")), store)
  else
    let began := !connection.inTransaction
    let point : Savepoint := ⟨name, store.draft number, connection.reshaped⟩
    (.ok (), store.updateConnection number fun connection =>
      { connection.noted with
        inTransaction := true
        hasRead := connection.hasRead || connection.isReading
        savepoints := point :: connection.savepoints
        beganWithSavepoint := connection.beganWithSavepoint || began })

/-- The savepoints from the latest one of a name on. -/
def savepointsFrom (connection : Connection) (name : String) : List Savepoint :=
  connection.savepoints.dropWhile fun point => !sameName point.name name

/-- Forgets a savepoint and those after it. A transaction that began with it is committed. -/
def releaseSavepoint (number : Nat) (name : String) : Step := fun store =>
  let connection := store.connection number
  match savepointsFrom connection name with
  | [] => (.error (.failed 1 (some ("no such savepoint: " ++ name))), store)
  | _ :: earlier =>
      if 0 < connection.writers then
        (.error (.failed 5 (some "cannot release savepoint - SQL statements in progress")), store)
      else if earlier.isEmpty && connection.beganWithSavepoint then store.publishComplete number
      else
        (.ok (), store.updateConnection number fun connection =>
          { connection with savepoints := earlier })

def rollbackToSavepoint (number : Nat) (name : String) : Step := fun store =>
  match savepointsFrom (store.connection number) name with
  | [] => (.error (.failed 1 (some ("no such savepoint: " ++ name))), store)
  | point :: earlier =>
      (.ok (), (store.restore number point.draft).updateConnection number fun connection =>
        let reverted := connection.reshaped && !point.reshaped
        { connection with
          savepoints := point :: earlier
          reshaped := point.reshaped
          picture := if connection.reshaped then none else connection.picture
          declared := if reverted then [] else connection.declared
          undone := if connection.reshaped then connection.undone + 1 else connection.undone })

end Store

end RowSource.Sql
