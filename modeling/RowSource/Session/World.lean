import RowSource.Engine
import RowSource.Status
import RowSource.Table.Scan

/-!
# The world of sessions

Everything that an operation can change: the sessions that were ever opened, the registry of those
that are open, the store that their connections share, and whatever host code remembers.
-/

namespace RowSource

structure Host where
  Memory : Type
  Factory : Type
  Generator : Type
  Stream : Type

structure Session (H : Host) where
  path : String
  readonly : Bool
  status : Status
  connected : Bool := true
  borrowers : Nat := 0
  /-- The registered names, without regard to ASCII case. -/
  moduleNames : List String := []
  modules : List (TableModule H.Factory) := []
  /-- The statements that the engine keeps, by their texts, the latest first. -/
  kept : List (String × StatementInfo) := []
  tables : List (ConnectedTable H.Generator) := []

/-- What is found where there is no session: one that was closed for good. -/
def Session.absent (H : Host) : Session H :=
  { path := "", readonly := false, status := { isOpen := false }, connected := false }

/-- Sessions go by their place in the list of all that were opened. -/
structure World (H : Host) (E : Engine) where
  sessions : List (Session H) := []
  /-- The sessions that are open. -/
  registry : List Nat := []
  store : E.Store := E.empty
  memory : H.Memory

abbrev Worldly (H : Host) (E : Engine) := StateM (World H E)

/-- An operation, which may fail and may have changed the world even then. -/
abbrev Action (H : Host) (E : Engine) := ExceptT Failure (Worldly H E)

namespace World

variable {H : Host} {E : Engine}

def session (w : World H E) (id : Nat) : Session H := w.sessions.getD id (Session.absent H)

def updateSession (id : Nat) (f : Session H → Session H) (w : World H E) : World H E :=
  { w with sessions := w.sessions.modify id f }

def status (w : World H E) (id : Nat) : Status := (w.session id).status

def updateStatus (id : Nat) (f : Status → Status) (w : World H E) : World H E :=
  w.updateSession id fun s => { s with status := f s.status }

def updateStore (f : E.Store → E.Store) (w : World H E) : World H E :=
  { w with store := f w.store }

end World

namespace Session

variable {H : Host} {E : Engine} {α : Type}

def describe (s : Session H) (name : String) : String :=
  "Session \x7b id: " ++ name ++ ", path: " ++ quoted s.path ++ ", readonly: " ++
    (if s.readonly then "true" else "false") ++ ", state: " ++ s.status.describe ++ ", .. \x7d"

/-! ### Conditions and periods -/

def require (id : Nat) (check : Status → Except Failure Unit) : Action H E Unit := do
  match check ((← get).status id) with
  | .ok () => return
  | .error failure => throw failure

def withBusy (id : Nat) (action : Action H E α) : Action H E α :=
  ExceptT.mk do
    match ((← get).status id).markBusy with
    | .error failure => return .error failure
    | .ok status =>
        modify (World.updateStatus id fun _ => status)
        let result ← action.run
        modify (World.updateStatus id Status.clearBusy)
        return result

def withIteration (id : Nat) (action : Action H E α) : Action H E α :=
  ExceptT.mk do
    modify (World.updateStatus id Status.enterIteration)
    let result ← action.run
    modify (World.updateStatus id Status.exitIteration)
    return result

/-- Runs an action that uses the connection, if there still is one. What earlier callbacks left
behind is forgotten first. -/
def borrowing (id : Nat) (action : Action H E α) : Action H E α :=
  ExceptT.mk do
    if !((← get).session id).connected then
      return .error (.refused .notOpen)
    else
      modify (World.updateSession id fun s => { s with borrowers := s.borrowers + 1 })
      modify (World.updateStatus id Status.discardStale)
      let result ← action.run
      modify (World.updateSession id fun s => { s with borrowers := s.borrowers - 1 })
      return result

def explaining (id : Nat) (call : Worldly H E (Except EngineFault α)) : Action H E α :=
  ExceptT.mk do
    match ← call with
    | .ok value => return .ok value
    | .error fault =>
        let (failure, status) := ((← get).status id).explain fault
        modify (World.updateStatus id fun _ => status)
        return .error failure

def withConnection (id : Nat) (call : Worldly H E (Except EngineFault α)) : Action H E α :=
  borrowing id (explaining id call)

end Session

end RowSource
