import RowSource.Session.Kept

/-!
# Operations on sessions

Opening and closing, running batches of SQL, compiling statements and registering tables. Every
operation checks what it needs in a fixed order before it does anything, and leaves the busy mark as
it found it.
-/

namespace RowSource

structure Statement where
  session : Nat
  sql : String
  /-- The statement returns rows. -/
  reader : Bool
  readonly : Bool
  integerMode : IntegerMode
  deriving DecidableEq

namespace Session

variable {H : Host} {E : Engine}

/-! ### Opening and closing -/

def openSession (path : String) (options : Options) : Action H E Nat := do
  let w ← get
  let id := w.sessions.length
  match E.openDatabase id path options w.store with
  | .error fault => throw fault.toFailure
  | .ok store =>
      let status : Status :=
        { unsafeMode := options.unsafeMode, integerMode := options.integerMode }
      let session : Session H :=
        { path := path, readonly := options.readonly, status := status }
      set { w with
        sessions := w.sessions ++ [session]
        registry := w.registry ++ [id]
        store := store }
      return id

/-- Lets go of the connection, and tells whether it was still held. A connection that a running
operation uses stays. -/
def release (id : Nat) : Action H E Bool := do
  let s := (← get).session id
  if s.borrowers ≠ 0 then throw (.internal "connection is in use")
  else if s.connected then
    modify (World.updateStore (E.release id))
    modify (World.updateSession id fun s => { s with connected := false, kept := [] })
    return true
  else return false

def unregister (id : Nat) : Action H E Unit :=
  modify fun w => { w with registry := w.registry.filter (· != id) }

def markClosed (id : Nat) : Action H E Unit :=
  modify (World.updateStatus id fun status => status.markClosed.2)

/-- Closes a session. Closing it again does nothing. -/
def close (id : Nat) : Action H E Unit := do
  if !((← get).status id).isOpen then
    return
  require id Status.requireNotBusy
  require id Status.requireNoIterators
  let _ ← release id
  markClosed id
  unregister id

/-- Closes a session that nobody will use again, whatever its state. -/
def drop (id : Nat) : Action H E Unit := do
  unregister id
  markClosed id
  try
    let _ ← release id
  catch _ => return

def forceClose : List Nat → Action H E Nat
  | [] => return 0
  | id :: rest => do
      markClosed id
      let released ← try release id catch _ => pure false
      let others ← forceClose rest
      return if released then others + 1 else others

/-- Closes every open session and counts the connections let go. Those in use stay with their
sessions. -/
def closeAll : Action H E Nat := do
  let registered := (← get).registry
  modify fun w => { w with registry := [] }
  forceClose registered

def openCount (w : World H E) : Nat := w.registry.length

/-! ### Settings -/

/-- Whether a transaction is open. A session without a connection has none. -/
def inTransaction (id : Nat) : Action H E Bool := do
  try withConnection id (return .ok (E.inTransaction id (← get).store))
  catch _ => return false

def setIntegerMode (id : Nat) (mode : IntegerMode) : Action H E Unit :=
  modify (World.updateStatus id fun status => { status with integerMode := mode })

def setUnsafeMode (id : Nat) (enabled : Bool) : Action H E Unit := do
  require id Status.requireOpen
  withConnection id (return .ok ())
  modify (World.updateStatus id fun status => { status with unsafeMode := enabled })

/-! ### Batches, statements and tables -/

variable (C : Callbacks H E)

/-- Runs the statements of a text one after another, each to its first row. A statement leaves a
text shorter than its own, so its length is enough fuel. -/
def batch (id : Nat) : Nat → String → Worldly H E (Except EngineFault Unit)
  | 0, _ => return .ok ()
  | fuel + 1, text => do
      if text.isEmpty then
        return .ok ()
      else
        match ← C.settle id (E.compile id text) with
        | .error fault => return .error fault
        | .ok (statement, rest) =>
            if (E.info statement).isEmpty then
              batch id fuel rest
            else
              match ← renewed id text statement with
              | .error fault => return .error fault
              | .ok statement =>
                  match ← C.first id (E.execute id statement []) with
                  | .error fault => return .error fault
                  | .ok _ => batch id fuel rest
where
  renewed (id : Nat) (text : String) (statement : E.Statement) :
      Worldly H E (Except EngineFault E.Statement) := do
    if ← Callbacks.refresh id (E.info statement) then
      return ((← C.settle id (E.compile id text)).map (·.1)).mapError EngineFault.withoutPlace
    else return .ok statement

def exec (id : Nat) (sql : String) : Action H E Unit := do
  require id Status.requireOpen
  require id Status.requireNotBusy
  require id Status.requireNoIteratorsUnlessUnsafe
  withBusy id (withConnection id (batch C id (sql.length + 1) sql))

def prepare (id : Nat) (sql : String) : Action H E Statement := do
  require id Status.requireOpen
  require id Status.requireNotBusy
  let text := trim sql.toList
  if text.isEmpty then
    throw (.invalidArgument "The supplied SQL string contains no statements")
  withBusy id do
    let held ← withConnection id (C.hold id (String.ofList text))
    modify (World.updateSession id (Session.keep (String.ofList text) held.info))
    return ⟨id, sql, !held.info.columns.isEmpty, held.info.readonly,
      ((← get).status id).integerMode⟩

/-- Makes a factory's tables available under a name: as a table of that name, or for statements
that declare tables. A name can be registered once. -/
def registerTable (id : Nat) (name : String) (factory : H.Factory) (eponymous : Bool) :
    Action H E Unit := do
  require id Status.requireOpen
  require id Status.requireNotBusy
  require id Status.requireNoIterators
  let key := foldCase name
  if ((← get).session id).moduleNames.contains key then
    throw (.invalidArgument
      ("A virtual table module named \"" ++ name ++ "\" is already registered"))
  withBusy id do
    withConnection id do
      match E.createModule id name eponymous (← get).store with
      | .error fault => return .error fault
      | .ok store =>
          modify (World.updateStore fun _ => store)
          return .ok ()
    modify (World.updateSession id fun s =>
      { s with moduleNames := s.moduleNames ++ [key], modules := s.modules ++ [⟨name, factory⟩] })

end Session

end RowSource
