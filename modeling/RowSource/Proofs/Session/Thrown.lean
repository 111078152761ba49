import RowSource.Proofs.Session.Pending

/-!
# Failures thrown instead of kept

The operations once more, with the failure of a callback thrown through the call of the engine to
the operation around it. No status has a part in that, so no failure can get lost or be taken for
another one's. This is what the operations are to be measured by.

Beside their results these operations give an account of themselves: the demands that they made and
the rows that they handed to host code, each with the world of that moment. Host code, and whatever
it calls, runs as it is and gives no account.
-/

namespace RowSource

variable {H : Host} {E : Engine} {S α β : Type}

/-- Why a call of the engine came to nothing. -/
inductive Trouble where
  | callback (failure : Failure)
  | engine (fault : EngineFault)

/-- The failure to report for a trouble. That of a callback is reported as it is. -/
def Trouble.failure (status : Status) : Trouble → Failure
  | .callback failure => failure
  | .engine fault =>
      if status.planRejected && fault.isNoQuerySolution then .unusableConstraint
      else fault.toFailure

/-- A complaint of the engine that comes late does not point to a place in the text. -/
def Trouble.withoutPlace : Trouble → Trouble
  | .callback failure => .callback failure
  | .engine fault => .engine fault.withoutPlace

/-- What an operation gives an account of. -/
inductive Event (H : Host) (E : Engine) where
  /-- A demand is made, and host code may run to serve it. -/
  | asked (id : Nat) (scans : Callbacks.Scans H) (demand : Demand) (w : World H E)
  /-- A row is handed to host code. -/
  | handed (w : World H E)

/-- The world in which something happens. -/
def Event.world : Event H E → World H E
  | .asked _ _ _ w | .handed w => w

structure Noted (H : Host) (E : Engine) (α : Type) where
  result : α
  events : List (Event H E)
  world : World H E

/-- What happens in a world, with an account of it. -/
def Noting (H : Host) (E : Engine) (α : Type) := World H E → Noted H E α

namespace Noting

instance : Monad (Noting H E) where
  pure value w := ⟨value, [], w⟩
  bind action rest w :=
    let first := action w
    let second := rest first.result first.world
    ⟨second.result, first.events ++ second.events, second.world⟩

/-- What happens without a mention. -/
instance : MonadLift (Worldly H E) (Noting H E) where
  monadLift action w := ⟨(action w).1, [], (action w).2⟩

def note (event : World H E → Event H E) : Noting H E Unit := fun w => ⟨(), [event w], w⟩

end Noting

def Noted.andThen (begun : Noted H E α) (ended : Noted H E β) : Noted H E β :=
  ⟨ended.result, begun.events ++ ended.events, ended.world⟩

namespace Noting

theorem bind_apply (action : Noting H E α) (rest : α → Noting H E β) (w : World H E) :
    (action >>= rest) w = (action w).andThen (rest (action w).result (action w).world) :=
  rfl

theorem pure_apply (value : α) (w : World H E) :
    (pure value : Noting H E α) w = ⟨value, [], w⟩ :=
  rfl

theorem lift_apply (action : Worldly H E α) (w : World H E) :
    (liftM action : Noting H E α) w = ⟨(action w).1, [], (action w).2⟩ :=
  rfl

theorem get_bind_apply (rest : World H E → Noting H E α) (w : World H E) :
    (get >>= rest) w = rest w w :=
  rfl

theorem get_bind_run {ε : Type} (rest : World H E → ExceptT ε (Noting H E) α) (w : World H E) :
    (get >>= rest).run w = (rest w).run w :=
  rfl

theorem bind_run {ε : Type} (action : ExceptT ε (Noting H E) α)
    (rest : α → ExceptT ε (Noting H E) β) (w : World H E) :
    (action >>= rest).run w =
      (action.run w).andThen (ExceptT.bindCont rest (action.run w).result (action.run w).world) :=
  rfl

theorem modify_apply (f : World H E → World H E) (w : World H E) :
    (modify f : Noting H E Unit) w = ⟨(), [], f w⟩ :=
  rfl

theorem note_apply (event : World H E → Event H E) (w : World H E) :
    note event w = ⟨(), [event w], w⟩ :=
  rfl

end Noting

abbrev Calling (H : Host) (E : Engine) := ExceptT Trouble (Noting H E)

abbrev Operating (H : Host) (E : Engine) := ExceptT Failure (Noting H E)

/-- An operation that gives no account of itself. -/
def Operating.plain (action : Action H E α) : Operating H E α := ExceptT.mk (liftM action.run)

namespace Thrown

variable (C : Callbacks H E)

/-! ### Calls of the engine -/

/-- Runs a program. A demand that is failed ends it with the failure. -/
def drive (id : Nat) (offer : S → List SqlValue → Noting H E (S ⊕ β)) (state : S)
    (scans : Callbacks.Scans H) :
    Program E.Store α → Noting H E (Except Trouble (S × α ⊕ β) × Callbacks.Scans H)
  | .finish result store => do
      modify (World.updateStore fun _ => store)
      return ((result.map fun value => .inl (state, value)).mapError .engine, scans)
  | .ask demand store abandon resume => do
      modify (World.updateStore fun _ => store)
      Noting.note (.asked id scans demand)
      match ← C.serve id scans demand with
      | (.ok reply, scans) =>
          drive id offer state scans (resume reply (← get).store)
      | (.error failure, scans) =>
          modify (World.updateStore abandon)
          return (.error (.callback failure), scans)
  | .row values store abandon resume => do
      modify (World.updateStore fun _ => store)
      match ← offer state values with
      | .inl state => drive id offer state scans (resume (← get).store)
      | .inr exit =>
          modify (World.updateStore abandon)
          return (.ok (.inr exit), scans)

def run (id : Nat) (offer : S → List SqlValue → Noting H E (S ⊕ β)) (state : S)
    (routine : Routine E.Store α) : Calling H E (S × α ⊕ β) :=
  ExceptT.mk do
    let (outcome, scans) ← drive C id offer state [] (routine (← get).store)
    (Callbacks.closeScans id scans : Worldly H E Unit)
    return outcome

def settle (id : Nat) (routine : Routine E.Store α) : Calling H E α := do
  match ← run C (S := Unit) (β := Empty) id (fun _ _ => return .inl ()) () routine with
  | .inl (_, value) => return value

def first (id : Nat) (routine : Routine E.Store α) : Calling H E (Option (List SqlValue)) := do
  match ← run C (S := Unit) id (fun _ values => return .inr values) () routine with
  | .inl _ => return none
  | .inr values => return some values

def collect (id : Nat) (read : List SqlValue → Except EngineFault β)
    (routine : Routine E.Store α) : Calling H E (List β) := do
  let offer (rows : List β) (values : List SqlValue) :
      Noting H E (List β ⊕ EngineFault) :=
    match read values with
    | .ok row => return .inl (row :: rows)
    | .error fault => return .inr fault
  match ← run C id offer [] routine with
  | .inl (rows, _) => return rows.reverse
  | .inr fault => throw (.engine fault)

def withoutPlace (call : Calling H E α) : Calling H E α := call.adapt Trouble.withoutPlace

def hold (id : Nat) (text : String) : Calling H E (HeldStatement E) := do
  match ((← get).session id).kept? text with
  | some info =>
      modify (World.updateSession id (Session.takeOut text))
      return ⟨info, none⟩
  | none =>
      let statement ← settle C id (E.prepare id text)
      return ⟨E.info statement, some statement⟩

def renew (id : Nat) (text : String) (held : HeldStatement E) : Calling H E E.Statement := do
  let isOutdated ← (Callbacks.refresh id held.info : Worldly H E Bool)
  match held.compiled, isOutdated with
  | some statement, false => return statement
  | _, _ => withoutPlace (settle C id (E.prepare id text))

def renewed (id : Nat) (text : String) (statement : E.Statement) : Calling H E E.Statement := do
  if ← (Callbacks.refresh id (E.info statement) : Worldly H E Bool) then
    withoutPlace do
      let (statement, _) ← settle C id (E.compile id text)
      return statement
  else return statement

def batch (id : Nat) : Nat → String → Calling H E Unit
  | 0, _ => return
  | fuel + 1, text => do
      if text.isEmpty then return
      else
        let (statement, rest) ← settle C id (E.compile id text)
        if (E.info statement).isEmpty then batch id fuel rest
        else
          let statement ← renewed C id text statement
          let _ ← first C id (E.execute id statement [])
          batch id fuel rest

def stepped (s : Statement) (values : List SqlValue)
    (use : List String → E.Statement → List SqlValue → Calling H E α) (held : HeldStatement E) :
    Noting H E (StatementInfo × Except Trouble α) := do
  match held.info.bind values with
  | .error fault => return (held.info, .error (.engine fault))
  | .ok values =>
      match ← (renew C s.session s.text held).run with
      | .error trouble => return (held.info, .error trouble)
      | .ok statement =>
          return (E.info statement, ← (use held.info.columns statement values).run)

def withEngine (s : Statement) (values : List SqlValue)
    (use : List String → E.Statement → List SqlValue → Calling H E α) : Calling H E α := do
  let held ← hold C s.session s.text
  ExceptT.mk do
    let (info, result) ← stepped C s values use held
    modify (World.updateSession s.session (Session.keep s.text info))
    return result

/-! ### Periods -/

def explaining (id : Nat) (call : Calling H E α) : Operating H E α :=
  ExceptT.mk do
    match ← call.run with
    | .ok value => return .ok value
    | .error trouble =>
        let failure := trouble.failure ((← get).status id)
        modify (World.updateStatus id Status.discardStale)
        return .error failure

def withBusy (id : Nat) (operation : Operating H E α) : Operating H E α :=
  ExceptT.mk do
    match ((← get).status id).markBusy with
    | .error failure => return .error failure
    | .ok status =>
        modify (World.updateStatus id fun _ => status)
        let result ← operation.run
        modify (World.updateStatus id Status.clearBusy)
        return result

def withIteration (id : Nat) (operation : Operating H E α) : Operating H E α :=
  ExceptT.mk do
    modify (World.updateStatus id Status.enterIteration)
    let result ← operation.run
    modify (World.updateStatus id Status.exitIteration)
    return result

def borrowing (id : Nat) (operation : Operating H E α) : Operating H E α :=
  ExceptT.mk do
    if !((← get).session id).connected then
      return .error (.refused .notOpen)
    else
      modify (World.updateSession id fun s => { s with borrowers := s.borrowers + 1 })
      modify (World.updateStatus id Status.discardStale)
      let result ← operation.run
      modify (World.updateSession id fun s => { s with borrowers := s.borrowers - 1 })
      return result

def withConnection (id : Nat) (call : Calling H E α) : Operating H E α :=
  borrowing id (explaining id call)

/-! ### Iterations -/

/-- A result of the engine that no callback has a part in. -/
def known (result : Except EngineFault α) : Calling H E α :=
  ExceptT.mk (return result.mapError .engine)

def handOver (s : Statement) (columns : List String) (body : Row → Action H E Bool)
    (values : List SqlValue) : Noting H E (Unit ⊕ Except Failure Unit) := do
  let row ← (explaining s.session (known (Statement.readRow s.integerMode columns values))).run
  modify (World.updateStatus s.session Status.clearBusy)
  match row with
  | .error failure => return .inr (.error failure)
  | .ok row =>
      Noting.note .handed
      match ← ((body row).run : Worldly H E (Except Failure Bool)) with
      | .error failure => return .inr (.error failure)
      | .ok false => return .inr (.ok ())
      | .ok true =>
          match ← (Statement.beginStep s.session : Worldly H E (Except Failure Unit)) with
          | .error failure => return .inr (.error failure)
          | .ok () => return .inl ()

def endSteps (id : Nat) (result : Except Trouble Unit) : Noting H E (Except Failure Unit) := do
  let explained ← (explaining id (ExceptT.mk (return result))).run
  modify (World.updateStatus id Status.clearBusy)
  return explained

def steps (s : Statement) (held : HeldStatement E) (values : List SqlValue)
    (body : Row → Action H E Bool) : Noting H E (StatementInfo × Except Failure Unit) := do
  match ← (Statement.beginStep s.session : Worldly H E (Except Failure Unit)) with
  | .error failure => return (held.info, .error failure)
  | .ok () =>
      match ← (renew C s.session s.text held).run with
      | .error trouble => return (held.info, ← endSteps s.session (.error trouble))
      | .ok statement =>
          match ← (run C s.session (fun _ values => handOver s held.info.columns body values) ()
              (E.execute s.session statement values)).run with
          | .ok (.inr exit) => return (E.info statement, exit)
          | .ok (.inl _) => return (E.info statement, ← endSteps s.session (.ok ()))
          | .error trouble => return (E.info statement, ← endSteps s.session (.error trouble))

def boundSteps (s : Statement) (held : HeldStatement E) (values : List SqlValue)
    (body : Row → Action H E Bool) : Noting H E (StatementInfo × Except Failure Unit) := do
  match ← (withBusy s.session (explaining s.session (known (held.info.bind values)))).run with
  | .error failure => return (held.info, .error failure)
  | .ok values => steps C s held values body

/-! ### Operations -/

/-- The engine's part of a call that executes SQL. -/
def engaged : (call : Execution H E) → List SqlValue → Operating H E call.Result
  | .exec id sql, _ => withBusy id (withConnection id (batch C id (sql.length + 1) sql))
  | .run s _, values =>
      withBusy s.session <| withConnection s.session <|
        withEngine C s values fun _ statement values => do
          match ← first C s.session (E.execute s.session statement values) with
          | some _ => throw (.engine .returnedRows)
          | none =>
              let store := (← get).store
              let rowid := SqlValue.integer (E.lastRowid s.session store)
              return ⟨E.changes s.session store, rowid.toHost s.integerMode⟩
  | .read s _ .first, values =>
      withBusy s.session <| withConnection s.session <|
        withEngine C s values fun columns statement values => do
          match ← first C s.session (E.execute s.session statement values) with
          | none => return none
          | some values => known ((Statement.readRow s.integerMode columns values).map some)
  | .read s _ .all, values =>
      withBusy s.session <| withConnection s.session <|
        withEngine C s values fun columns statement values =>
          collect C s.session (Statement.readRow s.integerMode columns)
            (E.execute s.session statement values)
  | .read s _ (.iterate body), values =>
      withIteration s.session <| borrowing s.session do
        let held ← withBusy s.session (explaining s.session (hold C s.session s.text))
        ExceptT.mk do
          let (info, result) ← boundSteps C s held values body
          modify (World.updateSession s.session (Session.keep s.text info))
          return result

end Thrown

inductive Operation (H : Host) (E : Engine) where
  | prepare (id : Nat) (sql : String)
  | registerTable (id : Nat) (name : String) (factory : H.Factory) (eponymous : Bool)
  | execute (call : Execution H E)

namespace Operation

def Result : Operation H E → Type
  | .prepare _ _ => Statement
  | .registerTable _ _ _ _ => Unit
  | .execute call => call.Result

variable (C : Callbacks H E)

def perform : (operation : Operation H E) → Action H E operation.Result
  | .prepare id sql => Session.prepare C id sql
  | .registerTable id name factory eponymous => Session.registerTable id name factory eponymous
  | .execute call => call.perform C

open Thrown in
/-- The operation with failures thrown. -/
def thrown : (operation : Operation H E) → Operating H E operation.Result
  | .prepare id sql => do
      .plain (Session.require id Status.requireOpen)
      .plain (Session.require id Status.requireNotBusy)
      let text := trim sql.toList
      if text.isEmpty then
        throw (.invalidArgument "The supplied SQL string contains no statements")
      withBusy id do
        let held ← withConnection id (hold C id (String.ofList text))
        modify (World.updateSession id (Session.keep (String.ofList text) held.info))
        return ⟨id, sql, !held.info.columns.isEmpty, held.info.readonly,
          ((← get).status id).integerMode⟩
  | .registerTable id name factory eponymous => do
      .plain (Session.require id Status.requireOpen)
      .plain (Session.require id Status.requireNotBusy)
      .plain (Session.require id Status.requireNoIterators)
      let key := foldCase name
      if ((← get).session id).moduleNames.contains key then
        throw (.invalidArgument
          ("A virtual table module named \"" ++ name ++ "\" is already registered"))
      withBusy id do
        withConnection id do
          match E.createModule id name eponymous (← get).store with
          | .error fault => throw (.engine fault)
          | .ok store => modify (World.updateStore fun _ => store)
        modify (World.updateSession id fun s =>
          { s with
            moduleNames := s.moduleNames ++ [key], modules := s.modules ++ [⟨name, factory⟩] })
  | .execute call => do
      match call.admitted ((← get).status call.session) with
      | .error failure => throw failure
      | .ok values => engaged C call values

end Operation

end RowSource
