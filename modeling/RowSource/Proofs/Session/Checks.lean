import RowSource.Session.HostCode

/-!
# The checks of an execution

A call that executes SQL first looks at the status of its session and at its parameters, and then
hands over to the engine. A check that fails ends the call and changes nothing, so the call is a
function of the status followed by the engine's part.
-/

namespace RowSource

variable {H : Host} {E : Engine} {α β : Type}

theorem Worldly.bind_apply (action : Worldly H E α) (rest : α → Worldly H E β) (w : World H E) :
    (action >>= rest) w = rest (action w).1 (action w).2 :=
  rfl

theorem Worldly.pure_apply (value : α) (w : World H E) :
    (pure value : Worldly H E α) w = (value, w) :=
  rfl

theorem Worldly.get_bind_apply (rest : World H E → Worldly H E α) (w : World H E) :
    (get >>= rest) w = rest w w :=
  rfl

theorem Worldly.modify_apply (f : World H E → World H E) (w : World H E) :
    (modify f : Worldly H E Unit) w = ((), f w) :=
  rfl

/-- A check answers by the status alone and changes nothing. -/
theorem Action.get_bind_run (rest : World H E → Action H E α) (w : World H E) :
    (get >>= rest).run w = (rest w).run w :=
  rfl

theorem Action.bind_run (action : Action H E β) (rest : β → Action H E α) (w : World H E) :
    (action >>= rest).run w =
      (ExceptT.bindCont rest (action.run w).1 : Worldly H E _) (action.run w).2 :=
  rfl

theorem Action.bind_of_ok {action : Action H E α} {rest : α → Action H E β} {w v : World H E}
    {value : α} (done : action.run w = (.ok value, v)) :
    (action >>= rest).run w = (rest value).run v := by
  rw [Action.bind_run, done]
  rfl

theorem Action.bind_of_error {action : Action H E α} {rest : α → Action H E β} {w v : World H E}
    {failure : Failure} (failed : action.run w = (.error failure, v)) :
    (action >>= rest).run w = (.error failure, v) := by
  rw [Action.bind_run, failed]
  rfl

theorem Action.modify_bind_run (f : World H E → World H E) (rest : Unit → Action H E α)
    (w : World H E) : (modify f >>= rest).run w = (rest ()).run (f w) :=
  rfl

theorem Session.require_run (id : Nat) (check : Status → Except Failure Unit) (w : World H E) :
    (require id check).run w = (check (w.status id), w) := by
  unfold require
  rw [Action.get_bind_run]
  cases check (w.status id) <;> rfl

/-- In some world an action fails as is known beforehand and changes nothing, or goes on with what
is known. -/
def Action.Follows (action : Action H E α) (w : World H E) (known : Except Failure β)
    (next : β → Action H E α) : Prop :=
  action.run w =
    match known with
    | .error failure => (.error failure, w)
    | .ok value => (next value).run w

namespace Action.Follows

theorem known (known : Except Failure β) (w : World H E) :
    Follows (ExceptT.mk (return known) : Action H E β) w known pure := by
  cases known <;> rfl

theorem require {id : Nat} {check : Status → Except Failure Unit} {rest : Unit → Action H E α}
    {w : World H E} {known : Except Failure β} {next : β → Action H E α}
    (follows : (rest ()).Follows w known next) :
    (Session.require id check >>= rest).Follows w (check (w.status id) >>= fun _ => known)
      next := by
  unfold Follows
  rw [Action.bind_run, Session.require_run]
  cases check (w.status id) with
  | error failure =>
      rfl
  | ok passed =>
      exact follows

theorem next {checks : Action H E β} {w : World H E} {known : Except Failure β}
    (follows : checks.Follows w known pure) (next : β → Action H E α) :
    (checks >>= next).Follows w known next := by
  unfold Follows at follows ⊢
  rw [Action.bind_run, follows]
  cases known with
  | error failure =>
      rfl
  | ok value =>
      rfl

end Action.Follows

namespace Statement

/-- The engine values of the parameters of a run, if its checks let them come. -/
def runnable (s : Statement) (params : List HostValue) (status : Status) :
    Except Failure (List SqlValue) :=
  if s.reader then
    .error (.invalidArgument
      "This statement returns data. Use get(), all(), or iterate() instead")
  else do
    status.requireOpen
    status.requireNotBusy
    if s.readonly then engineValues 1 params
    else do
      status.requireNoIteratorsUnlessUnsafe
      engineValues 1 params

/-- The engine values of the parameters of a read, if its checks let them come. -/
def readable (s : Statement) (params : List HostValue) (status : Status) :
    Except Failure (List SqlValue) :=
  if s.reader then do
    status.requireOpen
    status.requireNotBusy
    engineValues 1 params
  else .error (.invalidArgument "This statement does not return data. Use run() instead")

theorem beginRead_follows (s : Statement) (params : List HostValue) (w : World H E) :
    (s.beginRead params).Follows w (s.readable params (w.status s.session)) pure := by
  unfold beginRead readable
  cases s.reader with
  | false =>
      rfl
  | true =>
      exact .require (.require (.known _ w))

end Statement

/-! ### Executions -/

inductive Fetch (H : Host) (E : Engine) where
  | first
  | all
  | iterate (body : Row → Action H E Bool)

def Fetch.Result : Fetch H E → Type
  | .first => Option Row
  | .all => List Row
  | .iterate _ => Unit

inductive Execution (H : Host) (E : Engine) where
  | exec (id : Nat) (sql : String)
  | run (s : Statement) (params : List HostValue)
  | read (s : Statement) (params : List HostValue) (fetch : Fetch H E)

namespace Execution

def session : Execution H E → Nat
  | .exec id _ => id
  | .run s _ => s.session
  | .read s _ _ => s.session

def Result : Execution H E → Type
  | .exec _ _ => Unit
  | .run _ _ => RunResult
  | .read _ _ fetch => fetch.Result

variable (C : Callbacks H E)

def perform : (call : Execution H E) → Action H E call.Result
  | .exec id sql => Session.exec C id sql
  | .run s params => s.run C params
  | .read s params .first => s.first C params
  | .read s params .all => s.all C params
  | .read s params (.iterate body) => s.iterate C params body

/-- The checks of a call. Those of a statement let the engine values of its parameters come. -/
def admitted (status : Status) : Execution H E → Except Failure (List SqlValue)
  | .exec _ _ => do
      status.requireOpen
      status.requireNotBusy
      status.requireNoIteratorsUnlessUnsafe
      return []
  | .run s params => s.runnable params status
  | .read s params _ => s.readable params status

open Session in
/-- The engine's part of a call: everything after its checks, with the values that they let come. -/
def engaged : (call : Execution H E) → List SqlValue → Action H E call.Result
  | .exec id sql, _ => withBusy id (withConnection id (batch C id (sql.length + 1) sql))
  | .run s _, values =>
      withBusy s.session <| withConnection s.session <|
        s.withEngine C values fun _ statement values => do
          match ← C.first s.session (E.execute s.session statement values) with
          | .error fault => return .error fault
          | .ok (some _) => return .error .returnedRows
          | .ok none =>
              let store := (← get).store
              let rowid := SqlValue.integer (E.lastRowid s.session store)
              return .ok ⟨E.changes s.session store, rowid.toHost s.integerMode⟩
  | .read s _ .first, values =>
      withBusy s.session <| withConnection s.session <|
        s.withEngine C values fun columns statement values => do
          match ← C.first s.session (E.execute s.session statement values) with
          | .error fault => return .error fault
          | .ok none => return .ok none
          | .ok (some values) =>
              return (Statement.readRow s.integerMode columns values).map some
  | .read s _ .all, values =>
      withBusy s.session <| withConnection s.session <|
        s.withEngine C values fun columns statement values =>
          C.collect s.session (Statement.readRow s.integerMode columns)
            (E.execute s.session statement values)
  | .read s _ (.iterate body), values =>
      withIteration s.session <| borrowing s.session do
        let held ← withBusy s.session (explaining s.session (C.hold s.session s.text))
        ExceptT.mk do
          let (info, result) ← s.boundSteps C held values body
          modify (World.updateSession s.session (Session.keep s.text info))
          return result

/-- A call is its checks, which change nothing, and then the engine's part. -/
theorem perform_follows (call : Execution H E) (w : World H E) :
    (call.perform C).Follows w (call.admitted (w.status call.session)) (call.engaged C) := by
  cases call with
  | exec id sql =>
      exact .require (.require (.require (Eq.refl _)))
  | run s params =>
      change (s.run C params).Follows w (s.runnable params (w.status s.session))
        (engaged C (.run s params))
      unfold Statement.run Statement.runnable
      cases s.reader with
      | true =>
          exact (Action.Follows.known (.error _) w).next _
      | false =>
          cases s.readonly with
          | true =>
              exact .require (.require ((Action.Follows.known _ w).next _))
          | false =>
              exact .require (.require (.require ((Action.Follows.known _ w).next _)))
  | read s params fetch =>
      cases fetch with
      | first =>
          exact (s.beginRead_follows params w).next _
      | all =>
          exact (s.beginRead_follows params w).next _
      | iterate body =>
          exact (s.beginRead_follows params w).next _

end Execution

end RowSource
