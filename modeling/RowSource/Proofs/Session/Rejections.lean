import RowSource.Proofs.Session.Admission
import RowSource.Proofs.Session.CallbackFailure
import RowSource.Proofs.Session.Closing
import RowSource.Proofs.Session.Refusals

/-!
# Rejections

An operation that is turned down for the state of its session, or for what it was given, was turned
down by its checks or for want of a connection. The engine does not reject anything, and neither does
host code: what it throws is wrapped.
-/

namespace RowSource

variable {H : Host} {E : Engine} {C : Callbacks H E} {S α β : Type}

namespace World

theorem updateSession_of_fixed {w : World H E} {id : Nat} {f : Session H → Session H}
    (fixed : f (w.session id) = w.session id) : w.updateSession id f = w := by
  have same : w.sessions.modify id f = w.sessions := by
    apply List.ext_getElem?
    intro other
    rw [List.getElem?_modify]
    by_cases here : id = other
    · subst here
      cases found : w.sessions[id]? with
      | none => rfl
      | some s =>
          have known : w.session id = s := by
            rw [session, List.getD_eq_getElem?_getD, found, Option.getD_some]
          rw [known] at fixed
          change some (if id = id then f s else s) = some s
          rw [if_pos rfl, fixed]
    · simp only [here, if_false]
      cases w.sessions[other]? <;> rfl
  unfold updateSession
  rw [same]

/-- A busy period leaves no trace where there was none. -/
theorem clearBusy_markBusy {w : World H E} {id : Nat} (idle : (w.status id).isBusy = false) :
    (w.updateStatus id fun status => { status with isBusy := true }).updateStatus id
      Status.clearBusy = w := by
  rw [updateStatus_updateStatus]
  refine updateSession_of_fixed ?_
  have same : (w.status id).clearBusy = w.status id := by
    unfold Status.clearBusy
    rw [← idle]
  change { w.session id with status := (w.status id).clearBusy } = w.session id
  rw [same]
  rfl

theorem connected_updateStatus (w : World H E) (id other : Nat) (f : Status → Status) :
    ((w.updateStatus id f).session other).connected = (w.session other).connected := by
  unfold updateStatus
  rw [session_updateSession]
  split <;> rfl

end World

/-! ### Calls of the engine -/

def Trouble.isRejection : Trouble → Bool
  | .callback failure => failure.isRejection
  | .engine _ => false

theorem Trouble.failure_unrejected {trouble : Trouble} (unrejected : trouble.isRejection = false)
    (status : Status) : (trouble.failure status).isRejection = false := by
  cases trouble with
  | callback failure => exact unrejected
  | engine fault =>
      dsimp only [failure]
      split <;> rfl

/-- A call of the engine that comes to nothing, but not by a rejection. -/
def Unrejecting (call : Calling H E α) : Prop :=
  ∀ w trouble, (call.run w).result = .error trouble → trouble.isRejection = false

namespace Unrejecting

theorem pure (value : α) : Unrejecting (H := H) (E := E) (Pure.pure value) :=
  fun _ _ failed => nomatch failed

theorem known (result : Except EngineFault α) :
    Unrejecting (H := H) (E := E) (Thrown.known result) := by
  rintro w trouble failed
  cases result with
  | ok value => cases failed
  | error fault =>
      cases failed
      rfl

theorem bind {call : Calling H E α} {next : α → Calling H E β} (first : Unrejecting call)
    (second : ∀ value, Unrejecting (next value)) : Unrejecting (call >>= next) := by
  intro w trouble failed
  rw [Noting.bind_run] at failed
  change (ExceptT.bindCont next (call.run w).result (call.run w).world).result = _ at failed
  cases result : (call.run w).result with
  | error met =>
      rw [result] at failed
      cases failed
      exact first w _ result
  | ok value =>
      rw [result] at failed
      exact second value _ trouble failed

theorem look {next : World H E → Calling H E α} (later : ∀ w, Unrejecting (next w)) :
    Unrejecting (get >>= next) :=
  fun w trouble failed => later w w trouble failed

/-- What no call of the engine has a part in. -/
theorem silent {action : Worldly H E β} {next : β → Calling H E α}
    (later : ∀ value, Unrejecting (next value)) : Unrejecting (liftM action >>= next) :=
  fun w trouble failed => later (action w).1 (action w).2 trouble failed

theorem withoutPlace {call : Calling H E α} (unrejecting : Unrejecting call) :
    Unrejecting (Thrown.withoutPlace call) := by
  intro w trouble failed
  change (call.run w).result.mapError Trouble.withoutPlace = _ at failed
  cases result : (call.run w).result with
  | ok value =>
      rw [result] at failed
      cases failed
  | error met =>
      have unrejected := unrejecting w met result
      rw [result] at failed
      cases failed
      cases met with
      | callback failure => exact unrejected
      | engine fault => rfl

/-- A demand that is failed is not rejected, and a program knows of no other failures. -/
theorem drive (id : Nat) (offer : S → List SqlValue → Noting H E (S ⊕ β))
    (program : Program E.Store α) (state : S) (scans : Callbacks.Scans H) (w : World H E)
    {trouble : Trouble}
    (failed : (Thrown.drive C id offer state scans program w).result.1 = .error trouble) :
    trouble.isRejection = false := by
  induction program generalizing state scans w with
  | finish result store =>
      rw [Thrown.drive_finish] at failed
      cases result with
      | ok value => cases failed
      | error fault =>
          cases failed
          rfl
  | ask demand store abandon resume resumed =>
      rw [Thrown.drive_ask] at failed
      rcases answered : C.serve id scans demand (w.updateStore fun _ => store) with
        ⟨⟨reply, left⟩, v⟩
      rw [answered] at failed
      cases reply with
      | ok reply => exact resumed reply v.store state left v failed
      | error failure =>
          cases failed
          exact ((C.serve_error_iff id scans demand _ failure).mp
            (congrArg (·.1.1) answered)).unrejected
  | row values store abandon resume resumed =>
      rw [Thrown.drive_row] at failed
      generalize offer state values (w.updateStore fun _ => store) = noted at failed
      obtain ⟨answer, events, v⟩ := noted
      cases answer with
      | inl state => exact resumed v.store state scans v failed
      | inr exit => cases failed

theorem run (id : Nat) (offer : S → List SqlValue → Noting H E (S ⊕ β)) (state : S)
    (routine : Routine E.Store α) : Unrejecting (Thrown.run C id offer state routine) :=
  fun w _trouble failed => drive id offer (routine w.store) state [] w failed

theorem settle (id : Nat) (routine : Routine E.Store α) :
    Unrejecting (Thrown.settle C id routine) := by
  refine (run id _ () routine).bind fun outcome => ?_
  rcases outcome with ⟨_, value⟩ | impossible
  · exact .pure value
  · cases impossible

theorem first (id : Nat) (routine : Routine E.Store α) :
    Unrejecting (Thrown.first C id routine) := by
  refine (run id _ () routine).bind fun outcome => ?_
  cases outcome with
  | inl ended => exact .pure none
  | inr values => exact .pure (some values)

theorem collect (id : Nat) (read : List SqlValue → Except EngineFault β)
    (routine : Routine E.Store α) : Unrejecting (Thrown.collect C id read routine) := by
  refine (run id _ [] routine).bind fun outcome => ?_
  rcases outcome with ⟨rows, _⟩ | fault
  · exact .pure rows.reverse
  · exact .known (.error fault)

theorem hold (id : Nat) (text : String) : Unrejecting (Thrown.hold C id text) := by
  refine .look fun w => ?_
  cases (w.session id).kept? text with
  | some info => exact .silent fun _ => .pure _
  | none => exact (settle id _).bind fun statement => .pure _

theorem renew (id : Nat) (text : String) (held : HeldStatement E) :
    Unrejecting (Thrown.renew C id text held) := by
  refine .silent fun isOutdated => ?_
  split
  · exact .pure _
  · exact (settle id _).withoutPlace

theorem renewed (id : Nat) (text : String) (statement : E.Statement) :
    Unrejecting (Thrown.renewed C id text statement) := by
  refine .silent fun isOutdated => ?_
  cases isOutdated with
  | true => exact ((settle id _).bind fun (statement, _) => .pure statement).withoutPlace
  | false => exact .pure statement

theorem batch (id fuel : Nat) (text : String) : Unrejecting (Thrown.batch C id fuel text) := by
  induction fuel generalizing text with
  | zero => exact .pure ()
  | succ fuel rest =>
      unfold Thrown.batch
      split
      · exact .pure ()
      · refine (settle id _).bind fun compiled => ?_
        obtain ⟨statement, after⟩ := compiled
        dsimp only
        split
        · exact rest after
        · exact (renewed id text statement).bind fun statement =>
            (first id _).bind fun _ => rest after

theorem withEngine (s : Statement) (values : List SqlValue)
    {use : List String → E.Statement → List SqlValue → Calling H E α}
    (uses : ∀ columns statement values, Unrejecting (use columns statement values)) :
    Unrejecting (Thrown.withEngine C s values use) := by
  have stepped (held : HeldStatement E) (w : World H E) {trouble : Trouble}
      (failed : (Thrown.stepped C s values use held w).result.2 = .error trouble) :
      trouble.isRejection = false := by
    unfold Thrown.stepped at failed
    cases bound : held.info.bind values with
    | error fault =>
        rw [bound] at failed
        cases failed
        rfl
    | ok values =>
        rw [bound] at failed
        dsimp only at failed
        rw [Noting.bind_apply] at failed
        generalize ran : (Thrown.renew C s.session s.text held).run w = noted at failed
        obtain ⟨result, events, v⟩ := noted
        cases result with
        | error met =>
            cases failed
            exact renew s.session s.text held w _ (by rw [ran])
        | ok statement => exact uses held.info.columns statement values v trouble failed
  refine (hold s.session s.text).bind fun held => ?_
  exact fun w trouble failed => stepped held w failed

end Unrejecting

theorem Unrejecting.explained {call : Calling H E α} (unrejecting : Unrejecting call) (id : Nat)
    {w : World H E} {failure : Failure}
    (failed : ((Thrown.explaining id call).run w).result = .error failure) :
    failure.isRejection = false := by
  unfold Thrown.explaining at failed
  rw [ExceptT.run_mk, Noting.bind_apply] at failed
  generalize ran : call.run w = noted at failed
  obtain ⟨result, events, v⟩ := noted
  cases result with
  | ok value => cases failed
  | error trouble =>
      cases failed
      exact Trouble.failure_unrejected (unrejecting w trouble (by rw [ran])) _

/-! ### Lost connections -/

/-- Nothing but a lost connection rejects an operation, and then it has done nothing. -/
def RejectsLost (id : Nat) (operation : Operating H E α) : Prop :=
  ∀ w failure, (operation.run w).result = .error failure → failure.isRejection = true →
    (w.session id).connected = false ∧ failure = .refused .notOpen ∧
      operation.run w = ⟨.error failure, [], w⟩

namespace RejectsLost

variable {id : Nat}

theorem withConnection {call : Calling H E α} (unrejecting : Unrejecting call) :
    RejectsLost id (Thrown.withConnection id call) := by
  intro w failure failed rejection
  have ran : (Thrown.withConnection id call).run w =
      (if !(w.session id).connected then return .error (.refused .notOpen)
      else do
        modify fun w => (w.updateSession id fun s => { s with borrowers := s.borrowers + 1 }
          ).updateStatus id Status.discardStale
        let result ← (Thrown.explaining id call).run
        modify (World.updateSession id fun s => { s with borrowers := s.borrowers - 1 })
        return result : Noting H E (Except Failure α)) w := rfl
  rw [ran] at failed ⊢
  cases connected : (w.session id).connected with
  | false =>
      rw [connected] at failed
      cases failed
      exact ⟨rfl, rfl, rfl⟩
  | true =>
      rw [connected] at failed
      have unrejected : failure.isRejection = false := unrejecting.explained id failed
      rw [unrejected] at rejection
      cases rejection

/-- What comes after it does not fail. -/
theorem bind {operation : Operating H E α} (rejects : RejectsLost id operation)
    {rest : α → Operating H E β}
    (succeeds : ∀ value w, ∃ answer, ((rest value).run w).result = .ok answer) :
    RejectsLost id (operation >>= rest) := by
  intro w failure failed rejection
  rw [Noting.bind_run] at failed ⊢
  change (ExceptT.bindCont rest (operation.run w).result (operation.run w).world).result = _
    at failed
  cases result : (operation.run w).result with
  | ok value =>
      rw [result] at failed
      obtain ⟨answer, succeeded⟩ := succeeds value (operation.run w).world
      cases succeeded.symm.trans failed
  | error met =>
      rw [result] at failed
      cases failed
      obtain ⟨lost, refused, ran⟩ := rejects w _ result rejection
      refine ⟨lost, refused, ?_⟩
      rw [ran]
      rfl

/-- The busy mark is taken and given back. -/
theorem withBusy {operation : Operating H E α} (rejects : RejectsLost id operation)
    {w : World H E} (idle : (w.status id).isBusy = false) {failure : Failure}
    (failed : ((Thrown.withBusy id operation).run w).result = .error failure)
    (rejection : failure.isRejection = true) :
    (w.session id).connected = false ∧ failure = .refused .notOpen ∧
      (Thrown.withBusy id operation).run w = ⟨.error failure, [], w⟩ := by
  have ran : (Thrown.withBusy id operation).run w =
      (do
        modify (World.updateStatus id fun status => { status with isBusy := true })
        let result ← operation.run
        modify (World.updateStatus id Status.clearBusy)
        return result : Noting H E (Except Failure α)) w := by
    unfold Thrown.withBusy Status.markBusy
    rw [ExceptT.run_mk, Noting.get_bind_apply, idle, Noting.bind_apply, Noting.modify_apply,
      ← w.updateStatus_known id fun status => { status with isBusy := true }]
    rfl
  rw [ran] at failed ⊢
  let marked := w.updateStatus id fun status => { status with isBusy := true }
  obtain ⟨lost, refused, done⟩ := rejects marked failure failed rejection
  rw [World.connected_updateStatus] at lost
  have given : marked.updateStatus id Status.clearBusy = w := World.clearBusy_markBusy idle
  refine ⟨lost, refused, ?_⟩
  simp only [Noting.bind_apply, Noting.modify_apply, Noting.pure_apply]
  change Noted.andThen _ (Noted.andThen (operation.run marked) _) = _
  rw [done]
  change Noted.mk _ _ (marked.updateStatus id Status.clearBusy) = _
  rw [given]
  rfl

end RejectsLost

namespace Session

theorem withConnection_bind_of_lost {id : Nat} {call : Worldly H E (Except EngineFault α)}
    {rest : α → Action H E β} {w : World H E} (lost : (w.session id).connected = false) :
    (withConnection id call >>= rest).run w = (.error (.refused .notOpen), w) := by
  rw [Action.bind_run, withConnection_of_disconnected lost]
  rfl

theorem withBusy_of_lost {id : Nat} {action : Action H E α} {w : World H E} {failure : Failure}
    (idle : (w.status id).isBusy = false) (lost : (w.session id).connected = false)
    (fails : ∀ v : World H E, (v.session id).connected = false →
      action.run v = (.error failure, v)) :
    (withBusy id action).run w = (.error failure, w) := by
  have failed := fails (w.updateStatus id fun status => { status with isBusy := true })
    (by rw [World.connected_updateStatus, lost])
  rw [withBusy_of_idle idle, failed]
  dsimp only
  rw [World.clearBusy_markBusy idle]

end Session

namespace Operation

/-- The operation is over before host code sees a row of it. -/
def IsWhole : Operation H E → Prop
  | .execute (.read _ _ (.iterate _)) => False
  | _ => True

/-- All that can turn an operation down, in order: its checks, and the loss of the connection. -/
def grounds (s : Session H) (operation : Operation H E) : Except Failure (List SqlValue) := do
  let values ← operation.admitted s
  if s.connected then return values else throw (.refused .notOpen)

theorem grounds_of_refused {operation : Operation H E} {s : Session H} {failure : Failure}
    (refused : operation.admitted s = .error failure) : operation.grounds s = .error failure := by
  unfold grounds
  rw [refused]
  rfl

theorem grounds_of_lost {operation : Operation H E} {s : Session H} {values : List SqlValue}
    (admitted : operation.admitted s = .ok values) (lost : s.connected = false) :
    operation.grounds s = .error (.refused .notOpen) := by
  unfold grounds
  rw [admitted, lost]
  rfl

/-- An operation with all its checks behind it is rejected for a lost connection only. -/
theorem engaged_rejection {operation : Operation H E} (whole : operation.IsWhole)
    {w : World H E} (idle : (w.status operation.session).isBusy = false) {values : List SqlValue}
    {failure : Failure} (failed : ((operation.engaged C values).run w).result = .error failure)
    (rejection : failure.isRejection = true) :
    (w.session operation.session).connected = false ∧ failure = .refused .notOpen ∧
      (operation.engaged C values).run w = ⟨.error failure, [], w⟩ := by
  cases operation with
  | prepare id sql =>
      refine RejectsLost.withBusy (.bind (.withConnection (.hold id _)) ?_) idle failed rejection
      exact fun held w => ⟨_, rfl⟩
  | registerTable id name factory eponymous =>
      refine RejectsLost.withBusy (.bind (.withConnection (.look fun v => ?_)) ?_) idle failed
        rejection
      · cases E.createModule id name eponymous v.store with
        | error fault => exact .known (.error fault)
        | ok store => exact fun _ _ failed => nomatch failed
      · exact fun made w => ⟨_, rfl⟩
  | execute call =>
      rcases call with ⟨id, sql⟩ | ⟨s, params⟩ | ⟨s, params, fetch⟩
      · exact RejectsLost.withBusy (.withConnection (.batch id _ sql)) idle failed rejection
      · refine RejectsLost.withBusy (.withConnection (.withEngine s values ?_)) idle failed rejection
        intro columns statement values
        refine (Unrejecting.first s.session _).bind fun row => ?_
        cases row with
        | some row => exact .known (.error .returnedRows)
        | none => exact .look fun v => .pure _
      · cases fetch with
        | iterate body => cases whole
        | first =>
            refine RejectsLost.withBusy (.withConnection (.withEngine s values ?_)) idle failed
              rejection
            intro columns statement values
            refine (Unrejecting.first s.session _).bind fun row => ?_
            cases row with
            | none => exact .pure none
            | some values => exact .known _
        | all =>
            refine RejectsLost.withBusy (.withConnection (.withEngine s values ?_)) idle failed
              rejection
            exact fun columns statement values => .collect s.session _ _

theorem thrown_rejection {operation : Operation H E} (whole : operation.IsWhole)
    {w : World H E} {failure : Failure}
    (failed : ((operation.thrown C).run w).result = .error failure)
    (rejection : failure.isRejection = true) :
    operation.grounds (w.session operation.session) = .error failure ∧
      (operation.thrown C).run w = ⟨.error failure, [], w⟩ := by
  cases admitted : operation.admitted (w.session operation.session) with
  | error refusal =>
      have ran := thrown_of_refused (C := C) admitted
      rw [ran] at failed
      cases failed
      exact ⟨grounds_of_refused admitted, ran⟩
  | ok values =>
      have idle := (available_of_admitted admitted).2
      rw [thrown_of_admitted admitted] at failed ⊢
      obtain ⟨lost, refused, ran⟩ := engaged_rejection whole idle failed rejection
      rw [refused]
      refine ⟨grounds_of_lost admitted lost, ?_⟩
      rw [ran, refused]

/-- Without a connection an operation that was let in fails at once. -/
theorem perform_of_lost {operation : Operation H E} (whole : operation.IsWhole) {w : World H E}
    {values : List SqlValue}
    (admitted : operation.admitted (w.session operation.session) = .ok values)
    (lost : (w.session operation.session).connected = false) :
    (operation.perform C).run w = (.error (.refused .notOpen), w) := by
  have idle := (available_of_admitted admitted).2
  have performed : ∃ next : List SqlValue → Action H E operation.Result,
      (operation.perform C).Follows w (operation.admitted (w.session operation.session)) next ∧
        (next values).run w = (.error (.refused .notOpen), w) := by
    cases operation with
    | prepare id sql =>
        refine ⟨_, .require (.require (.refusing (.admitted _ _ _))), ?_⟩
        exact Session.withBusy_of_lost idle lost fun v => Session.withConnection_bind_of_lost
    | registerTable id name factory eponymous =>
        refine ⟨_, .require (.require (.require (.look (.refusing (.admitted _ _ _))))), ?_⟩
        exact Session.withBusy_of_lost idle lost fun v => Session.withConnection_bind_of_lost
    | execute call =>
        refine ⟨call.engaged C, call.perform_follows C w, ?_⟩
        rcases call with ⟨id, sql⟩ | ⟨s, params⟩ | ⟨s, params, fetch⟩
        · exact Session.withBusy_of_lost idle lost fun v lost => Session.withConnection_of_disconnected lost _
        · exact Session.withBusy_of_lost idle lost fun v lost => Session.withConnection_of_disconnected lost _
        · cases fetch with
          | iterate body => cases whole
          | first => exact Session.withBusy_of_lost idle lost fun v lost => Session.withConnection_of_disconnected lost _
          | all => exact Session.withBusy_of_lost idle lost fun v lost => Session.withConnection_of_disconnected lost _
  obtain ⟨next, follows, ran⟩ := performed
  unfold Action.Follows at follows
  rw [admitted] at follows
  exact follows.trans ran

/-- Whatever the callbacks are, grounds for turning an operation down turn it down at once. -/
theorem perform_of_grounds {operation : Operation H E} (whole : operation.IsWhole)
    {w : World H E} {failure : Failure}
    (grounded : operation.grounds (w.session operation.session) = .error failure) :
    (operation.perform C).run w = (.error failure, w) := by
  cases admitted : operation.admitted (w.session operation.session) with
  | error refusal =>
      rw [grounds_of_refused admitted] at grounded
      cases grounded
      exact perform_of_refused admitted
  | ok values =>
      cases lost : (w.session operation.session).connected with
      | false =>
          rw [grounds_of_lost admitted lost] at grounded
          cases grounded
          exact perform_of_lost whole admitted lost
      | true =>
          unfold grounds at grounded
          rw [admitted, lost] at grounded
          cases grounded

end Operation

end RowSource
