import RowSource.Proofs.Session.MirroredCalls

/-!
# Explaining a call of the engine

An operation asks the status why its call of the engine failed. What it is told is the failure of
the callback that the call met, if it met one. So an operation that keeps failures does what the one
that throws them does, in every world that it may find.
-/

namespace RowSource

variable {H : Host} {E : Engine} {C : Callbacks H E} {S α β γ : Type}

namespace World

theorem status_updateStatus {w : World H E} {id : Nat} (present : id < w.sessions.length)
    (f : Status → Status) : (w.updateStatus id f).status id = f (w.status id) := by
  unfold status updateStatus
  rw [session_updateSession, if_pos ⟨rfl, present⟩]

/-- A status may be looked at before it is changed. -/
theorem updateStatus_known (w : World H E) (id : Nat) (f : Status → Status) :
    w.updateStatus id (fun _ => f (w.status id)) = w.updateStatus id f := by
  have same : w.sessions.modify id (fun s => { s with status := f (w.status id) }) =
      w.sessions.modify id fun s => { s with status := f s.status } := by
    apply List.ext_getElem?
    intro other
    rw [List.getElem?_modify, List.getElem?_modify]
    by_cases here : id = other
    · subst here
      cases found : w.sessions[id]? with
      | none =>
          rfl
      | some s =>
          have known : w.status id = s.status := by
            rw [status, session, List.getD_eq_getElem?_getD, found, Option.getD_some]
          simp only [known]
          rfl
    · simp only [here, if_false]
  simp only [updateStatus, updateSession, same]

/-- Beginning a busy period leaves nothing behind. -/
theorem keeps_markBusy (w : World H E) (id : Nat) :
    w.Keeps (w.updateStatus id fun _ => { w.status id with isBusy := true }) := by
  rw [w.updateStatus_known id fun status => { status with isBusy := true }]
  exact w.keeps_updateStatus (f := fun status => { status with isBusy := true })
    (fun _ quiet => quiet) id

theorem updateStatus_updateStatus (w : World H E) (id : Nat) (f g : Status → Status) :
    (w.updateStatus id f).updateStatus id g = w.updateStatus id fun status => g (f status) := by
  simp only [updateStatus, updateSession, List.modify_modify_eq]
  rfl

end World

theorem Session.withBusy_of_idle {id : Nat} {w : World H E} (idle : (w.status id).isBusy = false)
    (action : Action H E α) :
    (withBusy id action).run w =
      let done := action.run (w.updateStatus id fun status => { status with isBusy := true })
      (done.1, done.2.updateStatus id Status.clearBusy) := by
  unfold withBusy Status.markBusy
  rw [ExceptT.run_mk, Worldly.get_bind_apply, idle,
    ← w.updateStatus_known id fun status => { status with isBusy := true }]
  rfl

theorem Status.discardStale_deferFailure (failure : Failure) :
    (fun status : Status => (status.deferFailure failure).discardStale) = discardStale := by
  funext status
  unfold deferFailure
  cases status.pending <;> rfl

/-- At most one demand was failed, and then that is the failure of the operation. -/
def Reported (found : List Failure) (result : Except Failure α) : Prop :=
  found = [] ∨ ∃ failure, found = [failure] ∧ result = .error failure

theorem Reported.error {found : List Failure} {failure : Failure}
    (reported : Reported found (.error failure : Except Failure α)) :
    Reported found (.error failure : Except Failure β) := by
  rcases reported with none | ⟨given, only, same⟩
  · exact .inl none
  · cases same
    exact .inr ⟨failure, only, rfl⟩

theorem Reported.ok {found : List Failure} {value : α}
    (reported : Reported found (.ok value)) : found = [] := by
  rcases reported with none | ⟨given, only, same⟩
  · exact none
  · cases same

/-- What the status explains to an operation. -/
theorem Mirrored.explained {id : Nat} {thrown : Except Trouble α} {found : List Failure}
    {w : World H E} {real : Except EngineFault α × World H E}
    (mirrored : Mirrored id thrown found w real) (ready : w.Ready id) :
    let noted := (Thrown.explaining id (ExceptT.mk (return thrown) : Calling H E α)).run w
    noted.Tidy w ∧ noted.events = [] ∧
      (Session.explaining id (return real.1) : Action H E α).run real.2 =
        (noted.result, noted.world) ∧
      Reported found noted.result := by
  cases mirrored with
  | ok value _ =>
      exact ⟨.of_pure _ w, rfl, rfl, .inl rfl⟩
  | engine fault _ =>
      have unexplained : ((w.status id).explain fault).1 =
          (Trouble.engine fault).failure (w.status id) := by
        unfold Status.explain Trouble.failure
        rw [ready.quiet]
      refine ⟨.of_keeps _ (w.keeps_updateStatus (fun _ _ => rfl) id), rfl, ?_, .inl rfl⟩
      change (Except.error ((w.status id).explain fault).1,
        w.updateStatus id fun _ => (w.status id).discardStale) = _
      rw [unexplained, World.updateStatus_known]
      rfl
  | callback failure fault _ =>
      have pending : (w.deferred id failure).status id =
          { w.status id with pending := some failure } := by
        rw [World.deferred, World.status_updateStatus ready.present, Status.deferFailure,
          ready.quiet]
      refine ⟨.of_keeps _ (w.keeps_updateStatus (fun _ _ => rfl) id), rfl, ?_,
        .inr ⟨failure, rfl, rfl⟩⟩
      change (Except.error (((w.deferred id failure).status id).explain fault).1,
        (w.deferred id failure).updateStatus id fun _ =>
          ((w.deferred id failure).status id).discardStale) = _
      rw [World.updateStatus_known _ id Status.discardStale, World.deferred,
        World.updateStatus_updateStatus, ← World.deferred, pending,
        Status.discardStale_deferFailure]
      rfl

/-- What an operation that keeps failures comes to in a world, beside what one that throws them
does: the same, and the failure of the one demand that was failed. -/
structure Settled (C : Callbacks H E) (w : World H E) (noted : Noted H E (Except Failure α))
    (kept : Except Failure α × World H E) : Prop where
  tidy : noted.Tidy w
  same : kept = (noted.result, noted.world)
  reported : Reported (failures C noted.events) noted.result

/-- An operation does so in all worlds of some kind. -/
def Settles (C : Callbacks H E) (kind : World H E → Prop) (operation : Operating H E α)
    (kept : Action H E α) : Prop :=
  ∀ w : World H E, kind w → Settled C w (operation.run w) (kept.run w)

def Lasting (kind : World H E → Prop) : Prop := ∀ w v : World H E, w.Keeps v → kind w → kind v

theorem lasting_ready (id : Nat) : Lasting (H := H) (E := E) fun w => w.Ready id :=
  fun _ _ keeps ready => keeps.ready ready

theorem lasting_present (id : Nat) :
    Lasting (H := H) (E := E) fun w => id < w.sessions.length :=
  fun _ _ keeps present => Nat.lt_of_lt_of_le present keeps.present

theorem World.present_of_open {w : World H E} {id : Nat} (opened : (w.status id).isOpen = true) :
    id < w.sessions.length := by
  rcases Nat.lt_or_ge id w.sessions.length with present | beyond
  · exact present
  · rw [World.status, World.session, List.getD_eq_getElem?_getD,
      List.getElem?_eq_none beyond] at opened
    cases opened

namespace Settles

variable {kind : World H E → Prop} {id : Nat}

/-- An operation without demands gives the account of none. -/
theorem plain {action : Action H E α} (calm : Calm action.run) :
    Settles C kind (Operating.plain action) action :=
  fun w _ => ⟨.of_keeps _ (calm w), rfl, .inl rfl⟩

theorem explaining {call : Calling H E α} {kept : Worldly H E (Except EngineFault α)}
    (mirrors : Mirrors C id call kept) :
    Settles C (fun w => w.Ready id) (Thrown.explaining id call) (Session.explaining id kept) := by
  intro w ready
  obtain ⟨tidy, mirrored⟩ := mirrors w ready
  obtain ⟨later, quiet, same, reported⟩ := mirrored.explained (tidy.keeps.ready ready)
  have ran : (Thrown.explaining id call).run w =
      (call.run w).andThen ((Thrown.explaining id
        (ExceptT.mk (return (call.run w).result) : Calling H E α)).run (call.run w).world) := rfl
  have keptRan : (Session.explaining id kept).run w =
      (Session.explaining id (return (kept w).1) : Action H E α).run (kept w).2 := rfl
  change Settled C w _ _
  rw [ran, keptRan]
  refine ⟨tidy.andThen later, same, ?_⟩
  simp only [Noted.andThen, quiet, List.append_nil]
  exact reported

theorem bind {operation : Operating H E α} {kept : Action H E α} {next : α → Operating H E β}
    {rest : α → Action H E β} (lasting : Lasting kind) (first : Settles C kind operation kept)
    (second : ∀ value, Settles C kind (next value) (rest value)) :
    Settles C kind (operation >>= next) (kept >>= rest) := by
  intro w given
  obtain ⟨tidy, same, reported⟩ := first w given
  rw [Noting.bind_run, Action.bind_run, same]
  generalize operation.run w = begun at tidy reported ⊢
  obtain ⟨result, events, world⟩ := begun
  cases result with
  | error failure =>
      refine ⟨tidy.andThen (.of_pure _ world), rfl, ?_⟩
      change Reported (failures C (events ++ [])) (.error failure)
      rw [List.append_nil]
      exact reported.error
  | ok value =>
      obtain ⟨later, same, laterReported⟩ := second value world (lasting _ _ tidy.keeps given)
      refine ⟨tidy.andThen later, same, ?_⟩
      simp only [Noted.andThen, failures_append, reported.ok, List.nil_append]
      exact laterReported

/-- What host code has no part in happens on both sides. -/
theorem silent {action : Worldly H E γ} {next : γ → Operating H E α} {rest : γ → Action H E α}
    (lasting : Lasting kind) (calm : Calm action)
    (later : ∀ value, Settles C kind (next value) (rest value)) :
    Settles C kind (liftM action >>= next) (liftM action >>= rest) := by
  intro w given
  have keeps := calm w
  obtain ⟨tidy, same, reported⟩ := later (action w).1 (action w).2 (lasting _ _ keeps given)
  exact ⟨(Noted.Tidy.of_keeps () keeps).andThen tidy, same, reported⟩

theorem look {next : World H E → Operating H E α} {rest : World H E → Action H E α}
    (later : ∀ w, Settles C kind (next w) (rest w)) :
    Settles C kind (get >>= next) (get >>= rest) :=
  fun w given => later w w given

/-- A refusal may stand before what else an operation does. -/
theorem refusing {refuses : Prop} [Decidable refuses]
    {failure : Failure} {next : Unit → Operating H E α} {rest : Unit → Action H E α}
    (settles : Settles C kind (next ()) (rest ())) :
    Settles C kind (if refuses then MonadExcept.throw failure >>= next else next ())
      (if refuses then MonadExcept.throw failure >>= rest else rest ()) := by
  by_cases refused : refuses
  · rw [if_pos refused, if_pos refused]
    exact fun w _ => ⟨.of_pure _ w, rfl, .inl rfl⟩
  · rw [if_neg refused, if_neg refused]
    exact settles

/-- What an operation does once it has found its session open. -/
theorem opened {next : Unit → Operating H E α} {rest : Unit → Action H E α}
    (settles : Settles C (fun w => id < w.sessions.length) (next ()) (rest ())) :
    Settles C (fun _ => True) (Operating.plain (Session.require id Status.requireOpen) >>= next)
      (Session.require id Status.requireOpen >>= rest) := by
  intro w _
  have checked : (Operating.plain (Session.require id Status.requireOpen) :
      Operating H E Unit).run w = ⟨(w.status id).requireOpen, [], w⟩ := by
    unfold Operating.plain
    rw [ExceptT.run_mk, Noting.lift_apply, Session.require_run]
  rw [Noting.bind_run, Action.bind_run, checked, Session.require_run]
  unfold Status.requireOpen
  cases opened : (w.status id).isOpen with
  | false =>
      exact ⟨.of_pure _ w, rfl, .inl rfl⟩
  | true =>
      exact settles w (World.present_of_open opened)

/-! ### Periods -/

/-- A change before an operation and one after it are made on both sides. -/
theorem within {operation : Operating H E α} {kept : Action H E α}
    {enter leave : World H E → World H E} {w : World H E} (enters : w.Keeps (enter w))
    (leaves : ∀ v : World H E, v.Keeps (leave v))
    (inner : Settled C (enter w) (operation.run (enter w)) (kept.run (enter w))) :
    Settled C w
      ((do
        modify enter
        let result ← operation.run
        modify leave
        return result : Noting H E (Except Failure α)) w)
      ((do
        modify enter
        let result ← kept.run
        modify leave
        return result : Worldly H E (Except Failure α)) w) := by
  obtain ⟨tidy, same, reported⟩ := inner
  simp only [Noting.bind_apply, Noting.modify_apply, Noting.pure_apply, Worldly.bind_apply,
    Worldly.modify_apply, Worldly.pure_apply]
  rw [same]
  generalize operation.run (enter w) = done at tidy reported ⊢
  refine ⟨(Noted.Tidy.of_keeps () enters).andThen
    (tidy.andThen (.of_keeps _ (leaves done.world))), rfl, ?_⟩
  simp only [Noted.andThen, List.nil_append, List.append_nil]
  exact reported

theorem withBusy {operation : Operating H E α} {kept : Action H E α} (lasting : Lasting kind)
    (settles : Settles C kind operation kept) :
    Settles C kind (Thrown.withBusy id operation) (Session.withBusy id kept) := by
  intro w given
  unfold Thrown.withBusy Session.withBusy
  rw [ExceptT.run_mk, ExceptT.run_mk, Noting.get_bind_apply, Worldly.get_bind_apply]
  unfold Status.markBusy
  cases (w.status id).isBusy with
  | true =>
      exact ⟨.of_pure _ w, rfl, .inl rfl⟩
  | false =>
      have enters := w.keeps_markBusy id
      exact within enters
        (fun v => v.keeps_updateStatus (f := Status.clearBusy) (fun _ quiet => quiet) id)
        (settles _ (lasting _ _ enters given))

theorem withIteration {operation : Operating H E α} {kept : Action H E α} (lasting : Lasting kind)
    (settles : Settles C kind operation kept) :
    Settles C kind (Thrown.withIteration id operation) (Session.withIteration id kept) := by
  intro w given
  have enters : w.Keeps (w.updateStatus id Status.enterIteration) :=
    w.keeps_updateStatus (f := Status.enterIteration) (fun _ quiet => quiet) id
  exact within enters
    (fun v => v.keeps_updateStatus (f := Status.exitIteration) (fun _ quiet => quiet) id)
    (settles _ (lasting _ _ enters given))

/-- Whatever was left behind is forgotten before the connection is used. -/
theorem borrowing {operation : Operating H E α} {kept : Action H E α}
    (settles : Settles C (fun w => w.Ready id) operation kept) :
    Settles C (fun w => id < w.sessions.length) (Thrown.borrowing id operation)
      (Session.borrowing id kept) := by
  intro w present
  have ran : (Thrown.borrowing id operation).run w =
      (if !(w.session id).connected then return .error (.refused .notOpen)
      else do
        modify fun w => (w.updateSession id fun s => { s with borrowers := s.borrowers + 1 }
          ).updateStatus id Status.discardStale
        let result ← operation.run
        modify (World.updateSession id fun s => { s with borrowers := s.borrowers - 1 })
        return result : Noting H E (Except Failure α)) w := rfl
  have keptRan : (Session.borrowing id kept).run w =
      (if !(w.session id).connected then return .error (.refused .notOpen)
      else do
        modify fun w => (w.updateSession id fun s => { s with borrowers := s.borrowers + 1 }
          ).updateStatus id Status.discardStale
        let result ← kept.run
        modify (World.updateSession id fun s => { s with borrowers := s.borrowers - 1 })
        return result : Worldly H E (Except Failure α)) w := rfl
  rw [ran, keptRan]
  cases (w.session id).connected with
  | false =>
      exact ⟨.of_pure _ w, rfl, .inl rfl⟩
  | true =>
      have borrowed : w.Keeps
          (w.updateSession id fun s => { s with borrowers := s.borrowers + 1 }) :=
        w.keeps_updateSession (f := fun s => { s with borrowers := s.borrowers + 1 })
          (fun _ quiet => quiet) id
      have forgotten := (w.updateSession id fun s => { s with borrowers := s.borrowers + 1 }
        ).keeps_updateStatus (f := Status.discardStale) (fun _ _ => rfl) id
      have enters := borrowed.trans forgotten
      have quiet : (((w.updateSession id fun s => { s with borrowers := s.borrowers + 1 }
          ).updateStatus id Status.discardStale).status id).pending = none := by
        rw [World.status_updateStatus (lasting_present id _ _ borrowed present)]
        rfl
      have ready := settles _ ⟨lasting_present id _ _ enters present, quiet⟩
      exact within enters (fun v => v.keeps_updateSession
        (f := fun s => { s with borrowers := s.borrowers - 1 }) (fun _ quiet => quiet) id) ready

theorem withConnection {call : Calling H E α} {kept : Worldly H E (Except EngineFault α)}
    (mirrors : Mirrors C id call kept) :
    Settles C (fun w => id < w.sessions.length) (Thrown.withConnection id call)
      (Session.withConnection id kept) :=
  borrowing (explaining mirrors)

end Settles

end RowSource
