import RowSource.Proofs.Session.Mirror

/-!
# Programs and calls of the engine, mirrored

Running a program is by induction on it: at each demand the two sides are in the same world, or the
demand has failed and both are at their end. All calls of the engine are made of such runs.
-/

namespace RowSource

variable {H : Host} {E : Engine} {C : Callbacks H E} {S α β γ : Type}

theorem World.updateSession_comm {f g : Session H → Session H} (commute : ∀ s, g (f s) = f (g s))
    (id : Nat) (w : World H E) :
    (w.updateSession id f).updateSession id g = (w.updateSession id g).updateSession id f := by
  have same : g ∘ f = f ∘ g := funext commute
  simp only [World.updateSession, List.modify_modify_eq, same]

theorem World.updateStatus_comm {f g : Status → Status} (commute : ∀ s, g (f s) = f (g s))
    (id : Nat) (w : World H E) :
    (w.updateStatus id f).updateStatus id g = (w.updateStatus id g).updateStatus id f :=
  updateSession_comm (fun s => by rw [commute]) id w

theorem Status.exitIteration_deferFailure (status : Status) (failure : Failure) :
    (status.deferFailure failure).exitIteration = status.exitIteration.deferFailure failure := by
  cases pending : status.pending with
  | none => simp [deferFailure, exitIteration, pending]
  | some earlier => simp [deferFailure, exitIteration, pending]

/-- Closing scans has nothing to do with a pending failure. -/
theorem Callbacks.closeScans_deferred (id : Nat) (scans : Scans H) (failure : Failure)
    (w : World H E) :
    (closeScans id scans : Worldly H E Unit) (w.deferred id failure) =
      ((), ((closeScans id scans : Worldly H E Unit) w).2.deferred id failure) := by
  induction scans generalizing w with
  | nil =>
      rfl
  | cons scan rest closed =>
      change closeScans id rest ((w.deferred id failure).updateStatus id Status.exitIteration) =
        ((), ((closeScans id rest (w.updateStatus id Status.exitIteration)).2).deferred id failure)
      rw [World.deferred, World.updateStatus_comm
        (fun status => status.exitIteration_deferFailure failure), ← World.deferred]
      exact closed _

namespace Callbacks

def Outcome.settled : Outcome S α β → Except EngineFault (S × α ⊕ β)
  | .ended state (.ok value) => .ok (.inl (state, value))
  | .ended _ (.error fault) => .error fault
  | .left exit => .ok (.inr exit)

end Callbacks

/-- Both sides do the same, and no demand is failed. -/
def Agrees (C : Callbacks H E) (id : Nat) (action : Noting H E α) (kept : Worldly H E α) : Prop :=
  ∀ w : World H E, w.Ready id →
    (action w).Tidy w ∧ failures C (action w).events = [] ∧
      kept w = ((action w).result, (action w).world)

namespace Agrees

variable {id : Nat}

theorem pure (value : α) :
    Agrees C id (Pure.pure value) (Pure.pure value) :=
  fun w _ => ⟨.of_pure _ w, rfl, rfl⟩

theorem bind {action : Noting H E α} {kept : Worldly H E α} {next : α → Noting H E β}
    {rest : α → Worldly H E β} (first : Agrees C id action kept)
    (second : ∀ value, Agrees C id (next value) (rest value)) :
    Agrees C id (action >>= next) (kept >>= rest) := by
  intro w ready
  obtain ⟨tidy, quiet, same⟩ := first w ready
  obtain ⟨later, laterQuiet, laterSame⟩ :=
    second (action w).result (action w).world (tidy.keeps.ready ready)
  rw [Noting.bind_apply, Worldly.bind_apply, same]
  refine ⟨tidy.andThen later, ?_, laterSame⟩
  simp only [Noted.andThen, failures_append, quiet, laterQuiet, List.append_nil]

theorem silent {action : Worldly H E γ} {next : γ → Noting H E α} {rest : γ → Worldly H E α}
    (calm : Calm action) (later : ∀ value, Agrees C id (next value) (rest value)) :
    Agrees C id (liftM action >>= next) (action >>= rest) :=
  bind (fun w _ => ⟨.of_keeps _ (calm w), rfl, rfl⟩) later

theorem hand {next : Noting H E α} {rest : Worldly H E α} (later : Agrees C id next rest) :
    Agrees C id (Noting.note .handed >>= fun _ => next) rest := by
  intro w ready
  obtain ⟨tidy, quiet, same⟩ := later w ready
  have handed : Noted.Tidy ⟨(), [.handed w], w⟩ w := .of_event (.refl w)
  exact ⟨handed.andThen tidy, quiet, same⟩

end Agrees

section Programs

variable {id : Nat} {offer : S → List SqlValue → Noting H E (S ⊕ β)}
  {keptOffer : S → List SqlValue → Worldly H E (S ⊕ β)}

theorem Thrown.drive_finish (state : S) (scans : Callbacks.Scans H)
    (result : Except EngineFault α) (store : E.Store) (w : World H E) :
    Thrown.drive C id offer state scans (.finish result store) w =
      ⟨((result.map fun value => .inl (state, value)).mapError .engine, scans), [],
        w.updateStore fun _ => store⟩ := by
  rw [Thrown.drive]
  rfl

theorem Thrown.drive_ask (state : S) (scans : Callbacks.Scans H) (demand : Demand)
    (store : E.Store) (abandon : E.Store → E.Store)
    (resume : demand.Reply → E.Store → Program E.Store α) (w : World H E) :
    Thrown.drive C id offer state scans (.ask demand store abandon resume) w =
      Noted.andThen ⟨(), [.asked id scans demand (w.updateStore fun _ => store)],
          w.updateStore fun _ => store⟩
        (match C.serve id scans demand (w.updateStore fun _ => store) with
        | ((.ok reply, scans), served) =>
            Thrown.drive C id offer state scans (resume reply served.store) served
        | ((.error failure, scans), served) =>
            ⟨(.error (.callback failure), scans), [], served.updateStore abandon⟩) := by
  rw [Thrown.drive]
  simp only [Noting.bind_apply, Noting.lift_apply, Noting.modify_apply, Noting.note_apply]
  cases C.serve id scans demand (w.updateStore fun _ => store) with
  | mk answer served =>
      obtain ⟨reply, scans⟩ := answer
      cases reply with
      | ok reply =>
          rfl
      | error failure =>
          rfl

theorem Thrown.drive_row (state : S) (scans : Callbacks.Scans H) (values : List SqlValue)
    (store : E.Store) (abandon : E.Store → E.Store) (resume : E.Store → Program E.Store α)
    (w : World H E) :
    Thrown.drive C id offer state scans (.row values store abandon resume) w =
      (offer state values (w.updateStore fun _ => store)).andThen
        (match offer state values (w.updateStore fun _ => store) with
        | ⟨.inl state, _, offered⟩ =>
            Thrown.drive C id offer state scans (resume offered.store) offered
        | ⟨.inr exit, _, offered⟩ =>
            ⟨(.ok (.inr exit), scans), [], offered.updateStore abandon⟩) := by
  rw [Thrown.drive]
  simp only [Noting.bind_apply, Noting.modify_apply]
  cases offer state values (w.updateStore fun _ => store) with
  | mk result events world =>
      cases result with
      | inl state =>
          rfl
      | inr exit =>
          rfl

theorem Callbacks.drive_ask (state : S) (scans : Callbacks.Scans H) (demand : Demand)
    (store : E.Store) (abandon : E.Store → E.Store)
    (resume : demand.Reply → E.Store → Program E.Store α) (w : World H E) :
    C.drive id keptOffer state scans (.ask demand store abandon resume) w =
      match C.serve id scans demand (w.updateStore fun _ => store) with
      | ((.ok reply, scans), served) =>
          C.drive id keptOffer state scans (resume reply served.store) served
      | ((.error failure, scans), served) =>
          ((.ended state (.error (.failed 1 (some failure.message))), scans),
            (served.updateStore abandon).deferred id failure) := by
  rw [Callbacks.drive]
  simp only [Worldly.bind_apply, Worldly.modify_apply]
  cases C.serve id scans demand (w.updateStore fun _ => store) with
  | mk answer served =>
      obtain ⟨reply, scans⟩ := answer
      cases reply with
      | ok reply =>
          rfl
      | error failure =>
          rfl

theorem Callbacks.drive_row (state : S) (scans : Callbacks.Scans H) (values : List SqlValue)
    (store : E.Store) (abandon : E.Store → E.Store) (resume : E.Store → Program E.Store α)
    (w : World H E) :
    C.drive id keptOffer state scans (.row values store abandon resume) w =
      match keptOffer state values (w.updateStore fun _ => store) with
      | (.inl state, offered) =>
          C.drive id keptOffer state scans (resume offered.store) offered
      | (.inr exit, offered) => ((.left exit, scans), offered.updateStore abandon) := by
  rw [Callbacks.drive]
  simp only [Worldly.bind_apply, Worldly.modify_apply]
  cases keptOffer state values (w.updateStore fun _ => store) with
  | mk answer offered =>
      cases answer with
      | inl state =>
          rfl
      | inr exit =>
          rfl

/-- Running a program keeps what running it with failures thrown throws. -/
theorem Thrown.drive_mirrors (calm : C.Calm)
    (offers : ∀ state values, Agrees C id (offer state values) (keptOffer state values))
    (program : Program E.Store α) (state : S) (scans : Callbacks.Scans H) (w : World H E)
    (ready : w.Ready id) :
    let noted := Thrown.drive C id offer state scans program w
    let kept := C.drive id keptOffer state scans program w
    noted.Tidy w ∧ kept.1.2 = noted.result.2 ∧
      Mirrored id noted.result.1 (failures C noted.events) noted.world
        (kept.1.1.settled, kept.2) := by
  -- The status stays quiet from one demand or row to the next, until a demand is failed. Both sides
  -- are at their end then.
  induction program generalizing state scans w with
  | finish result store =>
      rw [Thrown.drive_finish]
      have stored : w.Keeps (w.updateStore fun _ => store) := w.keeps_updateStore _
      cases result with
      | ok value =>
          exact ⟨.of_keeps _ stored, rfl, .ok _ _⟩
      | error fault =>
          exact ⟨.of_keeps _ stored, rfl, .engine fault _⟩
  | ask demand store abandon resume resumed =>
      rw [Thrown.drive_ask, Callbacks.drive_ask]
      have stored : w.Keeps (w.updateStore fun _ => store) := w.keeps_updateStore _
      have asked : Noted.Tidy ⟨(), [.asked id scans demand (w.updateStore fun _ => store)],
          w.updateStore fun _ => store⟩ w := .of_event stored
      have serving := calm.serve id scans demand (w.updateStore fun _ => store)
      rcases answered : C.serve id scans demand (w.updateStore fun _ => store) with
        ⟨⟨reply, left⟩, served⟩
      rw [answered] at serving
      cases reply with
      | ok reply =>
          obtain ⟨tidy, scansLeft, mirrored⟩ :=
            resumed reply served.store state left served (serving.ready (stored.ready ready))
          refine ⟨asked.andThen ((Noted.Tidy.of_keeps () serving).andThen tidy), scansLeft, ?_⟩
          simp only [Noted.andThen, failures_append]
          rw [failures_asked_ok (congrArg (·.1.1) answered)]
          exact mirrored
      | error failure =>
          have left := serving.trans (served.keeps_updateStore abandon)
          refine ⟨asked.andThen (.of_keeps _ left), rfl, ?_⟩
          simp only [Noted.andThen, List.append_nil]
          rw [failures_asked_error (congrArg (·.1.1) answered)]
          exact .callback failure _ _
  | row values store abandon resume resumed =>
      rw [Thrown.drive_row, Callbacks.drive_row]
      have stored : w.Keeps (w.updateStore fun _ => store) := w.keeps_updateStore _
      obtain ⟨tidy, quiet, same⟩ :=
        offers state values (w.updateStore fun _ => store) (stored.ready ready)
      rw [same]
      generalize offer state values (w.updateStore fun _ => store) = offered at tidy quiet ⊢
      obtain ⟨result, events, world⟩ := offered
      have begun := Noted.Tidy.of_keeps () stored
      cases result with
      | inl state =>
          obtain ⟨later, scansLeft, mirrored⟩ :=
            resumed world.store state scans world (tidy.keeps.ready (stored.ready ready))
          refine ⟨begun.andThen (tidy.andThen later), scansLeft, ?_⟩
          simp only [Noted.andThen, failures_append]
          rw [quiet]
          exact mirrored
      | inr exit =>
          have left := world.keeps_updateStore abandon
          refine ⟨begun.andThen (tidy.andThen (.of_keeps _ left)), rfl, ?_⟩
          simp only [Noted.andThen, failures_append]
          rw [quiet]
          exact .ok _ _

end Programs

theorem Mirrored.closeScans {id : Nat} {thrown : Except Trouble α} {found : List Failure}
    {w : World H E} {real : Except EngineFault α × World H E}
    (mirrored : Mirrored id thrown found w real) (scans : Callbacks.Scans H) :
    Mirrored id thrown found (Callbacks.closeScans id scans w).2
      (real.1, (Callbacks.closeScans id scans real.2).2) := by
  cases mirrored with
  | ok value _ =>
      exact .ok value _
  | engine fault _ =>
      exact .engine fault _
  | callback failure fault _ =>
      rw [Callbacks.closeScans_deferred]
      exact .callback failure fault _

namespace Mirrors

section Calls

variable {id : Nat} {offer : S → List SqlValue → Noting H E (S ⊕ β)}
  {keptOffer : S → List SqlValue → Worldly H E (S ⊕ β)}

theorem run (calm : C.Calm)
    (offers : ∀ state values, Agrees C id (offer state values) (keptOffer state values))
    (state : S) (routine : Routine E.Store α) :
    Mirrors C id (Thrown.run C id offer state routine)
      (do return (← C.run id keptOffer state routine).settled) := by
  intro w ready
  obtain ⟨tidy, scansLeft, mirrored⟩ :=
    Thrown.drive_mirrors calm offers (routine w.store) state [] w ready
  have ran : (Thrown.run C id offer state routine).run w =
      (let driven := Thrown.drive C id offer state [] (routine w.store) w
       driven.andThen
        ⟨driven.result.1, [], (Callbacks.closeScans id driven.result.2 driven.world).2⟩) := rfl
  have keptRan : (do return (← C.run id keptOffer state routine).settled :
        Worldly H E (Except EngineFault (S × α ⊕ β))) w =
      (let driven := C.drive id keptOffer state [] (routine w.store) w
       (driven.1.1.settled, (Callbacks.closeScans id driven.1.2 driven.2).2)) := rfl
  rw [ran, keptRan]
  dsimp only
  rw [scansLeft]
  have closing := Callbacks.closeScans_calm (E := E) id
    (Thrown.drive C id offer state [] (routine w.store) w).result.2
    (Thrown.drive C id offer state [] (routine w.store) w).world
  refine ⟨tidy.andThen (.of_keeps _ closing), ?_⟩
  simp only [Noted.andThen, List.append_nil]
  exact mirrored.closeScans _

/-- What is made of the end of a program: a fault stays one. -/
theorem run_bind (calm : C.Calm)
    (offers : ∀ state values, Agrees C id (offer state values) (keptOffer state values))
    (state : S) (routine : Routine E.Store α) {next : S × α ⊕ β → Calling H E γ}
    {rest : Callbacks.Outcome S α β → Worldly H E (Except EngineFault γ)}
    (halts : ∀ state fault w, rest (.ended state (.error fault)) w = (.error fault, w))
    (ended : ∀ state value,
      Mirrors C id (next (.inl (state, value))) (rest (.ended state (.ok value))))
    (left : ∀ exit, Mirrors C id (next (.inr exit)) (rest (.left exit))) :
    Mirrors C id (Thrown.run C id offer state routine >>= next)
      (C.run id keptOffer state routine >>= rest) := by
  let settledRest : Except EngineFault (S × α ⊕ β) → Worldly H E (Except EngineFault γ)
    | .error fault => Pure.pure (.error fault)
    | .ok (.inl (state, value)) => rest (.ended state (.ok value))
    | .ok (.inr exit) => rest (.left exit)
  have mirrors : Mirrors C id (Thrown.run C id offer state routine >>= next)
      ((do return (← C.run id keptOffer state routine).settled) >>= settledRest) := by
    have halted (fault : EngineFault) (w : World H E) :
        settledRest (.error fault) w = (.error fault, w) := rfl
    refine (run calm offers state routine).bind halted fun value => ?_
    obtain ⟨state, value⟩ | exit := value
    · exact ended state value
    · exact left exit
  have same : C.run id keptOffer state routine >>= rest =
      (do return (← C.run id keptOffer state routine).settled) >>= settledRest := by
    funext w
    rw [Worldly.bind_apply, Worldly.bind_apply, Worldly.bind_apply]
    generalize C.run id keptOffer state routine w = ended
    obtain ⟨outcome, after⟩ := ended
    cases outcome with
    | ended state result =>
        cases result with
        | error fault =>
            exact halts state fault after
        | ok value =>
            rfl
    | left exit =>
        rfl
  rw [same]
  exact mirrors

theorem map {call : Calling H E α} {kept : Worldly H E (Except EngineFault α)}
    (mirrors : Mirrors C id call kept) (f : α → β) :
    Mirrors C id (do return f (← call)) (do return (← kept).map f) := by
  have halts (fault : EngineFault) (w : World H E) :
      (return (Except.error fault).map f : Worldly H E (Except EngineFault β)) w =
        (.error fault, w) := rfl
  exact mirrors.bind halts fun value => pure (f value)

theorem settle (calm : C.Calm) (routine : Routine E.Store α) :
    Mirrors C id (Thrown.settle C id routine) (C.settle id routine) := by
  have offers (state : Unit) (values : List SqlValue) :
      Agrees C id (return (.inl () : Unit ⊕ Empty)) (return .inl ()) :=
    .pure _
  exact run_bind calm offers () routine (fun _ _ _ => rfl) (fun _ value => pure value)
    (fun impossible => nomatch impossible)

theorem first (calm : C.Calm) (routine : Routine E.Store α) :
    Mirrors C id (Thrown.first C id routine) (C.first id routine) := by
  have offers (state : Unit) (values : List SqlValue) :
      Agrees C id (return (.inr values : Unit ⊕ List SqlValue))
        (return .inr values) :=
    .pure _
  exact run_bind calm offers () routine (fun _ _ _ => rfl) (fun _ _ => pure none)
    (fun values => pure (some values))

theorem collect (calm : C.Calm) (read : List SqlValue → Except EngineFault β)
    (routine : Routine E.Store α) :
    Mirrors C id (Thrown.collect C id read routine) (C.collect id read routine) := by
  apply run_bind calm
  · intro rows values
    cases read values with
    | ok row =>
        exact .pure _
    | error fault =>
        exact .pure _
  · exact fun _ _ _ => rfl
  · exact fun rows _ => pure rows.reverse
  · exact fun fault => known (.error fault)

theorem hold (calm : C.Calm) (text : String) :
    Mirrors C id (Thrown.hold C id text) (C.hold id text) := by
  apply look
  intro w
  cases (w.session id).kept? text with
  | some info =>
      have takes (w : World H E) : w.Keeps (w.updateSession id (Session.takeOut text)) :=
        w.keeps_updateSession (f := Session.takeOut text) (fun _ quiet => quiet) id
      exact change takes (pure _)
  | none =>
      exact (settle calm _).bind (fun _ _ => rfl) fun statement => pure _

theorem refresh_calm (info : StatementInfo) :
    Calm (Callbacks.refresh id info : Worldly H E Bool) := by
  apply Calm.get_bind
  intro w
  split
  · exact Calm.bind (Calm.updateStore _) fun _ => .pure _
  · exact .pure _

theorem renew (calm : C.Calm) (text : String) (held : HeldStatement E) :
    Mirrors C id (Thrown.renew C id text held) (C.renew id text held) := by
  apply silent (refresh_calm held.info)
  intro isOutdated
  cases held.compiled with
  | none =>
      exact (settle calm _).withoutPlace
  | some statement =>
      cases isOutdated with
      | false =>
          exact pure statement
      | true =>
          exact (settle calm _).withoutPlace

theorem renewed (calm : C.Calm) (text : String) (statement : E.Statement) :
    Mirrors C id (Thrown.renewed C id text statement)
      (Session.batch.renewed C id text statement) := by
  apply silent (refresh_calm (E.info statement))
  intro isOutdated
  cases isOutdated with
  | false =>
      exact pure statement
  | true =>
      have compiled : Mirrors C id _ (do return (← C.settle id (E.compile id text)).map (·.1)) :=
        (settle calm (E.compile id text)).map (·.1)
      exact compiled.withoutPlace

theorem batch (calm : C.Calm) (fuel : Nat) (text : String) :
    Mirrors C id (Thrown.batch C id fuel text) (Session.batch C id fuel text) := by
  induction fuel generalizing text with
  | zero =>
      exact pure ()
  | succ fuel rest =>
      unfold Thrown.batch Session.batch
      split
      · exact pure ()
      · refine (settle calm _).bind (fun _ _ => rfl) fun compiled => ?_
        obtain ⟨statement, remaining⟩ := compiled
        dsimp only
        split
        · exact rest remaining
        · refine (renewed calm text statement).bind (fun _ _ => rfl) fun statement => ?_
          refine (first calm _).bind (fun _ _ => rfl) fun _ => ?_
          exact rest remaining

end Calls

end Mirrors

/-- Giving a statement back has nothing to do with a pending failure. -/
theorem World.keep_deferred (id : Nat) (text : String) (info : StatementInfo) (failure : Failure)
    (w : World H E) :
    (w.deferred id failure).updateSession id (Session.keep text info) =
      (w.updateSession id (Session.keep text info)).deferred id failure := by
  apply World.updateSession_comm
  intro s
  unfold Session.keep
  split
  · rfl
  · rfl

theorem Calm.keep (id : Nat) (text : String) (info : StatementInfo) :
    Calm (modify (World.updateSession id (Session.keep text info)) : Worldly H E Unit) := by
  apply Calm.updateSession
  intro s quiet
  unfold Session.keep
  split
  · exact quiet
  · exact quiet

theorem Mirrored.keep {id : Nat} {thrown : Except Trouble α} {found : List Failure}
    {w : World H E} {real : Except EngineFault α × World H E}
    (mirrored : Mirrored id thrown found w real) (text : String) (info : StatementInfo) :
    Mirrored id thrown found (w.updateSession id (Session.keep text info))
      (real.1, real.2.updateSession id (Session.keep text info)) := by
  cases mirrored with
  | ok value _ =>
      exact .ok value _
  | engine fault _ =>
      exact .engine fault _
  | callback failure fault _ =>
      rw [World.keep_deferred]
      exact .callback failure fault _

namespace Mirrors

section Engine

variable {s : Statement}

theorem stepped (calm : C.Calm) (values : List SqlValue)
    {use : List String → E.Statement → List SqlValue → Calling H E α}
    {keptUse : List String → E.Statement → List SqlValue → Worldly H E (Except EngineFault α)}
    (uses : ∀ columns statement values,
      Mirrors C s.session (use columns statement values) (keptUse columns statement values))
    (held : HeldStatement E) (w : World H E) (ready : w.Ready s.session) :
    let noted := Thrown.stepped C s values use held w
    let kept := Statement.withEngine.stepped C s values keptUse held w
    noted.Tidy w ∧ kept.1.1 = noted.result.1 ∧
      Mirrored s.session noted.result.2 (failures C noted.events) noted.world
        (kept.1.2, kept.2) := by
  unfold Thrown.stepped Statement.withEngine.stepped
  cases held.info.bind values with
  | error fault =>
      exact ⟨.of_pure _ w, rfl, .engine fault w⟩
  | ok values =>
      obtain ⟨tidy, mirrored⟩ := renew calm s.text held w ready
      simp only [Noting.bind_apply, Worldly.bind_apply]
      generalize (Thrown.renew C s.session s.text held).run w = begun at tidy mirrored ⊢
      generalize C.renew s.session s.text held w = real at mirrored ⊢
      obtain ⟨result, events, world⟩ := begun
      simp only [Noted.andThen, failures_append] at tidy mirrored ⊢
      generalize failures C events = found at mirrored ⊢
      cases mirrored with
      | ok statement _ =>
          obtain ⟨later, mirrored⟩ :=
            uses held.info.columns statement values world (tidy.keeps.ready ready)
          refine ⟨tidy.andThen (later.andThen (.of_pure _ _)), rfl, ?_⟩
          simp only [Noting.bind_apply, Noting.pure_apply, Worldly.bind_apply, Worldly.pure_apply,
            Noted.andThen, List.append_nil, List.nil_append]
          exact mirrored
      | engine fault _ =>
          exact ⟨tidy.andThen (.of_pure _ world), rfl, .engine fault world⟩
      | callback failure fault _ =>
          exact ⟨tidy.andThen (.of_pure _ world), rfl, .callback failure fault world⟩

theorem withEngine (calm : C.Calm) (values : List SqlValue)
    {use : List String → E.Statement → List SqlValue → Calling H E α}
    {keptUse : List String → E.Statement → List SqlValue → Worldly H E (Except EngineFault α)}
    (uses : ∀ columns statement values,
      Mirrors C s.session (use columns statement values) (keptUse columns statement values)) :
    Mirrors C s.session (Thrown.withEngine C s values use) (s.withEngine C values keptUse) := by
  refine (hold calm s.text).bind (fun _ _ => rfl) fun held w ready => ?_
  obtain ⟨tidy, infos, mirrored⟩ := stepped calm values uses held w ready
  dsimp only
  rw [ExceptT.run_mk, Noting.bind_apply, Worldly.bind_apply]
  generalize Thrown.stepped C s values use held w = done at tidy infos mirrored ⊢
  generalize Statement.withEngine.stepped C s values keptUse held w = kept at infos mirrored ⊢
  obtain ⟨⟨info, result⟩, events, world⟩ := done
  obtain ⟨⟨keptInfo, keptResult⟩, after⟩ := kept
  cases infos
  refine ⟨tidy.andThen (.of_keeps _ (Calm.keep s.session s.text info world)), ?_⟩
  have given := mirrored.keep s.text info
  rw [← List.append_nil events] at given
  exact given

end Engine

end Mirrors

end RowSource
