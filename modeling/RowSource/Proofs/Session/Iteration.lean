import RowSource.Proofs.Session.Explained

/-!
# Iterations

An iteration keeps the program of its statement from row to row, and host code runs in between with
every operation at its command. The status is explained at the end of the rows only, so it has to be
quiet whenever host code gives the program back.
-/

namespace RowSource

variable {H : Host} {E : Engine} {C : Callbacks H E} {S α β γ : Type}

namespace Statement

theorem beginStep_calm (id : Nat) : Calm (beginStep id : Worldly H E (Except Failure Unit)) := by
  intro w
  unfold beginStep
  rw [Worldly.get_bind_apply]
  cases (w.status id).requireOpen with
  | error failure =>
      exact .refl w
  | ok opened =>
      dsimp only
      rw [Worldly.get_bind_apply]
      unfold Status.markBusy
      cases (w.status id).isBusy with
      | true =>
          exact .refl w
      | false =>
          exact w.keeps_markBusy id

/-- Handing a row over is no demand, and host code finds nothing pending. -/
theorem handOver_agrees {s : Statement} {body : Row → Action H E Bool}
    (calm : ∀ row, Calm (body row).run) (columns : List String) (values : List SqlValue) :
    Agrees C s.session (Thrown.handOver s columns body values)
      (s.handOver columns body values) := by
  have explained : Agrees C s.session
      (Thrown.explaining s.session (Thrown.known (readRow s.integerMode columns values))).run
      (Session.explaining s.session (return readRow s.integerMode columns values)).run := by
    intro w ready
    obtain ⟨tidy, same, _⟩ := Settles.explaining (C := C) (Mirrors.known _) w ready
    refine ⟨tidy, ?_, same⟩
    cases readRow s.integerMode columns values <;> rfl
  refine explained.bind fun row => ?_
  refine Agrees.silent (Calm.updateStatus (f := Status.clearBusy) s.session fun _ quiet => quiet)
    fun _ => ?_
  cases row with
  | error failure =>
      exact .pure _
  | ok row =>
      refine Agrees.hand (Agrees.silent (calm row) fun answer => ?_)
      rcases answer with failure | (_ | _)
      · exact .pure _
      · exact .pure _
      · refine Agrees.silent (beginStep_calm s.session) fun begun => ?_
        cases begun with
        | error failure =>
            exact .pure _
        | ok begun =>
            exact .pure _

/-- The end of the rows is explained like any other end. -/
theorem endSteps_mirrored {id : Nat} {thrown : Except Trouble Unit} {found : List Failure}
    {w : World H E} {real : Except EngineFault Unit × World H E}
    (mirrored : Mirrored id thrown found w real) (ready : w.Ready id) :
    (Thrown.endSteps id thrown w).Tidy w ∧ (Thrown.endSteps id thrown w).events = [] ∧
      endSteps id real.1 real.2 =
        ((Thrown.endSteps id thrown w).result, (Thrown.endSteps id thrown w).world) ∧
      Reported found (Thrown.endSteps id thrown w).result := by
  obtain ⟨tidy, quiet, same, reported⟩ := mirrored.explained ready
  unfold Thrown.endSteps endSteps
  simp only [Noting.bind_apply, Noting.modify_apply, Noting.pure_apply, Worldly.bind_apply,
    Worldly.modify_apply, Worldly.pure_apply]
  rw [same]
  generalize (Thrown.explaining id (ExceptT.mk (return thrown) : Calling H E Unit)).run w = done
    at tidy quiet reported ⊢
  have cleared : done.world.Keeps (done.world.updateStatus id Status.clearBusy) :=
    done.world.keeps_updateStatus (f := Status.clearBusy) (fun _ quiet => quiet) id
  refine ⟨tidy.andThen (.of_keeps _ cleared), ?_, rfl, reported⟩
  simp only [Noted.andThen, List.append_nil]
  exact quiet

/-- What the rows of a statement come to, beside what is known of the statement. -/
structure Stepped (C : Callbacks H E) (w : World H E)
    (noted : Noted H E (StatementInfo × Except Failure Unit))
    (kept : (StatementInfo × Except Failure Unit) × World H E) : Prop where
  tidy : noted.Tidy w
  same : kept = (noted.result, noted.world)
  reported : Reported (failures C noted.events) noted.result.2

theorem Stepped.ended {id : Nat} {thrown : Except Trouble Unit} {w : World H E}
    {last : Noted H E β} {real : Except EngineFault Unit × World H E} (info : StatementInfo)
    (tidy : last.Tidy w) (mirrored : Mirrored id thrown (failures C last.events) last.world real)
    (ready : last.world.Ready id) :
    Stepped C w
      (last.andThen
        ((do return (info, ← Thrown.endSteps id thrown) : Noting H E _) last.world))
      ((do return (info, ← endSteps id real.1) : Worldly H E _) real.2) := by
  obtain ⟨later, quiet, same, reported⟩ := endSteps_mirrored mirrored ready
  simp only [Noting.bind_apply, Noting.pure_apply, Worldly.bind_apply, Worldly.pure_apply]
  rw [same]
  generalize Thrown.endSteps id thrown last.world = done at later quiet reported ⊢
  refine ⟨tidy.andThen (later.andThen (.of_pure _ _)), rfl, ?_⟩
  simp only [Noted.andThen, quiet, List.append_nil]
  exact reported

theorem Stepped.after {w : World H E} {begun : Noted H E β}
    {noted : Noted H E (StatementInfo × Except Failure Unit)}
    {kept : (StatementInfo × Except Failure Unit) × World H E} (tidy : begun.Tidy w)
    (quiet : failures C begun.events = []) (stepped : Stepped C begun.world noted kept) :
    Stepped C w (begun.andThen noted) kept := by
  refine ⟨tidy.andThen stepped.tidy, stepped.same, ?_⟩
  simp only [Noted.andThen, failures_append, quiet, List.nil_append]
  exact stepped.reported

section Steps

variable (callbacksCalm : C.Calm) {s : Statement}
  {body : Row → Action H E Bool} (calm : ∀ row, Calm (body row).run)
include callbacksCalm calm

/-- The rows come to what the engine makes of them, or to how host code leaves them. -/
theorem rows_stepped (columns : List String) (info : StatementInfo)
    (routine : Routine E.Store Unit) (w : World H E) (ready : w.Ready s.session) :
    Stepped C w
      ((do
        match ← (Thrown.run C s.session (fun _ values => Thrown.handOver s columns body values) ()
            routine).run with
        | .ok (.inr exit) => return (info, exit)
        | .ok (.inl _) => return (info, ← Thrown.endSteps s.session (.ok ()))
        | .error trouble => return (info, ← Thrown.endSteps s.session (.error trouble)) :
        Noting H E (StatementInfo × Except Failure Unit)) w)
      ((do
        match ← C.run s.session (fun _ values => s.handOver columns body values) () routine with
        | .left exit => return (info, exit)
        | .ended _ result => return (info, ← endSteps s.session result) :
        Worldly H E (StatementInfo × Except Failure Unit)) w) := by
  have offers (_ : Unit) (values : List SqlValue) :
      Agrees C s.session (Thrown.handOver s columns body values) (s.handOver columns body values) :=
    handOver_agrees calm columns values
  obtain ⟨tidy, mirrored⟩ := Mirrors.run callbacksCalm offers () routine w ready
  rw [Worldly.bind_apply, Worldly.pure_apply] at mirrored
  rw [Noting.bind_apply, Worldly.bind_apply]
  generalize (Thrown.run C s.session (fun _ values => Thrown.handOver s columns body values) ()
    routine).run w = looped at tidy mirrored ⊢
  generalize C.run s.session (fun _ values => s.handOver columns body values) () routine w = real
    at mirrored ⊢
  have readyThere := tidy.keeps.ready ready
  obtain ⟨outcome, after⟩ := real
  obtain ⟨result, events, world⟩ := looped
  -- The status is explained when the engine ends the rows. How host code leaves them is a result
  -- already, and nothing is pending there.
  rcases result with trouble | (⟨state, value⟩ | exit)
  · obtain ⟨fault, faulty, mirrored⟩ := mirrored.of_error (β := Unit)
    rcases outcome with ⟨state, fault' | value⟩ | exit
    · cases faulty
      exact Stepped.ended info tidy mirrored readyThere
    · cases faulty
    · cases faulty
  · obtain ⟨quiet, same⟩ := mirrored.of_ok
    rcases outcome with ⟨state', fault | value'⟩ | exit
    · cases same
    · cases same
      have ended : Mirrored (α := Unit) s.session (.ok ()) (failures C events) after
          (.ok (), after) := by
        rw [quiet]
        exact .ok () after
      exact Stepped.ended info tidy ended readyThere
    · cases same
  · obtain ⟨quiet, same⟩ := mirrored.of_ok
    rcases outcome with ⟨state', fault | value'⟩ | exit'
    · cases same
    · cases same
    · cases same
      exact Stepped.after tidy quiet ⟨.of_pure _ after, rfl, .inl rfl⟩

theorem steps_stepped (held : HeldStatement E)
    (values : List SqlValue) (w : World H E) (ready : w.Ready s.session) :
    Stepped C w (Thrown.steps C s held values body w) (s.steps C held values body w) := by
  unfold Thrown.steps steps
  have keeps := beginStep_calm s.session w
  simp only [Noting.bind_apply, Noting.lift_apply, Worldly.bind_apply]
  generalize (beginStep s.session : Worldly H E (Except Failure Unit)) w = begun at keeps ⊢
  obtain ⟨begun, busy⟩ := begun
  cases begun with
  | error failure =>
      exact ⟨.of_keeps _ keeps, rfl, .inl rfl⟩
  | ok begun =>
      cases begun
      refine Stepped.after (.of_keeps _ keeps) rfl ?_
      dsimp only
      obtain ⟨tidy, mirrored⟩ := Mirrors.renew callbacksCalm s.text held busy (keeps.ready ready)
      rw [Noting.bind_apply, Worldly.bind_apply]
      generalize (Thrown.renew C s.session s.text held).run busy = renewed at tidy mirrored ⊢
      generalize C.renew s.session s.text held busy = real at mirrored ⊢
      have readyThere := tidy.keeps.ready (keeps.ready ready)
      obtain ⟨result', after⟩ := real
      obtain ⟨result, events, world⟩ := renewed
      cases result with
      | error trouble =>
          obtain ⟨fault, faulty, mirrored⟩ := mirrored.of_error (β := Unit)
          cases faulty
          exact Stepped.ended held.info tidy mirrored readyThere
      | ok statement =>
          obtain ⟨quiet, same⟩ := mirrored.of_ok
          cases same
          exact Stepped.after tidy quiet
            (rows_stepped callbacksCalm calm held.info.columns _ _ world readyThere)

theorem boundSteps_stepped (held : HeldStatement E) (values : List SqlValue) (w : World H E)
    (ready : w.Ready s.session) :
    Stepped C w (Thrown.boundSteps C s held values body w) (s.boundSteps C held values body w) := by
  have bound : Settles C (fun w => w.Ready s.session)
      (Thrown.withBusy s.session (Thrown.explaining s.session
        (Thrown.known (held.info.bind values))) : Operating H E (List SqlValue))
      (Session.withBusy s.session (Session.explaining s.session
        (return held.info.bind values))) :=
    .withBusy (lasting_ready s.session) (.explaining (.known _))
  obtain ⟨tidy, same, reported⟩ := bound w ready
  unfold Thrown.boundSteps boundSteps
  rw [Noting.bind_apply, Worldly.bind_apply, same]
  generalize (Thrown.withBusy s.session (Thrown.explaining s.session
    (Thrown.known (held.info.bind values))) : Operating H E (List SqlValue)).run w = begun
    at tidy reported ⊢
  obtain ⟨result, events, world⟩ := begun
  cases result with
  | error failure =>
      refine ⟨tidy.andThen (.of_pure _ world), rfl, ?_⟩
      change Reported (failures C (events ++ [])) _
      rw [List.append_nil]
      exact reported.error
  | ok values =>
      exact Stepped.after tidy reported.ok
        (steps_stepped callbacksCalm calm held values world (tidy.keeps.ready ready))

end Steps

theorem Stepped.settled {s : Statement} {w : World H E}
    {noting : Noting H E (StatementInfo × Except Failure Unit)}
    {kept : Worldly H E (StatementInfo × Except Failure Unit)}
    (stepped : Stepped C w (noting w) (kept w)) :
    Settled C w
      ((do
        let (info, result) ← noting
        modify (World.updateSession s.session (Session.keep s.text info))
        return result : Noting H E (Except Failure Unit)) w)
      ((do
        let (info, result) ← kept
        modify (World.updateSession s.session (Session.keep s.text info))
        return result : Worldly H E (Except Failure Unit)) w) := by
  obtain ⟨tidy, same, reported⟩ := stepped
  rw [Noting.bind_apply, Worldly.bind_apply, same]
  generalize noting w = done at tidy reported ⊢
  obtain ⟨⟨info, result⟩, events, world⟩ := done
  refine ⟨tidy.andThen (.of_keeps _ (Calm.keep s.session s.text info world)), rfl, ?_⟩
  change Reported (failures C (events ++ [])) result
  rw [List.append_nil]
  exact reported

end Statement

end RowSource
