import RowSource.Proofs.Session.Iteration

/-!
# Failures of callbacks

Every operation does what it would do if the failure of a callback were thrown through the engine:
it fails with that failure as it is, and leaves nothing behind for another operation to report. The
callbacks of a host are served by operations that do so too, so this is by induction on how deep
they are nested.
-/

namespace RowSource

variable {H : Host} {E : Engine} {C : Callbacks H E} {S α β γ : Type}

def Execution.Calm : Execution H E → Prop
  | .read _ _ (.iterate body) => ∀ row, RowSource.Calm (body row).run
  | _ => True

def Operation.Calm : Operation H E → Prop
  | .execute call => call.Calm
  | _ => True

/-- Executing SQL settles, wherever its session is. -/
theorem Execution.engaged_settles (calm : C.Calm) (call : Execution H E)
    (bodyCalm : call.Calm) (values : List SqlValue) :
    Settles C (fun w => call.session < w.sessions.length) (Thrown.engaged C call values)
      (call.engaged C values) := by
  have lasting := lasting_present (H := H) (E := E) call.session
  cases call with
  | exec id sql =>
      exact .withBusy lasting (.withConnection (Mirrors.batch calm _ _))
  | run s params =>
      refine .withBusy lasting (.withConnection (Mirrors.withEngine calm values ?_))
      intro columns statement values
      refine (Mirrors.first calm _).bind (fun _ _ => rfl) fun row => ?_
      cases row with
      | some row =>
          exact .known (.error .returnedRows)
      | none =>
          exact Mirrors.look fun w => .pure _
  | read s params fetch =>
      cases fetch with
      | first =>
          refine .withBusy lasting (.withConnection (Mirrors.withEngine calm values ?_))
          intro columns statement values
          refine (Mirrors.first calm _).bind (fun _ _ => rfl) fun row => ?_
          cases row with
          | none =>
              exact .pure none
          | some row =>
              exact .known _
      | all =>
          exact .withBusy lasting (.withConnection (Mirrors.withEngine calm values
            fun columns statement values => Mirrors.collect calm _ _))
      | iterate body =>
          refine .withIteration lasting (.borrowing ?_)
          have holding : Settles C (fun w => w.Ready s.session)
              (Thrown.withBusy s.session
                (Thrown.explaining s.session (Thrown.hold C s.session s.text)))
              (Session.withBusy s.session
                (Session.explaining s.session (C.hold s.session s.text))) :=
            .withBusy (lasting_ready s.session) (.explaining (Mirrors.hold calm s.text))
          refine holding.bind (lasting_ready s.session) fun held w ready => ?_
          exact Statement.Stepped.settled
            (Statement.boundSteps_stepped calm bodyCalm held values w ready)

theorem Status.open_of_passed {status : Status} {rest : Unit → Except Failure α} {value : α}
    (passed : (status.requireOpen >>= rest) = .ok value) : status.isOpen = true := by
  unfold requireOpen at passed
  cases opened : status.isOpen with
  | true => rfl
  | false =>
      rw [opened] at passed
      cases passed

theorem Execution.open_of_admitted {call : Execution H E} {status : Status}
    {values : List SqlValue} (admitted : call.admitted status = .ok values) :
    status.isOpen = true := by
  cases call with
  | exec id sql =>
      exact Status.open_of_passed admitted
  | run s params =>
      unfold Execution.admitted Statement.runnable at admitted
      dsimp only at admitted
      split at admitted
      · cases admitted
      · exact Status.open_of_passed admitted
  | read s params fetch =>
      unfold Execution.admitted Statement.readable at admitted
      dsimp only at admitted
      split at admitted
      · exact Status.open_of_passed admitted
      · cases admitted

/-- Operations settle in every world. -/
theorem Operation.settles (calm : C.Calm) (operation : Operation H E)
    (bodyCalm : operation.Calm) :
    Settles C (fun _ => True) (operation.thrown C) (operation.perform C) := by
  cases operation with
  | prepare id sql =>
      have lasting := lasting_present (H := H) (E := E) id
      refine Settles.opened (.bind lasting (.plain (Session.require_calm id _)) fun _ => ?_)
      refine Settles.refusing
        (.withBusy lasting (.bind lasting (.withConnection (.hold calm _)) ?_))
      intro held
      refine .silent lasting (Calm.keep id _ held.info) fun _ => ?_
      exact fun w _ => ⟨.of_pure _ w, rfl, .inl rfl⟩
  | registerTable id name factory eponymous =>
      have lasting := lasting_present (H := H) (E := E) id
      refine Settles.opened (.bind lasting (.plain (Session.require_calm id _)) fun _ => ?_)
      refine .bind lasting (.plain (Session.require_calm id _)) fun _ => ?_
      refine .look fun w => Settles.refusing (.withBusy lasting (.bind lasting ?_ fun _ => ?_))
      · refine .withConnection (.look fun w => ?_)
        cases E.createModule id name eponymous w.store with
        | error fault =>
            exact .known (.error fault)
        | ok store =>
            intro w _
            have keeps := w.keeps_updateStore fun _ => store
            exact ⟨.of_keeps _ keeps, .ok () _⟩
      · intro w _
        have keeps := w.keeps_updateSession (f := fun s =>
          { s with
            moduleNames := s.moduleNames ++ [foldCase name]
            modules := s.modules ++ [⟨name, factory⟩] }) (fun _ quiet => quiet) id
        exact ⟨.of_keeps _ keeps, rfl, .inl rfl⟩
  | execute call =>
      intro w _
      have performed : ((execute call).perform C).run w = _ := call.perform_follows C w
      rw [performed]
      unfold thrown
      rw [Noting.get_bind_run]
      cases admitted : call.admitted (w.status call.session) with
      | error failure =>
          exact ⟨.of_pure _ w, rfl, .inl rfl⟩
      | ok values =>
          exact call.engaged_settles calm bodyCalm values w
            (World.present_of_open (Execution.open_of_admitted admitted))

theorem Settles.calm {operation : Operating H E α} {kept : Action H E α}
    (settles : Settles C (fun _ => True) operation kept) : Calm kept.run := by
  intro w
  have settled := settles w trivial
  rw [settled.same]
  exact settled.tidy.keeps

/-- What host code may do leaves no failure behind, if the callbacks inside do not. -/
theorem HostAction.calm (callbacksCalm : C.Calm) {action : Worldly H E α}
    (hosted : HostAction C action) : Calm action := by
  have settled (operation : Operation H E) (bodyCalm : operation.Calm) :
      Calm (operation.perform C).run :=
    (operation.settles callbacksCalm bodyCalm).calm
  -- Operations settle in every world, so what is left to the induction is how host code joins them
  -- and what it does with the rows of an iteration.
  induction hosted with
  | pure value => exact .pure value
  | bind _ _ first second => exact first.bind second
  | look f => exact .look _
  | remember f => exact fun w => ⟨Nat.le_refl _, fun _ quiet => quiet⟩
  | openSession path options => exact Session.openSession_calm path options
  | close id => exact Session.close_calm id
  | drop id => exact Session.drop_calm id
  | closeAll => exact Session.closeAll_calm
  | inTransaction id => exact Session.inTransaction_calm id
  | setIntegerMode id mode => exact Calm.updateStatus id fun _ quiet => quiet
  | setUnsafeMode id enabled => exact Session.setUnsafeMode_calm id enabled
  | exec id sql => exact settled (.execute (.exec id sql)) trivial
  | prepare id sql => exact settled (.prepare id sql) trivial
  | registerTable id name factory eponymous =>
      exact settled (.registerTable id name factory eponymous) trivial
  | run s params => exact settled (.execute (.run s params)) trivial
  | first s params => exact settled (.execute (.read s params .first)) trivial
  | all s params => exact settled (.execute (.read s params .all)) trivial
  | iterate s params _ bodyCalm =>
      exact settled (.execute (.read s params (.iterate _))) bodyCalm

theorem Callbacks.refused_calm : (Callbacks.refused : Callbacks H E).Calm :=
  ⟨fun _ _ => .pure _, fun _ _ => .pure _, fun _ => .pure _⟩

/-- The callbacks of an admissible host leave no failure behind, however deep they are nested. -/
theorem HostCode.Admissible.calm {host : HostCode H E} (admissible : host.Admissible)
    (depth : Nat) : (host.callbacks depth).Calm := by
  induction depth with
  | zero =>
      exact Callbacks.refused_calm
  | succ depth inner =>
      have made := admissible (host.callbacks depth)
      exact ⟨fun factory args => (made.define factory args).calm inner,
        fun generator args => (made.generate generator args).calm inner,
        fun stream => (made.advance stream).calm inner⟩

/-- Nothing is pending anywhere. -/
def World.Quiet (w : World H E) : Prop := ∀ id, (w.status id).pending = none

theorem World.Keeps.quietly {w v : World H E} (keeps : w.Keeps v) (quiet : w.Quiet) : v.Quiet :=
  fun id => keeps.quiet id (quiet id)

/-- An operation that hands rows to host code, if to any, with its callbacks served by `C`. -/
def Operation.Made (C : Callbacks H E) : Operation H E → Prop
  | .execute (.read _ _ (.iterate body)) => ∀ row, HostAction C (body row).run
  | _ => True

theorem Operation.Made.calm (callbacksCalm : C.Calm) {operation : Operation H E}
    (made : operation.Made C) : operation.Calm := by
  cases operation with
  | prepare id sql => exact trivial
  | registerTable id name factory eponymous => exact trivial
  | execute call =>
      rcases call with ⟨id, sql⟩ | ⟨s, params⟩ | ⟨s, params, fetch⟩
      · exact trivial
      · exact trivial
      · cases fetch with
        | first => exact trivial
        | all => exact trivial
        | iterate body => exact fun row => (made row).calm callbacksCalm

/-- At every depth and in every world an operation does what it does with failures thrown. If it
makes a demand that fails, it fails with that failure as it is. Where nothing was pending nothing is
in the end, nor where host code runs on the way; and so it is after every run of host code from the
beginning. -/
theorem HostCode.Admissible.operations_fail_as_thrown {host : HostCode H E}
    (admissible : host.Admissible) (depth : Nat) :
    (∀ operation : Operation H E, operation.Made (host.callbacks depth) → ∀ w : World H E,
      let noted := (operation.thrown (host.callbacks depth)).run w
      (operation.perform (host.callbacks depth)).run w = (noted.result, noted.world) ∧
        (∀ failure, noted.Meets (host.callbacks depth) failure →
          noted.result = .error failure) ∧
        (w.Quiet → noted.world.Quiet ∧ ∀ event ∈ noted.events, event.world.Quiet)) ∧
    ∀ {α : Type} (action : Worldly H E α), HostAction (host.callbacks depth) action →
      ∀ memory, (action { memory := memory }).2.Quiet := by
  have calm := admissible.calm depth
  constructor
  · intro operation made w noted
    obtain ⟨tidy, same, reported⟩ := operation.settles calm (made.calm calm) w trivial
    refine ⟨same, ?_, fun quiet => ⟨tidy.keeps.quietly quiet, fun event member =>
      (tidy.reached event member).quietly quiet⟩⟩
    intro failure meets
    have member := meets.mem_failures
    rcases reported with none | ⟨given, only, failed⟩
    · rw [none] at member
      cases member
    · rw [only] at member
      cases List.mem_singleton.mp member
      exact failed
  · intro α action hosted memory
    exact (hosted.calm calm _).quietly fun _ => rfl

/-! ### A query that fails inside another one -/

namespace Relay

/-- An engine with a statement that asks for a table, and others that have a single row. -/
def engine : Engine where
  Store := Unit
  Statement := String
  empty := ()
  openDatabase _ _ _ store := .ok store
  release _ store := store
  inTransaction _ _ := false
  createModule _ _ _ store := .ok store
  schemaDefect? _ := none
  compile _ text := return (text, "")
  info _ := { isEmpty := false, columns := ["a"], readonly := true, parameters := 0 }
  isOutdated _ _ := false
  refresh _ store := store
  execute _ text _ store :=
    if text = "SELECT a FROM m" then
      .ask (.connect "m" []) store id fun _ store => .finish (.ok ()) store
    else
      .row [.integer 1] store id fun store => .finish (.ok ()) store
  changes _ _ := 0
  lastRowid _ _ := 0

/-- A host with a factory that cannot define its table. -/
abbrev host : Host where
  Memory := Unit
  Factory := Unit
  Generator := Empty
  Stream := Empty

def cause : HostError := .typed "no table today" (some "out of stock")

def code : HostCode host engine where
  above _ :=
    { define := fun _ _ => return .error cause
      generation :=
        { generate := fun generator _ => nomatch generator
          advance := fun stream => nomatch stream } }

theorem admissible : code.Admissible := fun _ =>
  { define := fun _ _ => .pure _
    generate := fun generator _ => nomatch generator
    advance := fun stream => nomatch stream }

def registered : World host engine :=
  { sessions :=
      [{ path := ":memory:", readonly := false, status := {}, modules := [⟨"m", ()⟩] }]
    registry := [0]
    memory := () }

def reading (sql : String) : Statement :=
  { session := 0, sql := sql, reader := true, readonly := true, integerMode := .loose }

/-- Reads the table that cannot be defined, and goes on whatever comes of it. -/
def retry (_ : Row) : Action host engine Bool :=
  ExceptT.mk do
    let _ ← ((reading "SELECT a FROM m").all (code.callbacks 1) []).run
    return .ok true

/-- Whether the table is asked for where there is a module of its name. -/
def isAsked : Event host engine → Bool
  | .asked id _ (.connect "m" _) w =>
      ((w.session id).modules.find? fun known => sameName known.name "m").isSome
  | _ => false

theorem fails_of_isAsked {noted : Noted host engine α} (asked : noted.events.any isAsked = true) :
    noted.Meets (code.callbacks 1) (.host cause) := by
  obtain ⟨event, member, asked⟩ := List.any_eq_true.mp asked
  unfold isAsked at asked
  split at asked
  · obtain ⟨known, found⟩ := Option.isSome_iff_exists.mp asked
    exact ⟨_, _, _, _, member, .define found rfl⟩
  · cases asked

/-- A query of the table fails with the error of the factory. Inside the iteration of another query
it fails as well, and the iteration does not. -/
theorem failure_stays_inside :
    let asking : Operation host engine := .execute (.read (reading "SELECT a FROM m") [] .all)
    let around : Operation host engine := .execute (.read (reading "SELECT 1") [] (.iterate retry))
    ((asking.perform (code.callbacks 1)).run registered).1 = .error (.host cause) ∧
      ((asking.perform (code.callbacks 1)).run registered).2.Quiet ∧
      ((around.perform (code.callbacks 1)).run registered).1 = .ok () ∧
      ((around.perform (code.callbacks 1)).run registered).2.Quiet := by
  intro asking around
  have quiet : registered.Quiet := by
    intro id
    cases id with
    | zero => rfl
    | succ id => rfl
  have made (row : Row) : HostAction (code.callbacks 1) (retry row).run :=
    .bind (.all _ _) fun _ => .pure _
  have meets : ((asking.thrown (code.callbacks 1)).run registered).Meets (code.callbacks 1)
      (.host cause) := fails_of_isAsked (by decide +kernel)
  have complete : ((around.thrown (code.callbacks 1)).run registered).result.isOk = true := by
    decide +kernel
  obtain ⟨asked, reported, askedQuietly⟩ :=
    (admissible.operations_fail_as_thrown 1).1 asking trivial registered
  obtain ⟨iterated, _, quietly⟩ :=
    (admissible.operations_fail_as_thrown 1).1 around made registered
  rw [asked, iterated]
  refine ⟨reported _ meets, (askedQuietly quiet).1, ?_, (quietly quiet).1⟩
  generalize (around.thrown (code.callbacks 1)).run registered = done at complete ⊢
  obtain ⟨result, events, world⟩ := done
  cases result with
  | error failure =>
      cases complete
  | ok value =>
      rfl

end Relay

end RowSource
