import RowSource.Proofs.Session.Served
import RowSource.Proofs.Session.Thrown

/-!
# The kept failure mirrors the thrown one

A call of the engine that keeps the failure of a callback on the status does what the call that
throws it does, up to where the failure is: there it has a fault of the engine to return instead,
and the failure is pending.
-/

namespace RowSource

variable {H : Host} {E : Engine} {C : Callbacks H E} {S α β γ : Type}

/-- The failures of the demands in an account, in order. -/
def failures (C : Callbacks H E) (events : List (Event H E)) : List Failure :=
  events.filterMap fun
    | .asked id scans demand w =>
        match (C.serve id scans demand w).1.1 with
        | .error failure => some failure
        | .ok _ => none
    | .handed _ => none

theorem failures_append (first second : List (Event H E)) :
    failures C (first ++ second) = failures C first ++ failures C second :=
  List.filterMap_append

theorem failures_asked_ok {id : Nat} {scans : Callbacks.Scans H} {demand : Demand}
    {w : World H E} {reply : demand.Reply} (served : (C.serve id scans demand w).1.1 = .ok reply) :
    failures C [.asked id scans demand w] = [] := by
  simp only [failures, List.filterMap_cons, List.filterMap_nil, served]

theorem failures_asked_error {id : Nat} {scans : Callbacks.Scans H} {demand : Demand}
    {w : World H E} {failure : Failure}
    (failed : (C.serve id scans demand w).1.1 = .error failure) :
    failures C [.asked id scans demand w] = [failure] := by
  simp only [failures, List.filterMap_cons, List.filterMap_nil, failed]

/-- An operation makes a demand that fails. -/
def Noted.Meets (C : Callbacks H E) (noted : Noted H E α) (failure : Failure) : Prop :=
  ∃ id scans demand w, .asked id scans demand w ∈ noted.events ∧
    C.Fails id scans w demand failure

theorem Noted.Meets.mem_failures {noted : Noted H E α} {failure : Failure}
    (meets : noted.Meets C failure) : failure ∈ failures C noted.events := by
  obtain ⟨id, scans, demand, w, made, fails⟩ := meets
  refine List.mem_filterMap.mpr ⟨_, made, ?_⟩
  dsimp only
  rw [(C.serve_error_iff id scans demand w failure).mpr fails]

/-- Nothing is left behind, and host code is let run only where nothing is. -/
structure Noted.Tidy (noted : Noted H E α) (w : World H E) : Prop where
  keeps : w.Keeps noted.world
  reached (event : Event H E) : event ∈ noted.events → w.Keeps event.world

theorem Noted.Tidy.of_keeps (value : α) {w v : World H E} (keeps : w.Keeps v) :
    Noted.Tidy ⟨value, [], v⟩ w :=
  ⟨keeps, fun _ member => (List.not_mem_nil member).elim⟩

theorem Noted.Tidy.of_pure (value : α) (w : World H E) :
    Noted.Tidy ⟨value, [], w⟩ w :=
  .of_keeps value (.refl w)

theorem Noted.Tidy.of_event {value : α} {event : Event H E} {w : World H E}
    (keeps : w.Keeps event.world) : Noted.Tidy ⟨value, [event], event.world⟩ w := by
  refine ⟨keeps, fun other member => ?_⟩
  cases List.mem_singleton.mp member
  exact keeps

theorem Noted.Tidy.andThen {begun : Noted H E α} {ended : Noted H E β} {w : World H E}
    (first : begun.Tidy w) (second : ended.Tidy begun.world) :
    (begun.andThen ended).Tidy w where
  keeps := first.keeps.trans second.keeps
  reached event member := by
    rcases List.mem_append.mp member with early | late
    · exact first.reached event early
    · exact first.keeps.trans (second.reached event late)

/-- Keeps a failure on the status of a session. -/
def World.deferred (id : Nat) (failure : Failure) (w : World H E) : World H E :=
  w.updateStatus id fun status => status.deferFailure failure

/-- What is kept beside what is thrown: the same in the same world, or the failure of a callback
pending there. -/
inductive Mirrored (id : Nat) : Except Trouble α → List Failure → World H E →
    Except EngineFault α × World H E → Prop where
  | ok (value : α) (w : World H E) : Mirrored id (.ok value) [] w (.ok value, w)
  | engine (fault : EngineFault) (w : World H E) :
      Mirrored id (.error (.engine fault)) [] w (.error fault, w)
  | callback (failure : Failure) (fault : EngineFault) (w : World H E) :
      Mirrored id (.error (.callback failure)) [failure] w
        (.error fault, w.deferred id failure)

theorem Mirrored.of_ok {id : Nat} {value : α} {found : List Failure} {w : World H E}
    {real : Except EngineFault α × World H E} (mirrored : Mirrored id (.ok value) found w real) :
    found = [] ∧ real = (.ok value, w) := by
  cases mirrored with
  | ok _ _ =>
      exact ⟨rfl, rfl⟩

theorem Mirrored.of_error {id : Nat} {trouble : Trouble} {found : List Failure} {w : World H E}
    {real : Except EngineFault α × World H E}
    (mirrored : Mirrored id (.error trouble : Except Trouble α) found w real) :
    ∃ fault, real.1 = .error fault ∧
      Mirrored id (.error trouble : Except Trouble β) found w (.error fault, real.2) := by
  cases mirrored with
  | engine fault _ =>
      exact ⟨fault, rfl, .engine fault w⟩
  | callback failure fault _ =>
      exact ⟨fault, rfl, .callback failure fault w⟩

/-- A call that keeps failures does so of one that throws them, wherever none is pending. -/
def Mirrors (C : Callbacks H E) (id : Nat) (call : Calling H E α)
    (kept : Worldly H E (Except EngineFault α)) : Prop :=
  ∀ w : World H E, w.Ready id →
    (call.run w).Tidy w ∧
      Mirrored id (call.run w).result (failures C (call.run w).events) (call.run w).world (kept w)

namespace Mirrors

variable {id : Nat}

theorem pure (value : α) :
    Mirrors C id (Pure.pure value) (Pure.pure (.ok value)) :=
  fun w _ => ⟨.of_pure _ w, .ok value w⟩

theorem bind {call : Calling H E α} {kept : Worldly H E (Except EngineFault α)}
    {next : α → Calling H E β} {rest : Except EngineFault α → Worldly H E (Except EngineFault β)}
    (first : Mirrors C id call kept)
    (halts : ∀ fault w, rest (.error fault) w = (.error fault, w))
    (second : ∀ value, Mirrors C id (next value) (rest (.ok value))) :
    Mirrors C id (call >>= next) (kept >>= rest) := by
  intro w ready
  obtain ⟨tidy, mirrored⟩ := first w ready
  rw [Noting.bind_run, Worldly.bind_apply]
  generalize call.run w = begun at tidy mirrored ⊢
  generalize kept w = real at mirrored ⊢
  obtain ⟨result, events, world⟩ := begun
  simp only [Noted.andThen, failures_append] at tidy mirrored ⊢
  generalize collected : failures C events = found at mirrored ⊢
  cases mirrored with
  | ok value _ =>
      have later := second value world (tidy.keeps.ready ready)
      exact ⟨tidy.andThen later.1, later.2⟩
  | engine fault _ =>
      rw [halts]
      exact ⟨tidy.andThen (.of_pure _ world), .engine fault world⟩
  | callback failure fault _ =>
      rw [halts]
      exact ⟨tidy.andThen (.of_pure _ world), .callback failure fault world⟩

/-- What host code has no part in happens on both sides. -/
theorem silent {action : Worldly H E γ} {next : γ → Calling H E α}
    {rest : γ → Worldly H E (Except EngineFault α)} (calm : Calm action)
    (later : ∀ value, Mirrors C id (next value) (rest value)) :
    Mirrors C id (liftM action >>= next) (action >>= rest) := by
  intro w ready
  have keeps := calm w
  obtain ⟨tidy, mirrored⟩ := later (action w).1 (action w).2 (keeps.ready ready)
  exact ⟨(Noted.Tidy.of_keeps () keeps).andThen tidy, mirrored⟩

theorem look {next : World H E → Calling H E α}
    {rest : World H E → Worldly H E (Except EngineFault α)}
    (later : ∀ w, Mirrors C id (next w) (rest w)) : Mirrors C id (get >>= next) (get >>= rest) :=
  fun w ready => later w w ready

theorem change {f : World H E → World H E} {next : Unit → Calling H E α}
    {rest : Unit → Worldly H E (Except EngineFault α)} (keeps : ∀ w : World H E, w.Keeps (f w))
    (later : Mirrors C id (next ()) (rest ())) :
    Mirrors C id (modify f >>= next) (modify f >>= rest) :=
  silent (show Calm (modify f) from keeps) fun _ => later

theorem known (result : Except EngineFault α) :
    Mirrors C id (Thrown.known result) (Pure.pure result) := by
  intro w _
  cases result with
  | error fault =>
      exact ⟨.of_pure _ w, .engine fault w⟩
  | ok value =>
      exact ⟨.of_pure _ w, .ok value w⟩

theorem withoutPlace {call : Calling H E α} {kept : Worldly H E (Except EngineFault α)}
    (mirrors : Mirrors C id call kept) :
    Mirrors C id (Thrown.withoutPlace call)
      (do return (← kept).mapError EngineFault.withoutPlace) := by
  intro w ready
  obtain ⟨tidy, mirrored⟩ := mirrors w ready
  have ran : (Thrown.withoutPlace call).run w =
      (call.run w).andThen
        ⟨(call.run w).result.mapError Trouble.withoutPlace, [], (call.run w).world⟩ := rfl
  have keptRan : (do return (← kept).mapError EngineFault.withoutPlace : Worldly H E _) w =
      ((kept w).1.mapError EngineFault.withoutPlace, (kept w).2) := rfl
  rw [ran, keptRan]
  refine ⟨tidy.andThen (.of_pure _ _), ?_⟩
  generalize call.run w = begun at mirrored ⊢
  generalize kept w = real at mirrored ⊢
  obtain ⟨result, events, world⟩ := begun
  simp only [Noted.andThen, List.append_nil] at mirrored ⊢
  generalize failures C events = found at mirrored ⊢
  cases mirrored with
  | ok value _ =>
      exact .ok value world
  | engine fault _ =>
      exact .engine fault.withoutPlace world
  | callback failure fault _ =>
      exact .callback failure fault.withoutPlace world

end Mirrors

end RowSource
