import RowSource.Proofs.Engine.Views
import RowSource.Proofs.Session.Marks
import RowSource.Proofs.Session.MirroredCalls
import RowSource.Proofs.Session.Refusals

/-!
# Scenes

What an operation does to the marks of its session, step by step. An operation takes a mark, goes on,
and gives the mark back. The steps are stated for the operations with failures thrown, because these
tell of the moments at which host code runs, and of each such moment it is stated as well how the
session is marked then.

The calls of the engine come first. All of them are made while the session is busy and its connection
is lent out.
-/

namespace RowSource

variable {H : Host} {E : Engine} {S α β τ ε : Type}

/-- The world in which a demand has been served. What host code does with a row is not accounted
for. -/
def Event.left (C : Callbacks H E) : Event H E → World H E
  | .asked id scans demand w => (C.serve id scans demand w).2
  | .handed w => w

/-- A mark with more iterators and borrowers, busy or not. -/
def Mark.over (stage mark : Mark) : Mark :=
  ⟨stage.isBusy, mark.iterators + stage.iterators, mark.borrowers + stage.borrowers⟩

/-- An operation on a session. -/
structure Scene (H : Host) (E : Engine) where
  session : Nat
  /-- The marks of all sessions when the operation began. -/
  marks : Marks
  callbacks : Callbacks H E
  later : World H E → World H E → Prop
  /-- The failures that the closure of an iteration may give. -/
  given : Failure → Prop

namespace Scene

variable (scene : Scene H E)

/-- The session is there, and is marked by so much more than when the operation began. No other
session is marked in another way. -/
structure At (stage : Mark) (w : World H E) : Prop where
  present : scene.session < w.sessions.length
  marked : w.marks = scene.marks.change scene.session stage.over

/-- Demands are made in a busy period, and rows are handed over between two of them. -/
def Admits : Event H E → Prop
  | .asked id _ _ w => id = scene.session ∧ ∃ live, scene.At ⟨true, live, 1⟩ w
  | .handed w => ∃ live, 0 < live ∧ scene.At ⟨false, live, 1⟩ w

structure Along (w : World H E) (noted : Noted H E α) : Prop where
  since : scene.later w noted.world
  admits : ∀ event ∈ noted.events, scene.Admits event
  reached : ∀ event ∈ noted.events, scene.later w event.world
  left : ∀ event ∈ noted.events, scene.later (event.left scene.callbacks) noted.world
  ordered : noted.events.Pairwise fun event next =>
    scene.later (event.left scene.callbacks) next.world

def Runs (before : World H E → Prop) (action : Noting H E α) (after : α → World H E → Prop) :
    Prop :=
  ∀ w, before w → scene.Along w (action w) ∧ after (action w).result (action w).world

/-- What the scenes of this module rest on: callbacks that give back what they take, and an engine
that leaves the connections alone. -/
structure Sound (view : E.Store → τ) : Prop where
  evolution : Evolution view scene.later
  callbacks : scene.callbacks.Steady scene.later
  engine : E.StatementsKeep view

variable {scene}

theorem At.change {stage next : Mark} {f : Mark → Mark} {w v : World H E} (here : scene.At stage w)
    (grows : w.sessions.length ≤ v.sessions.length)
    (changed : v.marks = w.marks.change scene.session f)
    (same : ∀ mark, f (stage.over mark) = next.over mark) : scene.At next v where
  present := Nat.lt_of_lt_of_le here.present grows
  marked := by
    rw [changed, here.marked, Marks.change_change]
    exact congrArg _ (funext same)

theorem At.updateSession {stage next : Mark} {f : Session H → Session H} {g : Mark → Mark}
    {w : World H E} (here : scene.At stage w) (changes : ∀ s, (f s).mark = g s.mark)
    (same : ∀ mark, g (stage.over mark) = next.over mark) :
    scene.At next (w.updateSession scene.session f) :=
  here.change (Nat.le_of_eq (List.length_modify ..).symm)
    (World.marks_updateSession here.present changes) same

theorem Along.of_later {w v : World H E} (value : α) (since : scene.later w v) :
    scene.Along w ⟨value, [], v⟩ where
  since := since
  admits _ member := nomatch member
  reached _ member := nomatch member
  left _ member := nomatch member
  ordered := .nil

section Rules

variable {view : E.Store → τ} (sound : scene.Sound view)
include sound

theorem Along.andThen {w : World H E} {begun : Noted H E α} {ended : Noted H E β}
    (first : scene.Along w begun) (second : scene.Along begun.world ended) :
    scene.Along w (begun.andThen ended) where
  since := sound.evolution.trans first.since second.since
  admits event member := by
    rcases List.mem_append.mp member with early | late
    · exact first.admits event early
    · exact second.admits event late
  reached event member := by
    rcases List.mem_append.mp member with early | late
    · exact first.reached event early
    · exact sound.evolution.trans first.since (second.reached event late)
  left event member := by
    rcases List.mem_append.mp member with early | late
    · exact sound.evolution.trans (first.left event early) second.since
    · exact second.left event late
  ordered := by
    refine List.pairwise_append.mpr ⟨first.ordered, second.ordered, ?_⟩
    intro event early next late
    exact sound.evolution.trans (first.left event early) (second.reached next late)

/-- What goes on from where an event has left the world. -/
theorem Along.after {w : World H E} {event : Event H E} {noted : Noted H E α}
    (admits : scene.Admits event) (reached : scene.later w event.world)
    (served : scene.later event.world (event.left scene.callbacks))
    (rest : scene.Along (event.left scene.callbacks) noted) :
    scene.Along w (Noted.andThen ⟨(), [event], event.world⟩ noted) where
  since := sound.evolution.trans reached (sound.evolution.trans served rest.since)
  admits := List.forall_mem_cons.mpr ⟨admits, rest.admits⟩
  reached := List.forall_mem_cons.mpr ⟨reached, fun next member =>
    sound.evolution.trans reached (sound.evolution.trans served (rest.reached next member))⟩
  left := List.forall_mem_cons.mpr ⟨rest.since, rest.left⟩
  ordered := List.pairwise_cons.mpr ⟨rest.reached, rest.ordered⟩

namespace Runs

variable {before : World H E → Prop} {after : α → World H E → Prop}

theorem pure {value : α} (holds : ∀ w, before w → after value w) :
    scene.Runs before (Pure.pure value) after :=
  fun w given => ⟨.of_later value (sound.evolution.refl w), holds w given⟩

theorem bind {between : β → World H E → Prop} {action : Noting H E β} {rest : β → Noting H E α}
    (first : scene.Runs before action between)
    (second : ∀ value, scene.Runs (between value) (rest value) after) :
    scene.Runs before (action >>= rest) after := by
  intro w given
  obtain ⟨along, reached⟩ := first w given
  obtain ⟨alongThen, holds⟩ := second (action w).result (action w).world reached
  exact ⟨along.andThen sound alongThen, holds⟩

omit sound in
/-- What goes without a mention. -/
theorem lift {action : Worldly H E α}
    (acts : ∀ w, before w → scene.later w (action w).2 ∧ after (action w).1 (action w).2) :
    scene.Runs before (liftM action) after :=
  fun w given => ⟨.of_later _ (acts w given).1, (acts w given).2⟩

/-- Handing a row over, with what comes after. -/
theorem hand {rest : Noting H E α} (admits : ∀ w, before w → scene.Admits (.handed w))
    (later : scene.Runs before rest after) :
    scene.Runs before (Noting.note .handed >>= fun _ => rest) after := by
  intro w given
  obtain ⟨along, holds⟩ := later w given
  have here := sound.evolution.refl w
  exact ⟨.after sound (admits w given) here here along, holds⟩

omit sound in
theorem look {rest : World H E → Noting H E α}
    (later : ∀ w, before w → scene.Runs (fun v => v = w ∧ before v) (rest w) after) :
    scene.Runs before (get >>= rest) after :=
  fun w given => later w given w ⟨rfl, given⟩

omit sound in
theorem weaken {action : Noting H E α} {weaker : α → World H E → Prop}
    (runs : scene.Runs before action after) (implies : ∀ value w, after value w → weaker value w) :
    scene.Runs before action weaker :=
  fun w given => ⟨(runs w given).1, implies _ _ (runs w given).2⟩

omit sound in
theorem strengthen {stronger : World H E → Prop} {action : Noting H E α}
    (runs : scene.Runs before action after)
    (implies : ∀ w, stronger w → before w) :
    scene.Runs stronger action after :=
  fun w given => runs w (implies w given)

omit sound in
theorem frame {action : Noting H E α} (runs : scene.Runs before action after)
    {fact : World H E → Prop}
    (lasts : ∀ w v, before w → scene.later w v → fact w → fact v) :
    scene.Runs (fun w => before w ∧ fact w) action fun value w => after value w ∧ fact w := by
  intro w given
  obtain ⟨along, holds⟩ := runs w given.1
  exact ⟨along, holds, lasts _ _ given.1 along.since given.2⟩

theorem updateSession {stage next : Mark} {f : Session H → Session H} {g : Mark → Mark}
    (changes : ∀ s, (f s).listing = s.listing ∧ (f s).mark = g s.mark)
    (same : ∀ mark, g (stage.over mark) = next.over mark) :
    scene.Runs (scene.At stage) (modify (World.updateSession scene.session f))
      fun _ => scene.At next := by
  intro w here
  have later : scene.later w (w.updateSession scene.session f) :=
    sound.evolution.later_updateSession (fun s => (changes s).1) scene.session w
  exact ⟨.of_later () later, here.updateSession (fun s => (changes s).2) same⟩

theorem updateStatus {stage next : Mark} {f : Status → Status} {g : Mark → Mark}
    (changes : ∀ s : Session H, Session.listing { s with status := f s.status } = s.listing ∧
      Session.mark { s with status := f s.status } = g s.mark)
    (same : ∀ mark, g (stage.over mark) = next.over mark) :
    scene.Runs (scene.At stage) (modify (World.updateStatus scene.session f))
      fun _ => scene.At next :=
  updateSession sound changes same

end Runs

theorem At.alike {stage : Mark} {w v : World H E} (here : scene.At stage w)
    (later : scene.later w v) (same : v.marks = w.marks) : scene.At stage v where
  present := Nat.lt_of_lt_of_le here.present (sound.evolution.grows later)
  marked := same.trans here.marked

theorem Runs.keep {stage : Mark} (text : String) (info : StatementInfo) :
    scene.Runs (scene.At stage)
      (modify (World.updateSession scene.session (Session.keep text info)))
      fun _ => scene.At stage := by
  refine Runs.updateSession (g := id) sound (fun s => ?_) fun _ => rfl
  unfold Session.keep
  split
  · exact ⟨rfl, rfl⟩
  · exact ⟨rfl, rfl⟩

theorem Runs.steady {stage : Mark} {action : Worldly H E α} (steady : Steady scene.later action) :
    scene.Runs (scene.At stage) (liftM action) fun _ => scene.At stage :=
  .lift fun w here => ⟨(steady w).1, here.alike sound (steady w).1 (steady w).2⟩

end Rules

/-! ### Actions that may fail -/

variable (scene) in
/-- What holds of a way to come to an end goes on to hold. -/
def Lasts (ends : β → World H E → Prop) : Prop :=
  ∀ ending w v, scene.session < w.sessions.length → scene.later w v →
    ends ending w → ends ending v

variable (scene) in
def Tried (stage : Mark) (fails : ε → World H E → Prop) : Except ε α → World H E → Prop
  | .ok _, w => scene.At stage w
  | .error error, w => scene.At stage w ∧ fails error w

theorem Tried.here {stage : Mark} {fails : ε → World H E → Prop} {result : Except ε α}
    {w : World H E} (tried : scene.Tried stage fails result w) : scene.At stage w := by
  cases result with
  | error error => exact tried.1
  | ok value => exact tried

variable (scene) in
/-- An action that gives back what it takes, even if it fails, and says how it may fail. -/
def Tries (stage : Mark) (fails : ε → World H E → Prop)
    (action : ExceptT ε (Noting H E) α) : Prop :=
  scene.Runs (scene.At stage) action.run (scene.Tried stage fails)

theorem Runs.tried {stage next : Mark} {fails : ε → World H E → Prop} {action : Noting H E β}
    (runs : scene.Runs (scene.At stage) action fun _ => scene.At next) (lasts : scene.Lasts fails)
    (result : Except ε α) :
    scene.Runs (scene.Tried stage fails result) action fun _ => scene.Tried next fails result := by
  cases result with
  | error error => exact runs.frame fun w v here => lasts error w v here.present
  | ok value => exact runs

namespace Tries

variable {view : E.Store → τ} (sound : scene.Sound view) {stage : Mark}
  {fails : ε → World H E → Prop}
include sound

theorem pure (value : α) :
    scene.Tries stage fails (Pure.pure value : ExceptT ε (Noting H E) α) :=
  Runs.pure sound fun _ here => here

theorem bind {action : ExceptT ε (Noting H E) α} {rest : α → ExceptT ε (Noting H E) β}
    (first : scene.Tries stage fails action)
    (second : ∀ value, scene.Tries stage fails (rest value)) :
    scene.Tries stage fails (action >>= rest) := by
  change scene.Runs _ (action.run >>= ExceptT.bindCont rest) _
  refine Runs.bind sound first fun result => ?_
  cases result with
  | error error =>
      exact Runs.pure sound fun _ tried => tried
  | ok value =>
      exact second value

omit sound in
theorem look {rest : World H E → ExceptT ε (Noting H E) α}
    (later : ∀ w, scene.Tries stage fails (rest w)) : scene.Tries stage fails (get >>= rest) :=
  fun w here => later w w here

theorem silent {action : Noting H E β} {rest : β → ExceptT ε (Noting H E) α}
    (first : scene.Runs (scene.At stage) action fun _ => scene.At stage)
    (second : ∀ value, scene.Tries stage fails (rest value)) :
    scene.Tries stage fails (liftM action >>= rest) := by
  have lifted : scene.Runs (scene.At stage) (liftM action : ExceptT ε (Noting H E) β).run
      fun result w => ∃ value, result = .ok value ∧ scene.At stage w :=
    Runs.bind sound first fun value => Runs.pure sound fun _ here => ⟨value, rfl, here⟩
  refine Runs.bind sound lifted fun result w reached => ?_
  obtain ⟨value, rfl, here⟩ := reached
  exact second value w here

end Tries

/-! ### Programs -/

variable (scene) in
/-- After the offer of a row: the session stays busy while there is to be a further one. -/
def Offered (live : Nat) (still : Bool) (exits : β → World H E → Prop) : S ⊕ β → World H E → Prop
  | .inl _, w => scene.At ⟨true, live, 1⟩ w
  | .inr exit, w => scene.At ⟨still, live, 1⟩ w ∧ exits exit w

variable (scene) in
/-- After a program: it has come to its end, was left at a row, or came to nothing. -/
def Driven (live : Nat) (still : Bool) (exits : β → World H E → Prop) :
    Except Trouble (S × α ⊕ β) → World H E → Prop
  | .ok (.inl _), w => scene.At ⟨true, live, 1⟩ w
  | .ok (.inr exit), w => scene.At ⟨still, live, 1⟩ w ∧ exits exit w
  | .error trouble, w => scene.At ⟨true, live, 1⟩ w ∧ trouble.Unrefused

section Programs

variable {view : E.Store → τ} (sound : scene.Sound view) {live : Nat} {still : Bool}
  {exits : β → World H E → Prop} {offer : S → List SqlValue → Noting H E (S ⊕ β)}
  (offers : ∀ opened state values, scene.Runs (scene.At ⟨true, live + opened, 1⟩)
    (offer state values) (scene.Offered (live + opened) still exits))
  (lasts : scene.Lasts exits)
include sound lasts

include offers in
/-- A program that runs leaves the marks, but for the scans that it has opened. -/
theorem drive_along (program : Program E.Store α) (state : S) (scans : Callbacks.Scans H)
    (w : World H E) (here : scene.At ⟨true, live + scans.length, 1⟩ w)
    (keeps : program.Keeps view (view w.store)) :
    let noted := Thrown.drive scene.callbacks scene.session offer state scans program w
    scene.Along w noted ∧
      scene.Driven (live + noted.result.2.length) still exits noted.result.1 noted.world := by
  -- By induction on the program: the number of scans grows with the iterators of the session.
  induction program generalizing state scans w with
  | finish result store =>
      rw [Thrown.drive_finish]
      have stored : scene.later w (w.updateStore fun _ => store) := sound.evolution.later_updateStore keeps
      refine ⟨.of_later _ stored, ?_⟩
      cases result with
      | error fault => exact ⟨here.alike sound stored rfl, trivial⟩
      | ok value => exact here.alike sound stored rfl
  | ask demand store abandon resume resumed =>
      obtain ⟨same, abandons, resumes⟩ := keeps
      rw [Thrown.drive_ask]
      have stored : scene.later w (w.updateStore fun _ => store) := sound.evolution.later_updateStore same
      have asking := here.alike sound stored rfl
      obtain ⟨serving, opened, counted, marked⟩ := sound.evolution.serve sound.callbacks
        scene.session scans demand (w.updateStore fun _ => store)
      have admits : scene.Admits (.asked scene.session scans demand (w.updateStore fun _ => store)) :=
        ⟨rfl, _, asking⟩
      have served : scene.At ⟨true, live + (scans.length + opened), 1⟩ (scene.callbacks.serve
          scene.session scans demand (w.updateStore fun _ => store)).2 :=
        asking.change (sound.evolution.grows serving) (marked asking.present) fun mark => by
          simp only [Mark.over, Mark.scanning, Nat.add_assoc]
      rw [← counted] at served
      have along {noted : Noted H E (Except Trouble (S × α ⊕ β) × Callbacks.Scans H)}
          (rest : scene.Along (scene.callbacks.serve scene.session scans demand
            (w.updateStore fun _ => store)).2 noted) :
          scene.Along w (Noted.andThen ⟨(), [.asked scene.session scans demand
            (w.updateStore fun _ => store)], w.updateStore fun _ => store⟩ noted) :=
        .after sound admits stored serving rest
      rcases answered : scene.callbacks.serve scene.session scans demand
        (w.updateStore fun _ => store) with ⟨⟨reply, left⟩, v⟩
      rw [answered] at served along
      cases reply with
      | ok reply =>
          obtain ⟨rest, driven⟩ := resumed reply v.store state left v served (resumes reply v.store)
          exact ⟨along rest, driven⟩
      | error failure =>
          have fails := (scene.callbacks.serve_error_iff scene.session scans demand _ failure).mp
            (congrArg (·.1.1) answered)
          have abandoned := sound.evolution.later_updateStore (abandons v.store)
          exact ⟨along (.of_later _ abandoned), served.alike sound abandoned rfl, fails.unrefused⟩
  | row values store abandon resume resumed =>
      obtain ⟨same, abandons, resumes⟩ := keeps
      rw [Thrown.drive_row]
      have stored : scene.later w (w.updateStore fun _ => store) := sound.evolution.later_updateStore same
      obtain ⟨along, offered⟩ := offers scans.length state values _ (here.alike sound stored rfl)
      generalize offer state values (w.updateStore fun _ => store) = noted at along offered ⊢
      obtain ⟨answer, events, v⟩ := noted
      have begun := (Along.of_later () stored).andThen sound along
      cases answer with
      | inl state =>
          obtain ⟨rest, driven⟩ := resumed v.store state scans v offered (resumes v.store)
          exact ⟨begun.andThen sound rest, driven⟩
      | inr exit =>
          have abandoned := sound.evolution.later_updateStore (abandons v.store)
          exact ⟨begun.andThen sound (.of_later _ abandoned),
            offered.1.alike sound abandoned rfl,
            lasts exit _ _ offered.1.present abandoned offered.2⟩

omit lasts in
theorem closeScans_runs (scans : Callbacks.Scans H) :
    scene.Runs (scene.At ⟨still, live + scans.length, 1⟩)
      (liftM (Callbacks.closeScans scene.session scans : Worldly H E Unit))
      fun _ => scene.At ⟨still, live, 1⟩ := by
  induction scans with
  | nil =>
      exact .pure sound fun _ here => here
  | cons scan rest closes =>
      have exited : scene.Runs (scene.At ⟨still, live + (rest.length + 1), 1⟩)
          (modify (World.updateStatus scene.session Status.exitIteration))
          fun _ => scene.At ⟨still, live + rest.length, 1⟩ :=
        .updateStatus (g := fun mark => { mark with iterators := mark.iterators - 1 }) sound
          (fun _ => ⟨rfl, rfl⟩) fun _ => rfl
      exact .bind sound exited fun _ => closes

include offers in
theorem run_runs (state : S) {routine : Routine E.Store α} (keeps : routine.Keeps view) :
    scene.Runs (scene.At ⟨true, live, 1⟩)
      (Thrown.run scene.callbacks scene.session offer state routine).run
      (scene.Driven live still exits) := by
  apply Runs.look
  intro w here
  have driven : scene.Runs (fun v => v = w ∧ scene.At ⟨true, live, 1⟩ v)
      (Thrown.drive scene.callbacks scene.session offer state [] (routine w.store))
      fun outcome => scene.Driven (live + outcome.2.length) still exits outcome.1 := by
    rintro v ⟨rfl, _⟩
    exact drive_along sound offers lasts (routine v.store) state [] v here (keeps v.store)
  refine .bind sound driven fun (outcome, scans) => ?_
  have closed : scene.Runs (scene.Driven (live + scans.length) still exits outcome)
      (liftM (Callbacks.closeScans scene.session scans : Worldly H E Unit))
      fun _ => scene.Driven live still exits outcome := by
    rcases outcome with trouble | (ended | exit)
    · exact (closeScans_runs sound scans).frame fun _ _ _ _ unrefused => unrefused
    · exact closeScans_runs sound scans
    · exact (closeScans_runs sound scans).frame fun w v here => lasts exit w v here.present
  exact .bind sound closed fun _ => .pure sound fun v driven => driven

end Programs

/-! ### Calls -/

variable (scene) in
/-- A call of the engine, on the connection that is lent out. The session does not refuse it. -/
def Calls (live : Nat) (call : Calling H E α) : Prop :=
  scene.Tries ⟨true, live, 1⟩ (fun trouble _ => trouble.Unrefused) call

theorem lasts_unrefused : scene.Lasts fun (trouble : Trouble) _ => trouble.Unrefused :=
  fun _ _ _ _ _ unrefused => unrefused

namespace Calls

variable {view : E.Store → τ} (sound : scene.Sound view) {live : Nat}
include sound

theorem known (result : Except EngineFault α) : scene.Calls live (Thrown.known result) := by
  cases result with
  | error fault =>
      exact Runs.pure sound fun _ here => ⟨here, trivial⟩
  | ok value =>
      exact Runs.pure sound fun _ here => here

theorem withoutPlace {call : Calling H E α} (calls : scene.Calls live call) :
    scene.Calls live (Thrown.withoutPlace call) := by
  refine Runs.bind sound calls fun result => Runs.pure sound fun w called => ?_
  cases result with
  | error trouble =>
      exact ⟨called.1, called.2.withoutPlace⟩
  | ok value =>
      exact called

theorem run {offer : S → List SqlValue → Noting H E (S ⊕ β)}
    (offers : ∀ state values live, scene.Runs (scene.At ⟨true, live, 1⟩) (offer state values)
      fun _ => scene.At ⟨true, live, 1⟩)
    (state : S) {routine : Routine E.Store α} (keeps : routine.Keeps view) :
    scene.Calls live (Thrown.run scene.callbacks scene.session offer state routine) := by
  have offered (opened : Nat) (state : S) (values : List SqlValue) :
      scene.Runs (scene.At ⟨true, live + opened, 1⟩) (offer state values)
        (scene.Offered (live + opened) true fun _ _ => True) := by
    refine (offers state values _).weaken fun answer w here => ?_
    cases answer with
    | inl state => exact here
    | inr exit => exact ⟨here, trivial⟩
  refine (run_runs sound offered (fun _ _ _ _ _ _ => trivial) state keeps).weaken ?_
  intro result w driven
  rcases result with trouble | (ended | exit)
  · exact driven
  · exact driven
  · exact driven.1

theorem settle {routine : Routine E.Store α} (keeps : routine.Keeps view) :
    scene.Calls live (Thrown.settle scene.callbacks scene.session routine) := by
  refine (run sound (fun _ _ _ => Runs.pure sound fun _ here => here) () keeps).bind sound ?_
  intro ended
  rcases ended with ⟨_, value⟩ | impossible
  · exact Tries.pure sound value
  · cases impossible

theorem first {routine : Routine E.Store α} (keeps : routine.Keeps view) :
    scene.Calls live (Thrown.first scene.callbacks scene.session routine) := by
  refine (run sound (fun _ _ _ => Runs.pure sound fun _ here => here) () keeps).bind sound ?_
  intro ended
  cases ended with
  | inl ended => exact Tries.pure sound none
  | inr values => exact Tries.pure sound (some values)

theorem collect (read : List SqlValue → Except EngineFault β) {routine : Routine E.Store α}
    (keeps : routine.Keeps view) :
    scene.Calls live (Thrown.collect scene.callbacks scene.session read routine) := by
  refine (run sound (fun rows values _ => ?_) [] keeps).bind sound fun ended => ?_
  · cases read values with
    | error fault => exact Runs.pure sound fun _ here => here
    | ok row => exact Runs.pure sound fun _ here => here
  · cases ended with
    | inl ended => exact Tries.pure sound ended.1.reverse
    | inr fault => exact known sound (.error fault)

theorem hold (text : String) :
    scene.Calls live (Thrown.hold scene.callbacks scene.session text) := by
  apply Tries.look
  intro w
  cases (w.session scene.session).kept? text with
  | some info =>
      exact Tries.silent sound
        (Runs.updateSession sound (g := id) (fun _ => ⟨rfl, rfl⟩) fun _ => rfl)
        fun _ => Tries.pure sound _
  | none =>
      exact (settle sound (sound.engine.prepare _ text)).bind sound fun _ => Tries.pure sound _

theorem refresh (info : StatementInfo) :
    Steady scene.later (Callbacks.refresh scene.session info : Worldly H E Bool) := by
  apply Evolution.get_bind
  intro w
  split
  · have refreshed : Steady scene.later
        (modify (World.updateStore (E.refresh scene.session)) : Worldly H E Unit) :=
      fun w => ⟨sound.evolution.later_updateStore (sound.engine.refresh _ _), rfl⟩
    exact sound.evolution.bind refreshed fun _ => sound.evolution.pure _
  · exact sound.evolution.pure _

theorem renew (text : String) (held : HeldStatement E) :
    scene.Calls live (Thrown.renew scene.callbacks scene.session text held) := by
  refine Tries.silent sound (.steady sound (refresh sound held.info)) fun isOutdated => ?_
  have prepared : scene.Calls live (Thrown.withoutPlace
      (Thrown.settle scene.callbacks scene.session (E.prepare scene.session text))) :=
    (settle sound (sound.engine.prepare scene.session text)).withoutPlace sound
  cases held.compiled with
  | none =>
      exact prepared
  | some statement =>
      cases isOutdated with
      | false => exact Tries.pure sound statement
      | true => exact prepared

theorem renewed (text : String) (statement : E.Statement) :
    scene.Calls live (Thrown.renewed scene.callbacks scene.session text statement) := by
  refine Tries.silent sound (.steady sound (refresh sound (E.info statement))) fun isOutdated => ?_
  cases isOutdated with
  | false =>
      exact Tries.pure sound statement
  | true =>
      exact withoutPlace sound ((settle sound (sound.engine.compile _ text)).bind sound
        fun _ => Tries.pure sound _)

theorem batch (fuel : Nat) (text : String) :
    scene.Calls live (Thrown.batch scene.callbacks scene.session fuel text) := by
  induction fuel generalizing text with
  | zero =>
      exact Tries.pure sound ()
  | succ fuel rest =>
      unfold Thrown.batch
      split
      · exact Tries.pure sound ()
      · refine (settle sound (sound.engine.compile _ text)).bind sound fun compiled => ?_
        obtain ⟨statement, remaining⟩ := compiled
        dsimp only
        split
        · exact rest remaining
        · refine (renewed sound text statement).bind sound fun statement => ?_
          refine (first sound (sound.engine.execute _ statement [])).bind sound fun _ => ?_
          exact rest remaining

/-- A statement is given back, whatever has become of its run. -/
theorem withEngine {s : Statement} (same : s.session = scene.session) (values : List SqlValue)
    {use : List String → E.Statement → List SqlValue → Calling H E α}
    (uses : ∀ columns statement values, scene.Calls live (use columns statement values)) :
    scene.Calls live (Thrown.withEngine scene.callbacks s values use) := by
  have stepped (held : HeldStatement E) :
      scene.Runs (scene.At ⟨true, live, 1⟩) (Thrown.stepped scene.callbacks s values use held)
        fun outcome =>
          scene.Tried ⟨true, live, 1⟩ (fun trouble _ => trouble.Unrefused) outcome.2 := by
    unfold Thrown.stepped
    cases held.info.bind values with
    | error fault =>
        exact Runs.pure sound fun _ here => ⟨here, trivial⟩
    | ok values =>
        rw [same]
        refine Runs.bind sound (renew sound s.text held) fun result => ?_
        cases result with
        | error trouble =>
            exact Runs.pure sound fun _ called => called
        | ok statement =>
            exact Runs.bind sound (uses held.info.columns statement values) fun _ =>
              Runs.pure sound fun _ called => called
  unfold Thrown.withEngine
  rw [same]
  refine (hold sound s.text).bind sound fun held => ?_
  refine Runs.bind sound (stepped held) fun (info, result) => ?_
  exact Runs.bind sound ((Runs.keep sound s.text info).tried lasts_unrefused result)
    fun _ => Runs.pure sound fun _ called => called

end Calls

end Scene

end RowSource
