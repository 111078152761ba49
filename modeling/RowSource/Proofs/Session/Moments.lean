import RowSource.Proofs.Session.Lawful
import RowSource.Proofs.Session.Restored

/-!
# Moments

Host code runs at the top, inside a demand that an operation makes, or inside an iteration that has
handed it a row; and all that may be nested. A moment is a world in which it runs, with the calls of
host code that have not come back. What the marks say in that world is read off from these calls.
-/

namespace RowSource

variable {H : Host} {E : Engine} {α τ : Type}

/-- A call of host code on behalf of a session: to serve a demand, or with a row of an iteration. -/
inductive Frame where
  | called (session : Nat)
  | iterating (session : Nat)
  deriving DecidableEq

def Frame.session : Frame → Nat
  | .called id | .iterating id => id

@[simp]
theorem Frame.session_called (id : Nat) : (Frame.called id).session = id := rfl

@[simp]
theorem Frame.session_iterating (id : Nat) : (Frame.iterating id).session = id := rfl

/-- The moments of a host from some world on, with the calls that have not come back, the innermost
first. Host code may run inside every demand. -/
inductive HostCode.Reaches (host : HostCode H E) (start : World H E) :
    Nat → List Frame → World H E → Prop where
  | start (depth : Nat) : host.Reaches start depth [] start
  | act {depth : Nat} {frames : List Frame} {w : World H E} {α : Type}
      {action : Worldly H E α} :
      host.Reaches start depth frames w → HostAction (host.callbacks depth) action →
      host.Reaches start depth frames (action w).2
  | called {depth : Nat} {frames : List Frame} {w v : World H E} {operation : Operation H E}
      {id : Nat} {scans : Callbacks.Scans H} {demand : Demand} :
      host.Reaches start (depth + 1) frames w → operation.Made (host.callbacks (depth + 1)) →
      .asked id scans demand v ∈ ((operation.thrown (host.callbacks (depth + 1))).run w).events →
      host.Reaches start depth (.called id :: frames) v
  | handed {depth : Nat} {frames : List Frame} {w v : World H E} {operation : Operation H E} :
      host.Reaches start depth frames w → operation.Made (host.callbacks depth) →
      .handed v ∈ ((operation.thrown (host.callbacks depth)).run w).events →
      host.Reaches start depth (.iterating operation.session :: frames) v

/-- The marks say which calls have not come back. -/
structure Marks.Tell (marks : Marks) (frames : List Frame) : Prop where
  busy (id : Nat) : (marks id).isBusy = true ↔ .called id ∈ frames
  iterating (id : Nat) : frames.count (.iterating id) ≤ (marks id).iterators
  lent (id : Nat) : (marks id).borrowers = frames.countP fun frame => frame.session = id
  /-- No other call on a session is made inside one that keeps it busy. -/
  innermost (id : Nat) : .called id ∈ frames →
    frames.find? (fun frame => frame.session = id) = some (.called id)

namespace Marks.Tell

variable {marks : Marks} {frames : List Frame} {id : Nat}

theorem none (marks : Marks) (unmarked : ∀ id, marks id = ⟨false, 0, 0⟩) : marks.Tell [] where
  busy id := by simp [unmarked]
  iterating id := Nat.zero_le _
  lent id := by simp [unmarked]
  innermost id member := nomatch member

theorem called (tell : marks.Tell frames) (live : Nat) :
    (marks.change id (Mark.over ⟨true, live, 1⟩)).Tell (.called id :: frames) where
  busy other := by
    by_cases same : other = id
    · simp [same, change_same, Mark.over]
    · simp [change_other same, tell.busy, same]
  iterating other := by
    have counted : (Frame.called id :: frames).count (.iterating other) =
        frames.count (.iterating other) := List.count_cons_of_ne (by simp)
    rw [counted]
    by_cases same : other = id
    · rw [same, change_same]
      exact Nat.le_add_right_of_le (tell.iterating id)
    · rw [change_other same]
      exact tell.iterating other
  lent other := by
    by_cases same : other = id
    · simp [same, change_same, Mark.over, tell.lent]
    · simp [change_other same, tell.lent, Ne.symm same]
  innermost other member := by
    by_cases same : other = id
    · simp [same]
    · have inside : .called other ∈ frames := by simpa [same] using member
      simp [Ne.symm same, tell.innermost other inside]

theorem handed (tell : marks.Tell frames) (idle : (marks id).isBusy = false) {live : Nat}
    (within : 0 < live) :
    (marks.change id (Mark.over ⟨false, live, 1⟩)).Tell (.iterating id :: frames) where
  busy other := by
    by_cases same : other = id
    · have uncalled : .called id ∉ frames := fun member => by
        rw [(tell.busy id).mpr member] at idle
        cases idle
      simp [same, change_same, Mark.over, uncalled]
    · simp [change_other same, tell.busy]
  iterating other := by
    by_cases same : other = id
    · rw [same, List.count_cons_self, change_same]
      exact Nat.add_le_add (tell.iterating id) within
    · have counted : (Frame.iterating id :: frames).count (.iterating other) =
          frames.count (.iterating other) :=
        List.count_cons_of_ne (by simp [Ne.symm same])
      rw [counted, change_other same]
      exact tell.iterating other
  lent other := by
    by_cases same : other = id
    · simp [same, change_same, Mark.over, tell.lent]
    · simp [change_other same, tell.lent, Ne.symm same]
  innermost other member := by
    have inside : .called other ∈ frames := by simpa using member
    by_cases same : other = id
    · rw [same] at inside
      rw [(tell.busy id).mpr inside] at idle
      cases idle
    · simp [Ne.symm same, tell.innermost other inside]

/-- The innermost call on a session says whether it is busy. -/
theorem idle_of_iterating (tell : marks.Tell frames)
    (innermost : frames.find? (fun frame => frame.session = id) = some (.iterating id)) :
    (marks id).isBusy = false := by
  cases busy : (marks id).isBusy with
  | false => rfl
  | true =>
      have called := tell.innermost id ((tell.busy id).mp busy)
      rw [innermost] at called
      cases called

end Marks.Tell

namespace HostCode.Admissible

variable {host : HostCode H E} (admissible : host.Admissible) {view : E.Store → τ}

section Operations

variable {later : World H E → World H E → Prop} (evolution : Evolution view later)
  (engine : E.StatementsKeep view)
include admissible evolution engine

theorem steady_operation {depth : Nat} {operation : Operation H E}
    (made : operation.Made (host.callbacks depth)) : operation.Steady later := by
  cases operation with
  | prepare id sql => exact trivial
  | registerTable id name factory eponymous => exact trivial
  | execute call =>
      rcases call with ⟨id, sql⟩ | ⟨s, params⟩ | ⟨s, params, fetch⟩
      · exact trivial
      · exact trivial
      · cases fetch with
        | first => exact trivial
        | all => exact trivial
        | iterate body =>
            exact fun row => admissible.steady_action evolution engine (made row)

theorem thrown_along {depth : Nat} {operation : Operation H E}
    (made : operation.Made (host.callbacks depth)) (w : World H E) :
    let scene := operation.scene (host.callbacks depth) later w
    let noted := (operation.thrown (host.callbacks depth)).run w
    scene.Along w noted ∧ noted.world.marks = w.marks ∧
      ∀ values, operation.admitted (w.session operation.session) = .ok values →
        ∀ failure, noted.result = .error failure → scene.Ends failure noted.world :=
  operation.thrown_along evolution (admissible.steady evolution engine depth) engine
    (admissible.steady_operation evolution engine made) w

/-- Every moment is later than the first. From an unmarked world on, the marks say at every moment
which calls have not come back. -/
theorem moments_along {start w : World H E} (unmarked : ∀ id, start.marks id = ⟨false, 0, 0⟩)
    {depth : Nat} {frames : List Frame} (reaches : host.Reaches start depth frames w) :
    later start w ∧ w.marks.Tell frames := by
  -- Host code gives back the marks it takes, so only a call that is entered changes what they say.
  induction reaches with
  | start depth =>
      exact ⟨evolution.refl start, .none _ unmarked⟩
  | act _ hosted reached =>
      obtain ⟨since, same⟩ := admissible.steady_action evolution engine hosted _
      rw [same]
      exact ⟨evolution.trans reached.1 since, reached.2⟩
  | called _ made asked reached =>
      obtain ⟨along, _⟩ := admissible.thrown_along evolution engine made _
      obtain ⟨rfl, live, here⟩ := along.admits _ asked
      refine ⟨evolution.trans reached.1 (along.reached _ asked), ?_⟩
      rw [here.marked]
      exact reached.2.called live
  | handed _ made handed reached =>
      obtain ⟨along, _⟩ := admissible.thrown_along evolution engine made _
      obtain ⟨live, within, here⟩ := along.admits _ handed
      refine ⟨evolution.trans reached.1 (along.reached _ handed), ?_⟩
      rw [here.marked]
      obtain ⟨values, admitted⟩ := Operation.admitted_of_mem_events handed
      exact reached.2.handed (Operation.available_of_admitted admitted).2 within

end Operations

variable {law : World H E → Prop} (obeys : Law view law) (engine : E.Keeps view)
include admissible obeys engine

/-- At every moment from an unmarked world on, the marks say which calls have not come back. -/
theorem moments {start w : World H E} (unmarked : ∀ id, start.marks id = ⟨false, 0, 0⟩)
    {depth : Nat} {frames : List Frame} (reaches : host.Reaches start depth frames w) :
    start.Leads law w ∧ w.marks.Tell frames :=
  admissible.moments_along (World.Leads.evolution obeys engine) engine.toStatementsKeep unmarked
    reaches

end HostCode.Admissible

end RowSource
