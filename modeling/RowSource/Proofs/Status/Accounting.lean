import RowSource.Proofs.Scan.Holdings

/-!
# Accounting for guards

A status counts its iterators and knows whether it is busy, but not who holds the guards for that. They
are dropped in any order, and nothing but the status is asked when one is taken. So what it says must be
what the live guards and scans come to, after every step.
-/

namespace RowSource

variable {F G S M : Type}

namespace Status

namespace Step

def closes : Step → Bool
  | .markClosed => true
  | _ => false

end Step

/-- What a plain step leaves of the marks. -/
theorem plainStep_marks (status : Status) {step : Step} (plain : step.IsPlain) :
    (status.plainStep step).2.iterators = status.iterators ∧
      (status.plainStep step).2.isBusy = status.isBusy ∧
      (status.plainStep step).2.isOpen = (status.isOpen && !step.closes) := by
  have unmoved : status.isOpen = (status.isOpen && true) := (Bool.and_true _).symm
  cases step with
  | markBusy | releaseBusy => exact plain.elim
  | enterIteration id => exact plain.elim
  | exitIteration id => exact plain.elim
  | markClosed => exact ⟨rfl, rfl, (Bool.and_false _).symm⟩
  | deferFailure failure =>
      simp only [plainStep, Guarded.step, deferFailure]
      cases status.pending <;> exact ⟨rfl, rfl, unmoved⟩
  | _ => exact ⟨rfl, rfl, unmoved⟩

end Status

namespace Holdings

/-- The number of guards of iterations and of scans that are live. -/
def live (h : Holdings G S M) : Nat :=
  h.iterationGuards.count true + h.scans.countP Option.isSome

structure Accounted (h : Holdings G S M) : Prop where
  iterators : h.status.iterators = h.live
  held : h.busyGuards.count true = if h.status.isBusy then 1 else 0

theorem count_drop {guards : List Bool} {guard : Nat} (held : guards[guard]? = some true) :
    (guards.set guard false).count true + 1 = guards.count true := by
  obtain ⟨within, atGuard⟩ := List.getElem?_eq_some_iff.mp held
  have some : 0 < guards.count true := List.count_pos_iff.mpr (List.mem_of_getElem? held)
  rw [List.count_set within, atGuard]
  simp
  omega

theorem countP_drop {α : Type} {scans : List (Option α)} {scan : Nat} {value : α}
    (held : scans[scan]? = some (some value)) :
    (scans.set scan none).countP Option.isSome + 1 = scans.countP Option.isSome := by
  obtain ⟨within, atScan⟩ := List.getElem?_eq_some_iff.mp held
  have some : 0 < scans.countP Option.isSome :=
    List.countP_pos_iff.mpr ⟨_, List.mem_of_getElem? held, rfl⟩
  rw [List.countP_set within, atScan]
  simp
  omega

theorem countP_keep {α : Type} {scans : List (Option α)} {scan : Nat} {value next : α}
    (held : scans[scan]? = some (some value)) :
    (scans.set scan (some next)).countP Option.isSome = scans.countP Option.isSome := by
  obtain ⟨within, atScan⟩ := List.getElem?_eq_some_iff.mp held
  have some : 0 < scans.countP Option.isSome :=
    List.countP_pos_iff.mpr ⟨_, List.mem_of_getElem? held, rfl⟩
  rw [List.countP_set within, atScan]
  simp
  omega

theorem live_enter (h : Holdings G S M) : h.enter.live = h.live + 1 := by
  simp only [live, enter, List.count_append, List.count_singleton_self]
  omega

theorem live_leave {h : Holdings G S M} {guard : Nat}
    (held : h.iterationGuards[guard]? = some true) : (h.leave guard).live + 1 = h.live := by
  have dropped := count_drop held
  simp only [live, leave]
  omega

namespace Accounted

variable {h : Holdings G S M}

theorem fresh (unsafeMode : Bool) (mode : IntegerMode) (memory : M) :
    ({ status := { unsafeMode := unsafeMode, integerMode := mode }, memory := memory } :
      Holdings G S M).Accounted :=
  ⟨rfl, rfl⟩

theorem enter (accounted : h.Accounted) : h.enter.Accounted where
  iterators := by
    rw [live_enter, ← accounted.iterators]
    rfl
  held := accounted.held

theorem leave (accounted : h.Accounted) {guard : Nat}
    (held : h.iterationGuards[guard]? = some true) :
    (h.leave guard).Accounted ∧ (h.leave guard).status.iterators + 1 = h.status.iterators := by
  have dropped := live_leave held
  have counted := accounted.iterators
  have left : (h.leave guard).status.iterators = h.status.iterators - 1 := rfl
  refine ⟨⟨by omega, accounted.held⟩, by omega⟩

/-- A guard that takes the place of another: the count goes up before it goes down. -/
theorem replace (accounted : h.Accounted) {guard : Nat}
    (held : h.iterationGuards[guard]? = some true) :
    (h.enter.leave guard).Accounted ∧
      (h.enter.leave guard).status.iterators = h.status.iterators := by
  obtain ⟨within, -⟩ := List.getElem?_eq_some_iff.mp held
  have stillHeld : h.enter.iterationGuards[guard]? = some true :=
    (List.getElem?_append_left within).trans held
  obtain ⟨left, counted⟩ := accounted.enter.leave stillHeld
  exact ⟨left, Nat.succ.inj counted⟩

theorem busy (accounted : h.Accounted) (idle : h.status.isBusy = false) :
    ({ h with
      status := { h.status with isBusy := true }, busyGuards := h.busyGuards ++ [true] } :
      Holdings G S M).Accounted := by
  have unheld := accounted.held
  rw [idle, if_neg Bool.false_ne_true] at unheld
  refine ⟨accounted.iterators, ?_⟩
  simp [List.count_append, unheld]

theorem idle (accounted : h.Accounted) {guard : Nat}
    (held : h.busyGuards[guard]? = some true) :
    ({ h with status := h.status.clearBusy, busyGuards := h.busyGuards.set guard false } :
      Holdings G S M).Accounted := by
  have dropped := count_drop held
  have counted := accounted.held
  refine ⟨accounted.iterators, ?_⟩
  change (h.busyGuards.set guard false).count true = 0
  split at counted <;> omega

theorem opened (accounted : h.Accounted) (table : ConnectedTable G) :
    ({ h with
      status := h.status.enterIteration, scans := h.scans ++ [some (.idle table)] } :
      Holdings G S M).Accounted := by
  have counted := accounted.iterators
  refine ⟨?_, accounted.held⟩
  simp only [live, Status.enterIteration, List.countP_append] at counted ⊢
  simp
  omega

theorem dropped (accounted : h.Accounted) {number : Nat} {scan : Scan G S}
    (held : h.scans[number]? = some (some scan)) :
    ({ h with status := h.status.exitIteration, scans := h.scans.set number none } :
      Holdings G S M).Accounted ∧ h.status.exitIteration.iterators + 1 = h.status.iterators := by
  have dropped := countP_drop held
  have counted := accounted.iterators
  simp only [live] at counted
  refine ⟨⟨?_, accounted.held⟩, ?_⟩
  · simp only [live, Status.exitIteration]
    omega
  · simp only [Status.exitIteration]
    omega

theorem used (accounted : h.Accounted) {number : Nat} {scan : Scan G S}
    (held : h.scans[number]? = some (some scan)) (next : Scan G S) (memory : M) :
    ({ h with memory := memory, scans := h.scans.set number (some next) } :
      Holdings G S M).Accounted := by
  refine ⟨?_, accounted.held⟩
  have kept : (h.scans.set number (some next)).countP Option.isSome =
      h.scans.countP Option.isSome := countP_keep held
  simp only [live, kept]
  exact accounted.iterators

theorem other (accounted : h.Accounted) {step : Status.Step} (plain : step.IsPlain) :
    ({ h with status := (h.status.plainStep step).2 } : Holdings G S M).Accounted := by
  obtain ⟨iterators, isBusy, -⟩ := h.status.plainStep_marks plain
  refine ⟨iterators.trans accounted.iterators, ?_⟩
  rw [isBusy]
  exact accounted.held

theorem comes (accounted : h.Accounted) {host : TableHost F G S M} {step : Step F}
    {answer : Answer G S} {next : Holdings G S M} (comes : h.Comes host step answer next) :
    next.Accounted := by
  cases comes with
  | missing unheld => exact accounted
  | refused isBusy => exact accounted
  | busy idle => exact accounted.busy idle
  | idle held => exact accounted.idle held
  | entered => exact accounted.enter
  | left held => exact (accounted.leave held).1
  | replaced held => exact (accounted.replace held).1
  | unconnected refused => exact ⟨accounted.iterators, accounted.held⟩
  | connected accepted => exact ⟨accounted.iterators, accounted.held⟩
  | opened held => exact accounted.opened _
  | dropped held => exact (accounted.dropped held).1
  | used held called => exact accounted.used held _ _
  | other step plain => exact accounted.other plain

theorem after (host : TableHost F G S M) (accounted : h.Accounted) (steps : List (Step F)) :
    (h.after host steps).Accounted :=
  after_of_comes (fun accounted comes => Accounted.comes accounted comes) accounted steps

theorem isBusy_iff (accounted : h.Accounted) : h.status.isBusy = true ↔ true ∈ h.busyGuards := by
  have counted := accounted.held
  rw [← List.count_pos_iff]
  cases isBusy : h.status.isBusy with
  | true => simp [counted, isBusy]
  | false => simp [counted, isBusy]

end Accounted

theorem takeBusy_refused_iff (host : TableHost F G S M) (h : Holdings G S M) :
    h.step host .takeBusy = (.failed (.refused .busy), h) ↔ h.status.isBusy = true := by
  cases isBusy : h.status.isBusy with
  | true => simp [step, Status.markBusy, isBusy]
  | false => simp [step, Status.markBusy, isBusy]

/-! ### Taking -/

/-- Steps that take a guard or open a scan, where nothing is in the way. -/
def Takes (h : Holdings G S M) : Step F → Prop
  | .takeBusy => true ∉ h.busyGuards
  | .takeIteration => True
  | .replaceIteration guard => h.iterationGuards[guard]? = some true
  | .openScan table => h.tables[table]?.isSome
  | _ => False

/-- A step has answered with the guard that it took or the scan that it opened, and that is live. -/
def Brought (h : Holdings G S M) : Step F → Answer G S → Prop
  | .takeBusy, .taken guard => h.busyGuards[guard]? = some true
  | .takeIteration, .taken guard | .replaceIteration _, .taken guard =>
      h.iterationGuards[guard]? = some true
  | .openScan _, .opened scan => ∃ held, h.scans[scan]? = some (some held)
  | _, _ => False

theorem Accounted.brought (host : TableHost F G S M) {h : Holdings G S M}
    (accounted : h.Accounted) {step : Step F} (takes : h.Takes step) :
    (h.step host step).2.Brought step (h.step host step).1 := by
  cases step with
  | takeBusy =>
      have idle : h.status.isBusy = false := Bool.eq_false_iff.mpr (mt accounted.isBusy_iff.mp takes)
      simp only [Holdings.step, Status.markBusy, idle]
      exact List.getElem?_concat_length
  | takeIteration =>
      exact List.getElem?_concat_length
  | replaceIteration guard =>
      have held : h.iterationGuards[guard]? = some true := takes
      obtain ⟨within, -⟩ := List.getElem?_eq_some_iff.mp held
      simp only [Holdings.step, if_pos held]
      exact (List.getElem?_set_ne (Nat.ne_of_lt within)).trans List.getElem?_concat_length
  | openScan table =>
      obtain ⟨connected, held⟩ := Option.isSome_iff_exists.mp takes
      rw [openScan_of_held held]
      exact ⟨_, List.getElem?_concat_length⟩
  | _ => exact takes.elim

/-! ### Closing -/

/-- Steps that close the session. -/
def Step.closes : Step F → Bool
  | .other step _ => step.closes
  | _ => false

/-- What a step that closes the session was told: whether it was the one that did. -/
def closing? : Step F × Answer G S → Option Bool
  | (.other .markClosed _, .told (.flag first)) => some first
  | _ => none

def closings (host : TableHost F G S M) (h : Holdings G S M) (steps : List (Step F)) : List Bool :=
  (h.run host steps).filterMap closing?

/-- The answers of which the first is true and no other. -/
def onlyFirst : Nat → List Bool
  | 0 => []
  | later + 1 => true :: List.replicate later false

theorem isOpen_comes {host : TableHost F G S M} {h next : Holdings G S M} {step : Step F}
    {answer : Answer G S} (comes : h.Comes host step answer next) :
    next.status.isOpen = (h.status.isOpen && !step.closes) := by
  have unmoved : h.status.isOpen = (h.status.isOpen && true) := (Bool.and_true _).symm
  cases comes with
  | missing unheld =>
      cases step with
      | other step plain => exact unheld.elim
      | _ => exact unmoved
  | other step plain => exact (h.status.plainStep_marks plain).2.2
  | _ => exact unmoved

theorem isOpen_after (host : TableHost F G S M) (h : Holdings G S M) (steps : List (Step F)) :
    (h.after host steps).status.isOpen = (h.status.isOpen && !steps.any Step.closes) := by
  induction steps using List.reverseRecOn with
  | nil =>
      exact (Bool.and_true _).symm
  | append_singleton steps last ih =>
      rw [after_concat, isOpen_comes (step_comes host _ last), ih]
      simp [Bool.and_assoc]

theorem closing?_step (host : TableHost F G S M) (h : Holdings G S M) (step : Step F) :
    closing? (step, (h.step host step).1) =
      if step.closes then some h.status.isOpen else none := by
  cases step with
  | other step plain => cases step <;> rfl
  | _ => rfl

theorem closings_cons (host : TableHost F G S M) (h : Holdings G S M) (step : Step F)
    (rest : List (Step F)) :
    h.closings host (step :: rest) =
      (if step.closes then [h.status.isOpen] else []) ++
        (h.step host step).2.closings host rest := by
  have told := closing?_step host h step
  unfold closings
  rw [run_cons]
  cases closes : step.closes with
  | true =>
      rw [closes, if_pos rfl] at told
      rw [List.filterMap_cons_some told]
      rfl
  | false =>
      rw [closes, if_neg Bool.false_ne_true] at told
      rw [List.filterMap_cons_none told]
      rfl

theorem closings_of_closed (host : TableHost F G S M) {h : Holdings G S M}
    (closed : h.status.isOpen = false) (steps : List (Step F)) :
    h.closings host steps = List.replicate (steps.countP Step.closes) false := by
  induction steps generalizing h with
  | nil =>
      rfl
  | cons step rest ih =>
      have later : (h.step host step).2.status.isOpen = false := by
        rw [isOpen_comes (step_comes host h step), closed, Bool.false_and]
      rw [closings_cons, ih later, List.countP_cons, closed]
      cases step.closes with
      | true => exact List.replicate_succ.symm
      | false => rfl

theorem closings_of_open (host : TableHost F G S M) {h : Holdings G S M}
    (opened : h.status.isOpen = true) (steps : List (Step F)) :
    h.closings host steps = onlyFirst (steps.countP Step.closes) := by
  induction steps generalizing h with
  | nil =>
      rfl
  | cons step rest ih =>
      have later := isOpen_comes (step_comes host h step)
      rw [opened, Bool.true_and] at later
      rw [closings_cons, List.countP_cons, opened]
      cases closes : step.closes with
      | true =>
          rw [closes] at later
          rw [closings_of_closed host later]
          rfl
      | false =>
          rw [closes] at later
          rw [ih later]
          rfl

/-- From the opening of a session on, after any steps: the status counts the live guards of iterations
and the live scans, and dropping one of them takes exactly one off the count. A guard that is taken and a
scan that is opened are live. The status is busy just as long as a busy guard is live, there is one at
most, and just then an attempt to take another is refused, which changes nothing. The session is open until it is closed the first time, and that time alone is told that it
closed it. A check for iterators fails with their number unless there are none, and with unsafe mode it
can be waived. -/
theorem accounted_for (host : TableHost F G S M) (unsafeMode : Bool) (mode : IntegerMode)
    (memory : M) (steps : List (Step F)) :
    let start : Holdings G S M :=
      { status := { unsafeMode := unsafeMode, integerMode := mode }, memory := memory }
    let now := start.after host steps
    now.status.iterators = now.live ∧
    (∀ guard, now.iterationGuards[guard]? = some true →
      (now.step host (.dropIteration guard)).2.status.iterators + 1 = now.status.iterators ∧
      (now.step host (.replaceIteration guard)).2.status.iterators = now.status.iterators) ∧
    (∀ number scan, now.scans[number]? = some (some scan) →
      (now.step host (.dropScan number)).2.status.iterators + 1 = now.status.iterators) ∧
    (∀ step, now.Takes step → (now.step host step).2.Brought step (now.step host step).1) ∧
    (now.status.isBusy = true ↔ true ∈ now.busyGuards) ∧
    now.busyGuards.count true ≤ 1 ∧
    (now.step host .takeBusy = (.failed (.refused .busy), now) ↔ true ∈ now.busyGuards) ∧
    now.status.isOpen = !steps.any Step.closes ∧
    start.closings host steps = onlyFirst (steps.countP Step.closes) ∧
    now.status.requireNoIterators =
      (if now.live = 0 then .ok () else .error (.refused (.iteratorsActive now.live))) ∧
    now.status.requireNoIteratorsUnlessUnsafe =
      (if now.status.unsafeMode then .ok () else now.status.requireNoIterators) := by
  intro start now
  have accounted : now.Accounted := (Accounted.fresh unsafeMode mode memory).after host steps
  refine ⟨accounted.iterators, ?_, ?_, fun step takes => accounted.brought host takes,
    accounted.isBusy_iff, ?_, ?_, isOpen_after host start steps,
    closings_of_open host rfl steps, ?_, rfl⟩
  · intro guard held
    simp only [step, if_pos held]
    exact ⟨(accounted.leave held).2, (accounted.replace held).2⟩
  · intro number scan held
    rw [dropScan_of_held held]
    exact (accounted.dropped held).2
  · rw [accounted.held]
    split <;> omega
  · exact (now.takeBusy_refused_iff host).trans accounted.isBusy_iff
  · unfold Status.requireNoIterators
    rw [accounted.iterators]

end Holdings

end RowSource
