import Mathlib.Data.List.Induction
import RowSource.Proofs.Scan.Recorded
import RowSource.Status.Trace

/-!
# What is held on a status

All that has to do with a session holds on to its one status: the guards of busy periods and of
iterations, the tables and the scans. Here they are kept beside the status, and a step takes, uses or
drops any of them, in any order. Each goes by its place among those of its kind that were ever taken, so
that nothing takes the place of what was dropped.
-/

namespace RowSource

variable {F G S M : Type}

/-! ### Calls of a scan -/

namespace Scan

inductive Call where
  | start (number : Int32) (values : List SqlValue)
  | next
  | isEnded
  | column (position : Int)
  | rowid

inductive Reply where
  | done (result : Except Failure Unit)
  | ended (answer : Bool)
  | value (result : Except Failure SqlValue)
  | row (identifier : Int)

def call {m : Type → Type} [Monad m] (run : Generation m G S) (scan : Scan G S) :
    Call → m (Reply × Scan G S)
  | .start number values => do
      let (result, scan) ← scan.start run number values
      return (.done result, scan)
  | .next => do
      let (result, scan) ← scan.next run
      return (.done result, scan)
  | .isEnded => return (.ended scan.ended, scan)
  | .column position => return (.value (scan.column position), scan)
  | .rowid => return (.row scan.rowid, scan)

end Scan

/-- Factories and generators, with a memory of their own. -/
structure TableHost (F G S M : Type) where
  define : F → List String → StateM M (Except HostError (Definition G))
  generation : Generation (StateM M) G S

/-- Steps that take no guard and drop none. -/
def Status.Step.IsPlain : Status.Step → Prop
  | .markBusy | .releaseBusy | .enterIteration _ | .exitIteration _ => False
  | _ => True

/-- A plain step, whatever guards there are. -/
def Status.plainStep (status : Status) (step : Status.Step) : Answer × Status :=
  let (answer, guarded) := ({ status := status } : Guarded).step step
  (answer, guarded.status)

/-- A status with what is held on it. -/
structure Holdings (G S M : Type) where
  status : Status
  memory : M
  /-- Of each guard that was taken, whether it is still held. -/
  busyGuards : List Bool := []
  iterationGuards : List Bool := []
  tables : List (ConnectedTable G) := []
  /-- The scans that were opened, without those that were dropped. -/
  scans : List (Option (Scan G S)) := []

namespace Holdings

inductive Step (F : Type) where
  | takeBusy
  | dropBusy (guard : Nat)
  | takeIteration
  | dropIteration (guard : Nat)
  /-- Takes a guard and puts it in the place of another, which is dropped then. -/
  | replaceIteration (guard : Nat)
  | connect (module : TableModule F) (args : List String)
  | openScan (table : Nat)
  | dropScan (scan : Nat)
  | use (scan : Nat) (call : Scan.Call)
  | other (step : Status.Step) (plain : step.IsPlain)

inductive Answer (G S : Type) where
  | taken (guard : Nat)
  | dropped
  | connected (table : Nat) (connected : Connected G)
  | opened (scan : Nat)
  /-- The reply of a scan, with the calls of host code that it took. -/
  | replied (reply : Scan.Reply) (calls : List (HostCall G S))
  | failed (failure : Failure)
  | told (answer : Status.Answer)
  /-- What the step is about is not held. -/
  | missing

def enter (h : Holdings G S M) : Holdings G S M :=
  { h with status := h.status.enterIteration, iterationGuards := h.iterationGuards ++ [true] }

def leave (guard : Nat) (h : Holdings G S M) : Holdings G S M :=
  { h with
    status := h.status.exitIteration, iterationGuards := h.iterationGuards.set guard false }

def step (host : TableHost F G S M) (h : Holdings G S M) :
    Step F → Answer G S × Holdings G S M
  | .takeBusy =>
      match h.status.markBusy with
      | .error failure => (.failed failure, h)
      | .ok status =>
          (.taken h.busyGuards.length,
            { h with status := status, busyGuards := h.busyGuards ++ [true] })
  | .dropBusy guard =>
      if h.busyGuards[guard]? = some true then
        (.dropped,
          { h with status := h.status.clearBusy, busyGuards := h.busyGuards.set guard false })
      else (.missing, h)
  | .takeIteration => (.taken h.iterationGuards.length, h.enter)
  | .dropIteration guard =>
      if h.iterationGuards[guard]? = some true then (.dropped, h.leave guard) else (.missing, h)
  | .replaceIteration guard =>
      if h.iterationGuards[guard]? = some true then
        (.taken h.iterationGuards.length, h.enter.leave guard)
      else (.missing, h)
  | .connect module args =>
      match module.connect host.define (return h.status.integerMode) args h.memory with
      | (.error failure, memory) => (.failed failure, { h with memory := memory })
      | (.ok connected, memory) =>
          (.connected h.tables.length connected,
            { h with memory := memory, tables := h.tables ++ [connected.table] })
  | .openScan table =>
      match h.tables[table]? with
      | none => (.missing, h)
      | some table =>
          (.opened h.scans.length,
            { h with
              status := h.status.enterIteration, scans := h.scans ++ [some (.idle table)] })
  | .dropScan scan =>
      match h.scans[scan]? with
      | some (some _) =>
          (.dropped, { h with status := h.status.exitIteration, scans := h.scans.set scan none })
      | _ => (.missing, h)
  | .use scan call =>
      match h.scans[scan]? with
      | some (some used) =>
          let ((reply, used), recorded) := used.call host.generation.recorded call ⟨h.memory, []⟩
          (.replied reply recorded.calls,
            { h with memory := recorded.world, scans := h.scans.set scan (some used) })
      | _ => (.missing, h)
  | .other step _ =>
      let (answer, status) := h.status.plainStep step
      (.told answer, { h with status := status })

/-- What a step is about is not held. -/
def Unheld (h : Holdings G S M) : Step F → Prop
  | .dropBusy guard => h.busyGuards[guard]? ≠ some true
  | .dropIteration guard | .replaceIteration guard => h.iterationGuards[guard]? ≠ some true
  | .openScan table => h.tables[table]? = none
  | .dropScan scan | .use scan _ => ∀ held, h.scans[scan]? ≠ some (some held)
  | _ => False

/-- All that a step can come to. -/
inductive Comes (host : TableHost F G S M) (h : Holdings G S M) :
    Step F → Answer G S → Holdings G S M → Prop where
  | missing {step : Step F} : h.Unheld step → Comes host h step .missing h
  | refused : h.status.isBusy = true → Comes host h .takeBusy (.failed (.refused .busy)) h
  | busy : h.status.isBusy = false →
      Comes host h .takeBusy (.taken h.busyGuards.length)
        { h with
          status := { h.status with isBusy := true }, busyGuards := h.busyGuards ++ [true] }
  | idle {guard : Nat} : h.busyGuards[guard]? = some true →
      Comes host h (.dropBusy guard) .dropped
        { h with status := h.status.clearBusy, busyGuards := h.busyGuards.set guard false }
  | entered : Comes host h .takeIteration (.taken h.iterationGuards.length) h.enter
  | left {guard : Nat} : h.iterationGuards[guard]? = some true →
      Comes host h (.dropIteration guard) .dropped (h.leave guard)
  | replaced {guard : Nat} : h.iterationGuards[guard]? = some true →
      Comes host h (.replaceIteration guard) (.taken h.iterationGuards.length)
        (h.enter.leave guard)
  | unconnected {module : TableModule F} {args : List String} {failure : Failure} {memory : M} :
      module.connect host.define (return h.status.integerMode) args h.memory =
        (.error failure, memory) →
      Comes host h (.connect module args) (.failed failure) { h with memory := memory }
  | connected {module : TableModule F} {args : List String} {connected : Connected G}
      {memory : M} :
      module.connect host.define (return h.status.integerMode) args h.memory =
        (.ok connected, memory) →
      Comes host h (.connect module args) (.connected h.tables.length connected)
        { h with memory := memory, tables := h.tables ++ [connected.table] }
  | opened {number : Nat} {table : ConnectedTable G} : h.tables[number]? = some table →
      Comes host h (.openScan number) (.opened h.scans.length)
        { h with
          status := h.status.enterIteration, scans := h.scans ++ [some (.idle table)] }
  | dropped {number : Nat} {scan : Scan G S} : h.scans[number]? = some (some scan) →
      Comes host h (.dropScan number) .dropped
        { h with status := h.status.exitIteration, scans := h.scans.set number none }
  | used {number : Nat} {scan next : Scan G S} {call : Scan.Call} {reply : Scan.Reply}
      {recorded : Recorded M G S} : h.scans[number]? = some (some scan) →
      scan.call host.generation.recorded call ⟨h.memory, []⟩ = ((reply, next), recorded) →
      Comes host h (.use number call) (.replied reply recorded.calls)
        { h with memory := recorded.world, scans := h.scans.set number (some next) }
  | other (step : Status.Step) (plain : step.IsPlain) :
      Comes host h (.other step plain) (.told (h.status.plainStep step).1)
        { h with status := (h.status.plainStep step).2 }

theorem step_comes (host : TableHost F G S M) (h : Holdings G S M) (step : Step F) :
    h.Comes host step (h.step host step).1 (h.step host step).2 := by
  cases step with
  | takeBusy =>
      simp only [Holdings.step, Status.markBusy]
      cases isBusy : h.status.isBusy with
      | true => exact .refused isBusy
      | false => exact .busy isBusy
  | dropBusy guard =>
      simp only [Holdings.step]
      split
      · exact .idle ‹_›
      · exact .missing ‹_›
  | takeIteration => exact .entered
  | dropIteration guard =>
      simp only [Holdings.step]
      split
      · exact .left ‹_›
      · exact .missing ‹_›
  | replaceIteration guard =>
      simp only [Holdings.step]
      split
      · exact .replaced ‹_›
      · exact .missing ‹_›
  | connect module args =>
      simp only [Holdings.step]
      split
      · exact .unconnected ‹_›
      · exact .connected ‹_›
  | openScan table =>
      simp only [Holdings.step]
      split
      · exact .missing ‹_›
      · exact .opened ‹_›
  | dropScan scan =>
      simp only [Holdings.step]
      split
      · exact .dropped ‹_›
      · exact .missing ‹_›
  | use scan call =>
      simp only [Holdings.step]
      split
      · exact .used ‹_› rfl
      · exact .missing ‹_›
  | other step plain => exact .other step plain

/-! ### Steps on what is held -/

section Held

variable {host : TableHost F G S M} {h : Holdings G S M}

theorem openScan_of_held {number : Nat} {table : ConnectedTable G}
    (held : h.tables[number]? = some table) :
    h.step host (.openScan number) =
      (.opened h.scans.length,
        { h with
          status := h.status.enterIteration, scans := h.scans ++ [some (.idle table)] }) := by
  simp only [Holdings.step, held]

theorem dropScan_of_held {number : Nat} {scan : Scan G S}
    (held : h.scans[number]? = some (some scan)) :
    h.step host (.dropScan number) =
      (.dropped,
        { h with status := h.status.exitIteration, scans := h.scans.set number none }) := by
  simp only [Holdings.step, held]

theorem use_of_held {number : Nat} {scan : Scan G S} {call : Scan.Call}
    (held : h.scans[number]? = some (some scan)) {result : Scan.Reply × Scan G S}
    {recorded : Recorded M G S}
    (called : scan.call host.generation.recorded call ⟨h.memory, []⟩ = (result, recorded)) :
    h.step host (.use number call) =
      (.replied result.1 recorded.calls,
        { h with memory := recorded.world, scans := h.scans.set number (some result.2) }) := by
  simp only [Holdings.step, held, called]

end Held

/-! ### Runs -/

/-- The steps with their answers. -/
def run (host : TableHost F G S M) (h : Holdings G S M) :
    List (Step F) → List (Step F × Answer G S)
  | [] => []
  | step :: rest => (step, (h.step host step).1) :: (h.step host step).2.run host rest

theorem run_cons (host : TableHost F G S M) (h : Holdings G S M) (step : Step F)
    (rest : List (Step F)) :
    h.run host (step :: rest) =
      (step, (h.step host step).1) :: (h.step host step).2.run host rest :=
  rfl

def after (host : TableHost F G S M) (h : Holdings G S M) (steps : List (Step F)) :
    Holdings G S M :=
  steps.foldl (fun h step => (h.step host step).2) h

theorem after_concat (host : TableHost F G S M) (h : Holdings G S M) (steps : List (Step F))
    (step : Step F) : h.after host (steps ++ [step]) = ((h.after host steps).step host step).2 := by
  unfold after
  rw [List.foldl_append]
  rfl

/-- What every step preserves holds after any steps. -/
theorem after_of_comes {host : TableHost F G S M} {holds : Holdings G S M → Prop}
    (preserved : ∀ {h next : Holdings G S M} {step : Step F} {answer : Answer G S},
      holds h → h.Comes host step answer next → holds next)
    {h : Holdings G S M} (start : holds h) (steps : List (Step F)) :
    holds (h.after host steps) := by
  induction steps using List.reverseRecOn with
  | nil =>
      exact start
  | append_singleton steps last ih =>
      rw [after_concat]
      exact preserved ih (step_comes host _ last)

end Holdings

end RowSource
