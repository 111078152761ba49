import RowSource.Proofs.Scan.Holdings

/-!
# Scans on their own

Many scans may run over the tables of one session, and all of them share its status and the memory of
its host. If generators answer by their arguments alone, then what a scan answers, and what its
generator is asked, depends on nothing but the table and the steps that concern the scan itself. A table
in turn keeps the integer mode that it was connected with.
-/

namespace RowSource

variable {F G S M : Type}

/-! ### Host code that does not care for its memory -/

/-- Generators and streams that answer alike whatever the memory of the host. -/
structure Generation.Constant (run : Generation (StateM M) G S) : Prop where
  generate : ∀ generator args (memory other : M),
    (run.generate generator args memory).1 = (run.generate generator args other).1
  advance : ∀ stream (memory other : M),
    (run.advance stream memory).1 = (run.advance stream other).1

/-- Whatever the memory of the host, the action has the same result and makes the same calls. -/
def Indifferent {α : Type} (action : StateM (Recorded M G S) α) : Prop :=
  ∀ (memory other : M) (calls : List (HostCall G S)),
    (action ⟨memory, calls⟩).1 = (action ⟨other, calls⟩).1 ∧
      (action ⟨memory, calls⟩).2.calls = (action ⟨other, calls⟩).2.calls

namespace Indifferent

variable {α β : Type}

theorem pure (value : α) : Indifferent (Pure.pure value : StateM (Recorded M G S) α) :=
  fun _ _ _ => ⟨rfl, rfl⟩

theorem bind {action : StateM (Recorded M G S) α} {rest : α → StateM (Recorded M G S) β}
    (first : Indifferent action) (after : ∀ value, Indifferent (rest value)) :
    Indifferent (action >>= rest) := by
  intro memory other calls
  have alike := first memory other calls
  rcases ran : action ⟨memory, calls⟩ with ⟨value, world, made⟩
  rcases ranOther : action ⟨other, calls⟩ with ⟨otherValue, otherWorld, otherMade⟩
  rw [ran, ranOther] at alike
  obtain ⟨rfl, rfl⟩ := alike
  rw [bind_of_run ran, bind_of_run ranOther]
  exact after value world otherWorld made

variable {run : Generation (StateM M) G S} (constant : run.Constant)
include constant

theorem generate (generator : G) (args : List HostValue) :
    Indifferent (run.recorded.generate generator args) :=
  fun memory other _ => ⟨constant.generate generator args memory other, rfl⟩

theorem advance (stream : S) : Indifferent (run.recorded.advance stream) :=
  fun memory other _ => ⟨constant.advance stream memory other, rfl⟩

theorem next (scan : Scan G S) : Indifferent (scan.next run.recorded) := by
  unfold Scan.next
  split
  · exact .pure _
  · exact (advance constant _).bind fun _ => .pure _

theorem start (scan : Scan G S) (number : Int32) (values : List SqlValue) :
    Indifferent (scan.start run.recorded number values) := by
  unfold Scan.start
  dsimp only
  split
  · exact .pure _
  · split
    · exact .pure _
    · refine (generate constant _ _).bind fun generated => ?_
      cases generated with
      | error error => exact .pure _
      | ok stream => exact next constant _

theorem call (scan : Scan G S) (call : Scan.Call) :
    Indifferent (scan.call run.recorded call) := by
  cases call with
  | start number values => exact (start constant scan number values).bind fun _ => .pure _
  | next => exact (next constant scan).bind fun _ => .pure _
  | isEnded => exact .pure _
  | column position => exact .pure _
  | rowid => exact .pure _

end Indifferent

/-! ### The table of a scan -/

namespace Scan

variable (run : Generation (StateM M) G S) (scan : Scan G S) (memory : M)

theorem moved_table (advanced : Except HostError Advance × S) :
    (scan.moved advanced).2.table = scan.table := by
  obtain ⟨answer, stream⟩ := advanced
  cases answer with
  | error error => rfl
  | ok advance => cases advance <;> rfl

theorem next_table : (scan.next run memory).1.2.table = scan.table := by
  cases held : scan.stream with
  | none => rw [next_of_no_stream run held]
  | some stream =>
      rw [next_of_stream run held]
      exact moved_table ..

theorem start_table (number : Int32) (values : List SqlValue) :
    (scan.start run number values memory).1.2.table = scan.table := by
  cases placed : Plan.arguments number.toUInt32 scan.table.parameterNames.length values with
  | error failure =>
      rw [start_of_misplaced run placed]
      rfl
  | ok bound =>
      cases null : bound.any fun value => value.any SqlValue.isNull with
      | true =>
          rw [start_of_null run placed null]
          rfl
      | false =>
          rcases generated : run.generate scan.table.generator
            (hostArguments scan.table.integerMode bound) memory with ⟨answer, after⟩
          cases answer with
          | error error =>
              rw [start_of_refused run placed null generated]
              rfl
          | ok stream =>
              rw [start_of_generated run placed null generated]
              exact next_table ..

theorem call_table (call : Call) : (scan.call run call memory).1.2.table = scan.table := by
  cases call with
  | start number values => exact start_table run scan memory number values
  | next => exact next_table run scan memory
  | isEnded => rfl
  | column position => rfl
  | rowid => rfl

end Scan

/-! ### Steps -/

namespace Holdings

/-- Whether a step is a call of a scan or drops it. -/
def Step.concerns (scan : Nat) : Step F → Bool
  | .dropScan number | .use number _ => number == scan
  | _ => false

/-- The same step of another scan. -/
def Step.aim (scan : Nat) : Step F → Step F
  | .dropScan _ => .dropScan scan
  | .use _ call => .use scan call
  | step => step

/-- The answers to the steps that concern a scan. -/
def told (host : TableHost F G S M) (h : Holdings G S M) (scan : Nat) (steps : List (Step F)) :
    List (Answer G S) :=
  ((h.run host steps).filter fun taken => taken.1.concerns scan).map Prod.snd

def answers (host : TableHost F G S M) (h : Holdings G S M) (steps : List (Step F)) :
    List (Answer G S) :=
  (h.run host steps).map Prod.snd

variable {host : TableHost F G S M} {h next : Holdings G S M} {step : Step F}
  {answer : Answer G S}

theorem tables_comes (comes : h.Comes host step answer next) {number : Nat}
    {table : ConnectedTable G} (held : h.tables[number]? = some table) :
    next.tables[number]? = some table := by
  cases comes with
  | connected accepted =>
      obtain ⟨within, -⟩ := List.getElem?_eq_some_iff.mp held
      exact (List.getElem?_append_left within).trans held
  | _ => exact held

/-- A step that does not concern a scan leaves it as it is. -/
theorem scans_comes (comes : h.Comes host step answer next) {number : Nat}
    {entry : Option (Scan G S)} (held : h.scans[number]? = some entry)
    (other : step.concerns number = false) : next.scans[number]? = some entry := by
  cases comes with
  | opened found =>
      obtain ⟨within, -⟩ := List.getElem?_eq_some_iff.mp held
      exact (List.getElem?_append_left within).trans held
  | dropped found =>
      rw [List.getElem?_set_ne (ne_of_beq_false other)]
      exact held
  | used found called =>
      rw [List.getElem?_set_ne (ne_of_beq_false other)]
      exact held
  | _ => exact held

/-- A number was given to a scan of a table. The scan may have been dropped since. -/
def ScanOf (h : Holdings G S M) (number : Nat) (table : ConnectedTable G) : Prop :=
  ∃ entry, h.scans[number]? = some entry ∧ ∀ scan, entry = some scan → scan.table = table

theorem ScanOf.comes {number : Nat} {table : ConnectedTable G} (given : h.ScanOf number table)
    (comes : h.Comes host step answer next) : next.ScanOf number table := by
  obtain ⟨entry, held, ofTable⟩ := given
  obtain ⟨within, -⟩ := List.getElem?_eq_some_iff.mp held
  cases concerned : step.concerns number with
  | false => exact ⟨entry, scans_comes comes held concerned, ofTable⟩
  | true =>
      cases comes with
      | missing unheld => exact ⟨entry, held, ofTable⟩
      | dropped found =>
          obtain rfl := eq_of_beq concerned
          exact ⟨none, List.getElem?_set_self within, nofun⟩
      | @used _ scan moved call _ recorded found called =>
          obtain rfl := eq_of_beq concerned
          rw [held] at found
          have kept := scan.call_table host.generation.recorded ⟨h.memory, []⟩ call
          rw [called] at kept
          refine ⟨some moved, List.getElem?_set_self within, ?_⟩
          rintro _ ⟨rfl⟩
          exact kept.trans (ofTable scan (Option.some.inj found))
      | _ => cases concerned

theorem tables_after {number : Nat} {table : ConnectedTable G}
    (held : h.tables[number]? = some table) (steps : List (Step F)) :
    (h.after host steps).tables[number]? = some table := by
  let keeps (h : Holdings G S M) : Prop := h.tables[number]? = some table
  have start : keeps h := held
  exact after_of_comes (fun held comes => tables_comes comes held) start steps

theorem ScanOf.after {number : Nat} {table : ConnectedTable G} (given : h.ScanOf number table)
    (steps : List (Step F)) : (h.after host steps).ScanOf number table := by
  let keeps (h : Holdings G S M) : Prop := h.ScanOf number table
  have start : keeps h := given
  exact after_of_comes (fun given comes => ScanOf.comes given comes) start steps

/-! ### Two runs -/

theorem told_cons (host : TableHost F G S M) (h : Holdings G S M) (scan : Nat) (step : Step F)
    (rest : List (Step F)) :
    h.told host scan (step :: rest) =
      if step.concerns scan then (h.step host step).1 :: (h.step host step).2.told host scan rest
      else (h.step host step).2.told host scan rest := by
  unfold told
  rw [run_cons, List.filter_cons]
  split <;> rfl

section Alike

variable (constant : host.generation.Constant) {far near : Holdings G S M} {number other : Nat}
  {entry : Option (Scan G S)} (farHeld : far.scans[number]? = some entry)
  (nearHeld : near.scans[other]? = some entry)
include constant farHeld nearHeld

/-- A step on a scan comes to the same wherever the scan is held. -/
theorem alike_step {step : Step F} (concerned : step.concerns number = true) :
    (far.step host step).1 = (near.step host (step.aim other)).1 ∧
      ∃ later, (far.step host step).2.scans[number]? = some later ∧
        (near.step host (step.aim other)).2.scans[other]? = some later := by
  obtain ⟨farWithin, -⟩ := List.getElem?_eq_some_iff.mp farHeld
  obtain ⟨nearWithin, -⟩ := List.getElem?_eq_some_iff.mp nearHeld
  cases step with
  | dropScan scan =>
      obtain rfl := eq_of_beq concerned
      cases entry with
      | none => simp [Step.aim, Holdings.step, farHeld, nearHeld]
      | some scan =>
          simp only [Step.aim]
          rw [dropScan_of_held farHeld, dropScan_of_held nearHeld]
          exact ⟨rfl, none, List.getElem?_set_self farWithin, List.getElem?_set_self nearWithin⟩
  | use scan call =>
      obtain rfl := eq_of_beq concerned
      cases entry with
      | none => simp [Step.aim, Holdings.step, farHeld, nearHeld]
      | some scan =>
          have alike := Indifferent.call constant scan call far.memory near.memory []
          rcases ranFar : scan.call host.generation.recorded call ⟨far.memory, []⟩ with
            ⟨result, world, calls⟩
          rcases ranNear : scan.call host.generation.recorded call ⟨near.memory, []⟩ with
            ⟨nearResult, nearWorld, nearCalls⟩
          rw [ranFar, ranNear] at alike
          obtain ⟨rfl, rfl⟩ := alike
          simp only [Step.aim]
          rw [use_of_held farHeld ranFar, use_of_held nearHeld ranNear]
          exact ⟨rfl, some result.2, List.getElem?_set_self farWithin,
            List.getElem?_set_self nearWithin⟩
  | _ => cases concerned

/-- Among any steps, those on a scan are answered as they would be without the others. -/
theorem told_alike (steps : List (Step F)) :
    far.told host number steps =
      near.answers host ((steps.filter fun step => step.concerns number).map (Step.aim other)) := by
  induction steps generalizing far near entry with
  | nil =>
      rfl
  | cons step rest ih =>
      rw [told_cons, List.filter_cons]
      cases concerned : step.concerns number with
      | false =>
          have kept := scans_comes (step_comes host far step) farHeld concerned
          exact ih kept nearHeld
      | true =>
          obtain ⟨sameAnswer, next, farNext, nearNext⟩ :=
            alike_step constant farHeld nearHeld concerned
          exact List.cons_eq_cons.mpr ⟨sameAnswer, ih farNext nearNext⟩

end Alike

/-- The table of a connection, and the integer mode that it has for good: that of its definition, or
else the default of the session at that time. -/
theorem connected_comes {module : TableModule F} {args : List String} {number : Nat}
    {connected : Connected G}
    (comes : h.Comes host (.connect module args) (.connected number connected) next) :
    next.tables[number]? = some connected.table ∧
      ∃ definition memory,
        host.define module.factory args h.memory = (.ok definition, memory) ∧
        connected.table.integerMode = definition.integerMode.getD h.status.integerMode := by
  cases comes with
  | connected accepted =>
      refine ⟨List.getElem?_concat_length, ?_⟩
      rcases defined : host.define module.factory args h.memory with ⟨answer, memory⟩
      cases answer with
      | error error =>
          rw [TableModule.connect_of_refused defined] at accepted
          cases accepted
      | ok definition =>
          rw [TableModule.connect_of_defined defined] at accepted
          have accepted := congrArg Prod.fst accepted
          change module.accept args definition h.status.integerMode = _ at accepted
          unfold TableModule.accept at accepted
          split at accepted
          · cases accepted
          · cases accepted
            exact ⟨definition, memory, rfl, rfl⟩

/-- A table is connected, and a scan of it is opened either at once or after any other steps. If
generators answer by their arguments alone, then however the steps on the scan are mixed with others
later, each is answered, and its generator asked, as if the scan had been opened at once and nothing
else had happened. The integer mode of the table is that of its definition, or else the default of the
session when it was connected, and neither the table nor the table of the scan ever changes. -/
theorem undisturbed (constant : host.generation.Constant) (h : Holdings G S M)
    {module : TableModule F} {args : List String} {number : Nat} {connected : Connected G}
    (connects : (h.step host (.connect module args)).1 = .connected number connected)
    (between later : List (Step F)) :
    let near := (h.step host (.connect module args)).2
    let far := near.after host between
    let alone := near.step host (.openScan number)
    let shared := far.step host (.openScan number)
    alone.1 = .opened near.scans.length ∧ shared.1 = .opened far.scans.length ∧
    shared.2.told host far.scans.length later =
      alone.2.answers host ((later.filter fun step => step.concerns far.scans.length).map
        (Step.aim near.scans.length)) ∧
    (∃ definition memory,
      host.define module.factory args h.memory = (.ok definition, memory) ∧
      connected.table.integerMode = definition.integerMode.getD h.status.integerMode) ∧
    far.tables[number]? = some connected.table ∧
    (shared.2.after host later).tables[number]? = some connected.table ∧
    (shared.2.after host later).ScanOf far.scans.length connected.table := by
  intro near far alone shared
  have comes := step_comes host h (.connect module args)
  rw [connects] at comes
  obtain ⟨nearTable, mode⟩ := connected_comes comes
  have farTable : far.tables[number]? = some connected.table := tables_after nearTable between
  have openedNear : alone = _ := openScan_of_held nearTable
  have openedFar : shared = _ := openScan_of_held farTable
  have nearHeld : alone.2.scans[near.scans.length]? = some (some (.idle connected.table)) := by
    rw [openedNear]
    exact List.getElem?_concat_length
  have farHeld : shared.2.scans[far.scans.length]? = some (some (.idle connected.table)) := by
    rw [openedFar]
    exact List.getElem?_concat_length
  have sharedTable : shared.2.tables[number]? = some connected.table :=
    tables_comes (step_comes host far _) farTable
  have ofTable : shared.2.ScanOf far.scans.length connected.table := by
    refine ⟨_, farHeld, ?_⟩
    rintro _ ⟨rfl⟩
    rfl
  exact ⟨congrArg Prod.fst openedNear, congrArg Prod.fst openedFar,
    told_alike constant farHeld nearHeld later, mode, farTable, tables_after sharedTable later,
    ofTable.after later⟩

end Holdings

/-! ### A host that counts -/

namespace Counting

/-- A factory and generators that count their calls. Each stream has one row: what the generator was
asked with. -/
def host : TableHost Unit Unit RowList Nat where
  define _ _ count := (.ok ⟨"CREATE TABLE t(a, n)", (), ["n"], none, false⟩, count + 1)
  generation :=
    { generate := fun _ args count => (.ok [.ok args], count + 1)
      advance := fun rows count => (rows.advance, count + 1) }

def loose : Holdings Unit RowList Nat := { status := {}, memory := 0 }

def connected : Connected Unit :=
  ⟨"rows", "CREATE TABLE t(a, n)", false, ⟨"rows", (), ["n"], .loose⟩⟩

def between : List (Holdings.Step Unit) :=
  [.openScan 0, .other (.setIntegerMode .strict) trivial, .connect ⟨"rows", ()⟩ [],
    .use 0 (.start 1 [.integer 7])]

def later : List (Holdings.Step Unit) :=
  [.takeBusy, .use 1 (.start 1 [.integer 5]), .dropScan 0, .openScan 1, .use 1 (.column 0),
    .use 2 (.start 1 [.integer 5]), .use 1 .next, .other .markClosed trivial, .use 1 .isEnded,
    .dropScan 1, .use 1 .rowid]

end Counting

open Counting in
/-- A scan that is opened and started after the default has become strict still shows its generator a
loose number. -/
theorem Holdings.undisturbed_by_strict :
    host.generation.Constant ∧
    (loose.step host (.connect ⟨"rows", ()⟩ [])).1 = .connected 0 connected ∧
    (((loose.step host (.connect ⟨"rows", ()⟩ [])).2.after host between).step host
        (.openScan 0)).2.told host 1 later =
      [.replied (.done (.ok ()))
          [.generate () [.number (Binary64.ofInt 5)],
            .advance [.ok [.number (Binary64.ofInt 5)]]],
        .replied (.value (.ok (.real (Binary64.ofInt 5)))) [], .replied (.done (.ok ())) [.advance []],
        .replied (.ended true) [], .dropped, .missing] := by
  have constant : host.generation.Constant := ⟨fun _ _ _ _ => rfl, fun _ _ _ => rfl⟩
  have connects : (loose.step host (.connect ⟨"rows", ()⟩ [])).1 = .connected 0 connected := rfl
  obtain ⟨-, -, same, -⟩ := undisturbed constant loose connects between later
  exact ⟨constant, connects, same.trans rfl⟩

end RowSource
