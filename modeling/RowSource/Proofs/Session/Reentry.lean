import RowSource.Proofs.Session.Moments

/-!
# Reentry

What host code can do with the session on whose behalf it runs. Inside a demand the session is busy
and refuses everything. Inside an iteration it is not busy, but it can neither be closed nor be given
another table, while it is read as at any other time.
-/

namespace RowSource

variable {H : Host} {E : Engine} {α : Type}

namespace Operation

/-- A statement is run if it returns no rows, and read if it does. -/
def Fits : Operation H E → Prop
  | .execute (.run s _) => s.reader = false
  | .execute (.read s _ _) => s.reader = true
  | _ => True

/-- A statement is compiled, or one that returns rows is read. -/
def Reads : Operation H E → Prop
  | .prepare _ _ => True
  | .execute (.read s _ _) => s.reader = true
  | _ => False

variable {operation : Operation H E} {s : Session H}

/-- Whatever else is checked comes after the status of the session. -/
theorem admitted_of_fits (fits : operation.Fits) :
    ∃ rest : Except Failure (List SqlValue), operation.admitted s =
      (do s.status.requireOpen; s.status.requireNotBusy; rest) := by
  cases operation with
  | prepare id sql => exact ⟨_, rfl⟩
  | registerTable id name factory eponymous => exact ⟨_, rfl⟩
  | execute call =>
      rcases call with ⟨id, sql⟩ | ⟨statement, params⟩ | ⟨statement, params, fetch⟩
      · exact ⟨_, rfl⟩
      · have fits : statement.reader = false := fits
        dsimp only [admitted, Execution.admitted]
        unfold Statement.runnable
        rw [fits]
        exact ⟨_, rfl⟩
      · have fits : statement.reader = true := fits
        dsimp only [admitted, Execution.admitted]
        unfold Statement.readable
        rw [fits]
        exact ⟨_, rfl⟩

theorem admitted_of_busy (fits : operation.Fits) (opened : s.status.isOpen = true)
    (busy : s.status.isBusy = true) :
    operation.admitted s = .error (.refused .busy) := by
  obtain ⟨rest, checked⟩ := admitted_of_fits (s := s) fits
  rw [checked]
  unfold Status.requireOpen Status.requireNotBusy
  rw [opened, busy]
  rfl

theorem unrefused_of_reads (reads : operation.Reads) (opened : s.status.isOpen = true)
    (idle : s.status.isBusy = false) : Unrefused (operation.admitted s) := by
  have passed {β : Type} {rest : Except Failure β} (unrefused : Unrefused rest) :
      Unrefused (do s.status.requireOpen; s.status.requireNotBusy; rest) := by
    unfold Status.requireOpen Status.requireNotBusy
    rw [opened, idle]
    exact unrefused
  cases operation with
  | prepare id sql =>
      refine passed ?_
      split
      · rintro _ ⟨⟩ _ ⟨⟩
      · exact .ok _
  | registerTable id name factory eponymous => cases reads
  | execute call =>
      rcases call with ⟨id, sql⟩ | ⟨statement, params⟩ | ⟨statement, params, fetch⟩
      · cases reads
      · cases reads
      · have reads : statement.reader = true := reads
        change Unrefused (statement.readable params s.status)
        unfold Statement.readable
        rw [if_pos reads]
        exact passed (Statement.engineValues_unrefused 1 params)

theorem admitted_of_iterating (id : Nat) (name : String) (factory : H.Factory) (eponymous : Bool)
    (opened : s.status.isOpen = true) (idle : s.status.isBusy = false)
    (live : s.status.iterators ≠ 0) :
    (registerTable (E := E) id name factory eponymous).admitted s =
      .error (.refused (.iteratorsActive s.status.iterators)) := by
  unfold admitted Status.requireOpen Status.requireNotBusy Status.requireNoIterators
  rw [opened, idle, if_neg live]
  rfl

end Operation

namespace Session

theorem close_of_busy {id : Nat} {w : World H E} (opened : (w.status id).isOpen = true)
    (busy : (w.status id).isBusy = true) :
    (close id).run w = (.error (.refused .busy), w) := by
  have refused : (w.session id).closable = .error (.refused .busy) := by
    unfold closable Status.requireNotBusy
    rw [← World.status, busy]
    rfl
  rw [close_run, opened, refused]
  rfl

theorem close_of_iterating {id : Nat} {w : World H E} (opened : (w.status id).isOpen = true)
    (idle : (w.status id).isBusy = false) (live : (w.status id).iterators ≠ 0) :
    (close id).run w = (.error (.refused (.iteratorsActive (w.status id).iterators)), w) := by
  have refused : (w.session id).closable =
      .error (.refused (.iteratorsActive (w.status id).iterators)) := by
    unfold closable Status.requireNotBusy Status.requireNoIterators
    rw [← World.status, idle, if_neg live]
    rfl
  rw [close_run, opened, refused]
  rfl

end Session

namespace HostCode.Admissible

variable {host : HostCode H E} (admissible : host.Admissible)
include admissible

/-- A session that is open and not busy refuses to read only when it is closed on the way, or with
what host code gave for a row. -/
theorem unrefused_reads {depth : Nat} {operation : Operation H E}
    (made : operation.Made (host.callbacks depth)) (reads : operation.Reads) {w : World H E}
    (lawful : w.Lawful) (opened : (w.status operation.session).isOpen = true)
    (idle : (w.status operation.session).isBusy = false) {refusal : Refusal}
    (failed : ((operation.perform (host.callbacks depth)).run w).1 =
      .error (.refused refusal)) :
    (refusal = .notOpen ∧ (((operation.perform (host.callbacks depth)).run w).2.status
        operation.session).isOpen = false) ∨
      operation.Gives (.refused refusal) := by
  have unrefused := Operation.unrefused_of_reads (s := w.session operation.session) reads opened idle
  cases admitted : operation.admitted (w.session operation.session) with
  | error failure =>
      rw [Operation.perform_of_refused admitted] at failed
      cases failed
      exact absurd rfl (unrefused _ admitted refusal)
  | ok values =>
      have evolution := World.Leads.evolution World.lawful E.keeps_nothing (H := H)
      obtain ⟨along, _, ends⟩ :=
        admissible.thrown_along evolution E.keeps_nothing.toStatementsKeep made w
      rw [(operation.settles (admissible.calm depth) (made.calm (admissible.calm depth)) w
        trivial).same] at failed ⊢
      rcases ends values admitted _ failed with other | given | ⟨refused, lost⟩
      · exact absurd rfl (other refusal)
      · exact .inr given
      · cases refused
        exact .inl ⟨rfl, (along.since.lawful lawful).not_open_of_lost lost⟩

/-- Inside a demand of a session it is busy, and while it is open every call on it is refused as busy
and does nothing. Inside an iteration and no other call on the session, it is not busy and has an
iterator for each iteration around. While it is open it refuses then to be closed and to be given a
table, and does nothing; and it refuses no reading, unless it is closed before that is over. -/
theorem reentrant_calls {memory : H.Memory} {depth : Nat} {frames : List Frame} {w : World H E}
    (reaches : host.Reaches { memory := memory } depth frames w) (id : Nat) :
    (.called id ∈ frames →
      (w.status id).isBusy = true ∧
      ((w.status id).isOpen = true →
        (∀ (C : Callbacks H E) (operation : Operation H E),
          operation.session = id → operation.Fits →
          (operation.perform C).run w = (.error (.refused .busy), w)) ∧
        (Session.close id).run w = (.error (.refused .busy), w))) ∧
    (frames.find? (fun frame => frame.session = id) = some (.iterating id) →
      (w.status id).isBusy = false ∧
      frames.count (.iterating id) ≤ (w.status id).iterators ∧
      ((w.status id).isOpen = true →
        (Session.close id).run w =
          (.error (.refused (.iteratorsActive (w.status id).iterators)), w) ∧
        (∀ name factory eponymous, (Session.registerTable id name factory eponymous).run w =
          (.error (.refused (.iteratorsActive (w.status id).iterators)), w)) ∧
        ∀ operation : Operation H E, operation.session = id → operation.Reads →
          operation.Made (host.callbacks depth) → ∀ refusal,
          let done := (operation.perform (host.callbacks depth)).run w
          done.1 = .error (.refused refusal) →
            (refusal = .notOpen ∧ (done.2.status id).isOpen = false) ∨
              operation.Gives (.refused refusal))) := by
  obtain ⟨since, tell⟩ := admissible.moments World.lawful E.keeps_nothing (fun _ => rfl) reaches
  have lawful : w.Lawful := since.lawful (.initial memory)
  constructor
  · intro called
    have busy : (w.status id).isBusy = true := (tell.busy id).mpr called
    refine ⟨busy, fun opened => ⟨?_, Session.close_of_busy opened busy⟩⟩
    rintro C operation rfl fits
    exact Operation.perform_of_refused (Operation.admitted_of_busy fits opened busy)
  · intro innermost
    have idle : (w.status id).isBusy = false := tell.idle_of_iterating innermost
    have counted : frames.count (.iterating id) ≤ (w.status id).iterators := tell.iterating id
    have live : (w.status id).iterators ≠ 0 := by
      have inside : .iterating id ∈ frames := List.mem_of_find?_eq_some innermost
      have some := List.count_pos_iff.mpr inside
      omega
    refine ⟨idle, counted, fun opened => ⟨Session.close_of_iterating opened idle live, ?_, ?_⟩⟩
    · intro name factory eponymous
      let registering : Operation H E := .registerTable id name factory eponymous
      have refused : registering.admitted (w.session registering.session) = .error _ :=
        Operation.admitted_of_iterating id name factory eponymous opened idle live
      exact Operation.perform_of_refused (C := .refused) refused
    · rintro operation rfl reads made refusal done failed
      exact admissible.unrefused_reads made reads lawful opened idle failed

end HostCode.Admissible

/-! ### A demand inside an iteration -/

namespace Porter

def register : Action host engine Unit := Session.registerTable 0 "m" () true

def registered : World host engine :=
  (register.run ((Session.openSession ":memory:" {}).run { memory := [] }).2).2

def iterating : Operation host engine := .execute (.read (reading "SELECT 1") [] (.iterate visit))

def asking : Operation host engine := .execute (.read (reading "SELECT a FROM m") [] .all)

/-- The world in which host code is called first. -/
def entered (operation : Operation host engine) (w : World host engine) : World host engine :=
  (((operation.thrown (code.callbacks 1)).run w).events.head?.map Event.world).getD w

def isHanded : Event host engine → Bool
  | .handed _ => true
  | _ => false

def isAskedOf (id : Nat) : Event host engine → Bool
  | .asked other _ _ _ => other == id
  | _ => false

theorem handed_entered {operation : Operation host engine} {w : World host engine}
    (first : ((operation.thrown (code.callbacks 1)).run w).events.head?.any isHanded = true) :
    .handed (entered operation w) ∈ ((operation.thrown (code.callbacks 1)).run w).events := by
  unfold entered
  cases events : ((operation.thrown (code.callbacks 1)).run w).events with
  | nil =>
      rw [events] at first
      cases first
  | cons event rest =>
      rw [events] at first
      cases event with
      | handed v => exact List.mem_cons_self
      | asked id scans demand v => cases first

theorem asked_entered {operation : Operation host engine} {w : World host engine} {id : Nat}
    (first : ((operation.thrown (code.callbacks 1)).run w).events.head?.any (isAskedOf id) = true) :
    ∃ scans demand, .asked id scans demand (entered operation w) ∈
      ((operation.thrown (code.callbacks 1)).run w).events := by
  unfold entered
  cases events : ((operation.thrown (code.callbacks 1)).run w).events with
  | nil =>
      rw [events] at first
      cases first
  | cons event rest =>
      rw [events] at first
      cases event with
      | handed v => cases first
      | asked other scans demand v =>
          cases of_decide_eq_true (p := other = id) (by simpa [isAskedOf] using first)
          exact ⟨scans, demand, List.mem_cons_self⟩

theorem reaches_visit :
    code.Reaches { memory := [] } 1 [.iterating 0] (entered iterating registered) := by
  have opening : HostAction (code.callbacks 1) (Session.openSession ":memory:" {}).run :=
    .openSession ":memory:" {}
  have registering : HostAction (code.callbacks 1) register.run :=
    HostAction.registerTable (H := host) (E := engine) 0 "m" () true
  have begun : code.Reaches { memory := [] } 1 [] { memory := [] } := .start 1
  have there := (begun.act opening).act registering
  have made : iterating.Made (code.callbacks 1) := hosted_visit
  have handed : .handed (entered iterating registered) ∈
      ((iterating.thrown (code.callbacks 1)).run registered).events :=
    handed_entered (by decide +kernel)
  exact .handed there made handed

theorem reaches_demand :
    code.Reaches { memory := [] } 0 [.called 0, .iterating 0]
      (entered asking (entered iterating registered)) := by
  have made : asking.Made (code.callbacks 1) := trivial
  have first : ((asking.thrown (code.callbacks 1)).run
      (entered iterating registered)).events.head?.any (isAskedOf 0) = true := by decide +kernel
  obtain ⟨scans, demand, asked⟩ := asked_entered first
  exact .called reaches_visit made asked

/-- Inside an iteration its session refuses to be closed, and inside a demand that is made there it
refuses a batch. -/
theorem reentrant_demand :
    let visiting := entered iterating registered
    let demanding := entered asking visiting
    (Session.close 0).run visiting = (.error (.refused (.iteratorsActive 1)), visiting) ∧
      (Session.exec (code.callbacks 0) 0 "SELECT 1").run demanding =
        (.error (.refused .busy), demanding) := by
  intro visiting demanding
  have live : (visiting.status 0).iterators = 1 := by decide +kernel
  obtain ⟨_, iterates⟩ := admissible.reentrant_calls reaches_visit 0
  obtain ⟨calls, _⟩ := admissible.reentrant_calls reaches_demand 0
  obtain ⟨_, _, inside⟩ := iterates rfl
  obtain ⟨closes, _⟩ := inside (by decide +kernel)
  obtain ⟨_, refuses⟩ := calls (by decide)
  obtain ⟨performs, _⟩ := refuses (by decide +kernel)
  rw [← live]
  exact ⟨closes, performs (code.callbacks 0) (.execute (.exec 0 "SELECT 1")) rfl trivial⟩

end Porter

end RowSource
