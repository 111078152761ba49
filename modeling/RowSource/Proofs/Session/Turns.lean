import RowSource.Proofs.Session.Iteration
import RowSource.Proofs.Session.Marks

/-!
# The turns of an iteration

An iteration and host code take turns: while the rows are looked for, host code runs to serve demands
and with each row. This is the account of an iteration as it is, with what host code answers to a row
and the world that it leaves.
-/

namespace RowSource

variable {H : Host} {E : Engine} {α β τ : Type}

/-- A time at which host code runs, from its first world to its last. -/
structure Turn (H : Host) (E : Engine) where
  entered : World H E
  left : World H E
  /-- The row, and what host code answers to it, if one is handed over. -/
  answer : Option (Row × Except Failure Bool)

/-- Another closure would have done the same in a turn. -/
def Turn.Repeated (other : Row → Action H E Bool) (turn : Turn H E) : Prop :=
  ∀ row answer, turn.answer = some (row, answer) → (other row).run turn.entered = (answer, turn.left)

namespace Statement

variable (C : Callbacks H E) (s : Statement) (columns : List String) (body : Row → Action H E Bool)

/-- The turn that comes of a row, if it can be read. -/
def rowTurn? (values : List SqlValue) (w : World H E) : Option (Turn H E) :=
  match readRow s.integerMode columns values with
  | .error _ => none
  | .ok row =>
      let entered := w.updateStatus s.session Status.clearBusy
      let answered := (body row).run entered
      some ⟨entered, answered.2, some (row, answered.1)⟩

/-- The turns of a program whose rows are handed over. -/
def programTurns (scans : Callbacks.Scans H) :
    Program E.Store Unit → World H E → List (Turn H E)
  | .finish _ _, _ => []
  | .ask demand store _ resume, w =>
      let entered := w.updateStore fun _ => store
      let served := C.serve s.session scans demand entered
      ⟨entered, served.2, none⟩ ::
        match served with
        | ((.ok reply, scans), v) => programTurns scans (resume reply v.store) v
        | ((.error _, _), _) => []
  | .row values store _ resume, w =>
      let entered := w.updateStore fun _ => store
      (s.rowTurn? columns body values entered).toList ++
        match s.handOver columns body values entered with
        | (.inl (), v) => programTurns scans (resume v.store) v
        | (.inr _, _) => []

/-! ### The parts of an iteration -/

open Session in
/-- Gets hold of the statement, with the iteration begun and the connection lent. -/
def beginRows (params : List HostValue) : Action H E (HeldStatement E × List SqlValue) := do
  let values ← s.beginRead params
  modify (World.updateStatus s.session Status.enterIteration)
  if !((← get).session s.session).connected then
    throw (.refused .notOpen)
  modify (World.updateSession s.session fun s => { s with borrowers := s.borrowers + 1 })
  modify (World.updateStatus s.session Status.discardStale)
  let held ← withBusy s.session (explaining s.session (C.hold s.session s.text))
  return (held, values)

open Session in
/-- Binds the values, and has the statement that is to be stepped in a busy period. -/
def beginSteps (held : HeldStatement E) (values : List SqlValue) :
    Action H E (E.Statement × List SqlValue) := do
  let values ← withBusy s.session (explaining s.session (return held.info.bind values))
  ExceptT.mk (beginStep s.session)
  ExceptT.mk do
    match ← (explaining s.session (C.renew s.session s.text held)).run with
    | .error failure =>
        modify (World.updateStatus s.session Status.clearBusy)
        return .error failure
    | .ok statement => return .ok (statement, values)

def rowSteps (statement : E.Statement) (values : List SqlValue) :
    Worldly H E (StatementInfo × Except Failure Unit) := do
  match ← C.run s.session (fun _ values => s.handOver columns body values) ()
      (E.execute s.session statement values) with
  | .left exit => return (E.info statement, exit)
  | .ended _ result => return (E.info statement, ← endSteps s.session result)

def endRows (info : StatementInfo) (w : World H E) : World H E :=
  ((w.updateSession s.session (Session.keep s.text info)).updateSession s.session
    fun s => { s with borrowers := s.borrowers - 1 }).updateStatus s.session Status.exitIteration

/-- The turns of an iteration, from its first look for a row on. -/
def turns (params : List HostValue) (w : World H E) : List (Turn H E) :=
  match (s.beginRows C params).run w with
  | (.error _, _) => []
  | (.ok (held, bound), u) =>
      match (s.beginSteps C held bound).run u with
      | (.error _, _) => []
      | (.ok (statement, values), v) =>
          programTurns C s held.info.columns body [] (E.execute s.session statement values v.store) v

theorem boundSteps_parts (held : HeldStatement E) (bound : List SqlValue) (w : World H E) :
    s.boundSteps C held bound body w =
      match (s.beginSteps C held bound).run w with
      | (.error failure, v) => ((held.info, .error failure), v)
      | (.ok (statement, values), v) => s.rowSteps C held.info.columns body statement values v := by
  unfold boundSteps beginSteps
  rw [Worldly.bind_apply]
  rcases binds : (Session.withBusy s.session (Session.explaining s.session
    (return held.info.bind bound)) : Action H E (List SqlValue)).run w with ⟨_ | values, w₁⟩
  · rw [Action.bind_of_error binds]
    rfl
  · rw [Action.bind_of_ok binds]
    dsimp only
    unfold steps
    rw [Worldly.bind_apply]
    rcases begins : beginStep s.session w₁ with ⟨failure | _, w₂⟩
    · have stopped : (ExceptT.mk (beginStep s.session) : Action H E Unit).run w₁ =
          (.error failure, w₂) := begins
      rw [Action.bind_of_error stopped]
      rfl
    · have begun : (ExceptT.mk (beginStep s.session) : Action H E Unit).run w₁ =
          (.ok (), w₂) := begins
      rw [Action.bind_of_ok begun]
      dsimp only
      rw [Worldly.bind_apply, ExceptT.run_mk, Worldly.bind_apply]
      unfold Session.explaining
      rw [ExceptT.run_mk, Worldly.bind_apply]
      rcases C.renew s.session s.text held w₂ with ⟨_ | statement, w₃⟩
      · rfl
      · rfl

def heldSteps (bound : List SqlValue) (body : Row → Action H E Bool) : Action H E Unit := do
  let held ← Session.withBusy s.session (Session.explaining s.session (C.hold s.session s.text))
  ExceptT.mk do
    let (info, result) ← s.boundSteps C held bound body
    modify (World.updateSession s.session (Session.keep s.text info))
    return result

theorem iterate_of_readable {params : List HostValue} {w : World H E} {bound : List SqlValue}
    (readable : s.readable params (w.status s.session) = .ok bound) :
    (s.iterate C params body).run w =
      let iterated := (Session.borrowing s.session (s.heldSteps C bound body)).run
        (w.updateStatus s.session Status.enterIteration)
      (iterated.1, iterated.2.updateStatus s.session Status.exitIteration) := by
  have performed : (s.iterate C params body).run w = _ :=
    (Execution.read s params (.iterate body)).perform_follows C w
  dsimp only [Execution.admitted, Execution.session] at performed
  rw [readable] at performed
  exact performed

theorem iterate_held (params : List HostValue) (w : World H E) :
    (∃ failure u v, (s.beginRows C params).run w = (.error failure, u) ∧
      ∀ body, (s.iterate C params body).run w = (.error failure, v)) ∨
    ∃ held bound u, (s.beginRows C params).run w = (.ok (held, bound), u) ∧
      ∀ body, (s.iterate C params body).run w =
        let stepped := s.boundSteps C held bound body u
        (stepped.1.2, s.endRows stepped.1.1 stepped.2) := by
  have reads : (s.beginRead params).run w = _ := s.beginRead_follows params w
  cases readable : s.readable params (w.status s.session) with
  | error failure =>
      have performed (body : Row → Action H E Bool) : (s.iterate C params body).run w = _ :=
        (Execution.read s params (.iterate body)).perform_follows C w
      dsimp only [Execution.admitted, Execution.session] at performed
      rw [readable] at reads performed
      exact .inl ⟨failure, w, w, Action.bind_of_error reads, performed⟩
  | ok bound =>
      rw [readable] at reads
      unfold beginRows
      rw [Action.bind_of_ok reads, Action.modify_bind_run, Action.get_bind_run]
      have iterated (body : Row → Action H E Bool) := iterate_of_readable C s body readable
      generalize w.updateStatus s.session Status.enterIteration = entered at iterated ⊢
      cases connected : (entered.session s.session).connected with
      | false =>
          refine .inl ⟨.refused .notOpen, entered,
            entered.updateStatus s.session Status.exitIteration, rfl, fun body => ?_⟩
          rw [iterated, Session.borrowing_of_disconnected connected]
      | true =>
          rw [Bool.not_true, if_neg Bool.false_ne_true, Action.modify_bind_run,
            Action.modify_bind_run]
          simp only [Session.borrowing_of_connected connected] at iterated
          generalize (entered.updateSession s.session fun s =>
            { s with borrowers := s.borrowers + 1 }).updateStatus s.session
              Status.discardStale = lent at iterated ⊢
          unfold heldSteps at iterated
          rcases holds : (Session.withBusy s.session (Session.explaining s.session
            (C.hold s.session s.text)) : Action H E (HeldStatement E)).run lent with
            ⟨failure | held, u⟩
          · rw [Action.bind_of_error holds]
            simp only [Action.bind_of_error holds] at iterated
            exact .inl ⟨failure, u, _, rfl, iterated⟩
          · rw [Action.bind_of_ok holds]
            simp only [Action.bind_of_ok holds] at iterated
            exact .inr ⟨held, bound, u, rfl, iterated⟩

/-- An iteration comes to look for rows, or it has no turns and its closure no part in it. -/
theorem iterate_parts (params : List HostValue) (w : World H E) :
    (∃ outcome, ∀ body, s.turns C body params w = [] ∧
      (s.iterate C params body).run w = outcome) ∨
    ∃ columns statement values v, ∀ body,
      s.turns C body params w = programTurns C s columns body []
        (E.execute s.session statement values v.store) v ∧
      (s.iterate C params body).run w =
        let stepped := s.rowSteps C columns body statement values v
        (stepped.1.2, s.endRows stepped.1.1 stepped.2) := by
  unfold turns
  rcases s.iterate_held C params w with ⟨failure, u, v, begun, iterated⟩ |
    ⟨held, bound, u, begun, iterated⟩
  · rw [begun]
    exact .inl ⟨_, fun body => ⟨rfl, iterated body⟩⟩
  · rw [begun]
    simp only [boundSteps_parts] at iterated
    rcases stepping : (s.beginSteps C held bound).run u with ⟨failure | ⟨statement, values⟩, v⟩
    · rw [stepping] at iterated
      exact .inl ⟨(.error failure, s.endRows held.info v), fun body =>
        ⟨by simp only [stepping], iterated body⟩⟩
    · rw [stepping] at iterated
      exact .inr ⟨held.info.columns, statement, values, v, fun body =>
        ⟨by simp only [stepping], iterated body⟩⟩

/-! ### Between two rows -/

variable {C s columns body}

theorem beginStep_of_closed {id : Nat} {w : World H E} (closed : (w.status id).isOpen = false) :
    beginStep id w = (.error (.refused .notOpen), w) := by
  unfold beginStep
  rw [Worldly.get_bind_apply]
  unfold Status.requireOpen
  rw [closed]
  rfl

theorem handOver_of_fault {values : List SqlValue} {fault : EngineFault}
    (unread : readRow s.integerMode columns values = .error fault) (w : World H E) :
    s.handOver columns body values w =
      (.inr (.error ((w.status s.session).explain fault).1),
        (w.updateStatus s.session Status.discardStale).updateStatus s.session
          Status.clearBusy) := by
  have discarded : w.updateStatus s.session (fun _ => (w.status s.session).discardStale) =
      w.updateStatus s.session Status.discardStale :=
    World.updateStatus_known w s.session Status.discardStale
  unfold handOver
  rw [unread, ← discarded]
  rfl

variable (body) in
theorem handOver_of_row {values : List SqlValue} {row : Row}
    (read : readRow s.integerMode columns values = .ok row) (w : World H E) :
    s.handOver columns body values w =
      let answered := (body row).run (w.updateStatus s.session Status.clearBusy)
      match answered.1 with
      | .error failure => (.inr (.error failure), answered.2)
      | .ok false => (.inr (.ok ()), answered.2)
      | .ok true =>
          match beginStep s.session answered.2 with
          | (.error failure, v) => (.inr (.error failure), v)
          | (.ok (), v) => (.inl (), v) := by
  have explained : (Session.explaining s.session (return .ok row) : Action H E Row).run w =
      (.ok row, w) := rfl
  unfold handOver
  rw [read, Worldly.bind_apply, explained]
  dsimp only
  rw [Worldly.bind_apply, Worldly.modify_apply]
  dsimp only
  rw [Worldly.bind_apply]
  rcases (body row).run (w.updateStatus s.session Status.clearBusy) with ⟨answer, u⟩
  rcases answer with failure | (_ | _)
  · rfl
  · rfl
  · dsimp only
    rw [Worldly.bind_apply]
    rcases beginStep s.session u with ⟨begun, v⟩
    cases begun with
    | error failure => rfl
    | ok begun => rfl

/-- When host code asks for more but the session is not open any more, it has had its last turn. -/
theorem programTurns_last {scans : Callbacks.Scans H} {program : Program E.Store Unit}
    {w : World H E} {earlier later : List (Turn H E)} {turn : Turn H E} {row : Row}
    (turns : programTurns C s columns body scans program w = earlier ++ turn :: later)
    (more : turn.answer = some (row, .ok true))
    (closed : (turn.left.status s.session).isOpen = false) :
    later = [] ∧ (C.drive s.session (fun _ values => s.handOver columns body values) () scans
      program w).1.1 = .left (.error (.refused .notOpen)) := by
  -- The turn is the next one, or the program comes to it when that one is over.
  induction program generalizing scans w earlier with
  | finish result store =>
      cases earlier with
      | nil => cases turns
      | cons first earlier => cases turns
  | ask demand store abandon resume resumed =>
      rw [programTurns] at turns
      rw [Callbacks.drive_ask]
      cases earlier with
      | nil =>
          cases List.cons.inj turns |>.1
          cases more
      | cons first earlier =>
          have rest := (List.cons.inj turns).2
          rcases served : C.serve s.session scans demand (w.updateStore fun _ => store) with
            ⟨⟨reply, left⟩, v⟩
          rw [served] at rest
          cases reply with
          | error failure => cases earlier <;> cases rest
          | ok reply => exact resumed reply v.store rest
  | row values store abandon resume resumed =>
      rw [programTurns] at turns
      rw [Callbacks.drive_row]
      unfold rowTurn? at turns
      cases read : readRow s.integerMode columns values with
      | error fault =>
          rw [read, handOver_of_fault read] at turns
          cases earlier <;> cases turns
      | ok row =>
          have offered := handOver_of_row body read (w.updateStore fun _ => store)
          rw [read] at turns
          dsimp only at turns offered
          rcases answered : (body row).run ((w.updateStore fun _ => store).updateStatus s.session
            Status.clearBusy) with ⟨answer, u⟩
          rw [answered] at turns offered
          cases earlier with
          | nil =>
              obtain ⟨rfl, rest⟩ := List.cons.inj turns
              cases more
              dsimp only at offered closed
              rw [beginStep_of_closed closed] at offered
              rw [offered] at rest ⊢
              exact ⟨rest.symm, rfl⟩
          | cons first earlier =>
              have rest := (List.cons.inj turns).2
              rcases handed : s.handOver columns body values (w.updateStore fun _ => store) with
                ⟨_ | exit, v⟩
              · rw [handed] at rest
                exact resumed v.store rest
              · rw [handed] at rest
                cases earlier <;> cases rest

theorem rowSteps_apply (statement : E.Statement) (values : List SqlValue) (w : World H E) :
    s.rowSteps C columns body statement values w =
      let driven := C.drive s.session (fun _ values => s.handOver columns body values) () []
        (E.execute s.session statement values w.store) w
      let closed := (Callbacks.closeScans s.session driven.1.2 driven.2).2
      match driven.1.1 with
      | .left exit => ((E.info statement, exit), closed)
      | .ended _ result =>
          let ended := endSteps s.session result closed
          ((E.info statement, ended.1), ended.2) := by
  unfold rowSteps Callbacks.run
  rw [Worldly.bind_apply, Worldly.get_bind_apply, Worldly.bind_apply]
  rcases C.drive s.session (fun _ values => s.handOver columns body values) () []
    (E.execute s.session statement values w.store) w with ⟨⟨outcome, scans⟩, u⟩
  cases outcome with
  | left exit => rfl
  | ended state result => rfl

theorem iterate_last {params : List HostValue} {w : World H E} {earlier later : List (Turn H E)}
    {turn : Turn H E} {row : Row}
    (turned : s.turns C body params w = earlier ++ turn :: later)
    (more : turn.answer = some (row, .ok true))
    (closed : (turn.left.status s.session).isOpen = false) :
    later = [] ∧ ((s.iterate C params body).run w).1 = .error (.refused .notOpen) := by
  rcases s.iterate_parts C params w with ⟨outcome, parts⟩ | ⟨columns, statement, values, v, parts⟩
  · rw [(parts body).1] at turned
    cases earlier <;> cases turned
  · obtain ⟨turns, iterated⟩ := parts body
    obtain ⟨last, left⟩ := programTurns_last (turns.symm.trans turned) more closed
    rw [iterated, rowSteps_apply]
    dsimp only
    rw [left]
    exact ⟨last, rfl⟩

/-! ### The turns are all there is -/

theorem handOver_repeated {other : Row → Action H E Bool} {values : List SqlValue} {w : World H E}
    (repeated : ∀ turn ∈ s.rowTurn? columns body values w, turn.Repeated other) :
    s.handOver columns other values w = s.handOver columns body values w := by
  unfold rowTurn? at repeated
  cases read : readRow s.integerMode columns values with
  | error fault =>
      rw [handOver_of_fault read, handOver_of_fault read]
  | ok row =>
      rw [read] at repeated
      have same := repeated _ rfl row _ rfl
      rw [handOver_of_row other read, handOver_of_row body read, same]

theorem drive_repeated {other : Row → Action H E Bool} {scans : Callbacks.Scans H}
    {program : Program E.Store Unit} {w : World H E}
    (repeated : ∀ turn ∈ programTurns C s columns body scans program w, turn.Repeated other) :
    C.drive s.session (fun _ values => s.handOver columns other values) () scans program w =
      C.drive s.session (fun _ values => s.handOver columns body values) () scans program w := by
  induction program generalizing scans w with
  | finish result store =>
      rfl
  | ask demand store abandon resume resumed =>
      rw [programTurns, List.forall_mem_cons] at repeated
      rw [Callbacks.drive_ask, Callbacks.drive_ask]
      rcases served : C.serve s.session scans demand (w.updateStore fun _ => store) with
        ⟨⟨_ | reply, left⟩, v⟩
      · rfl
      · rw [served] at repeated
        exact resumed reply v.store repeated.2
  | row values store abandon resume resumed =>
      rw [programTurns, List.forall_mem_append] at repeated
      have handed := handOver_repeated fun turn member =>
        repeated.1 turn (Option.mem_toList.mpr member)
      rw [Callbacks.drive_row, Callbacks.drive_row, handed]
      rcases answered : s.handOver columns body values (w.updateStore fun _ => store) with
        ⟨_ | exit, v⟩
      · rw [answered] at repeated
        exact resumed v.store repeated.2
      · rfl

/-- No closure that does the same in the turns of an iteration can be told from the one it has. -/
theorem iterate_repeated {other : Row → Action H E Bool} {params : List HostValue} {w : World H E}
    (repeated : ∀ turn ∈ s.turns C body params w, turn.Repeated other) :
    (s.iterate C params other).run w = (s.iterate C params body).run w := by
  rcases s.iterate_parts C params w with ⟨outcome, parts⟩ | ⟨columns, statement, values, v, parts⟩
  · rw [(parts other).2, (parts body).2]
  · obtain ⟨turns, iterated⟩ := parts body
    rw [turns] at repeated
    have stepped : s.rowSteps C columns other statement values v =
        s.rowSteps C columns body statement values v := by
      rw [rowSteps_apply, rowSteps_apply, drive_repeated repeated]
    rw [iterated, (parts other).2, stepped]

end Statement

end RowSource
