import RowSource.Proofs.Session.Agreement
import RowSource.Proofs.Session.Turns
import RowSource.Proofs.Session.WriteGuard

/-!
# Three ways to read

A statement is read to its first row, for all its rows, or row by row with host code running in
between. The rows are the same in all three, and so is the failure, if the reading comes to one,
provided that the answers of callbacks depend on their arguments alone and that host code leaves the
store and the session as they are.
-/

namespace RowSource

variable {H : Host} {E : Engine} {C : Callbacks H E} {s : Statement} {S α β : Type} {id : Nat}

theorem Callbacks.run_apply (offer : S → List SqlValue → Worldly H E (S ⊕ β)) (state : S)
    (routine : Routine E.Store α) (w : World H E) :
    C.run id offer state routine w =
      let driven := C.drive id offer state [] (routine w.store) w
      (driven.1.1, (Callbacks.closeScans id driven.1.2 driven.2).2) := by
  unfold Callbacks.run
  rw [Worldly.get_bind_apply, Worldly.bind_apply]
  rfl

namespace Statement

variable (plain : C.Plain s.session)

/-! ### The rows of a program -/

/-- What a program comes to when all its rows are read. -/
structure Found (H : Host) (E : Engine) where
  rows : List Row
  ending : Except EngineFault Unit
  scans : Callbacks.Scans H
  world : World H E

variable (C s) in
def programRows (columns : List String) (scans : Callbacks.Scans H) :
    Program E.Store Unit → World H E → Found H E
  | .finish result store, w => ⟨[], result, scans, w.updateStore fun _ => store⟩
  | .ask demand store abandon resume, w =>
      match C.serve s.session scans demand (w.updateStore fun _ => store) with
      | ((.ok reply, scans), v) => programRows columns scans (resume reply v.store) v
      | ((.error failure, scans), v) =>
          ⟨[], .error (.failed 1 (some failure.message)), scans,
            (v.updateStore abandon).deferred s.session failure⟩
  | .row values store abandon resume, w =>
      match readRow s.integerMode columns values with
      | .error fault =>
          ⟨[], .error fault, scans, (w.updateStore fun _ => store).updateStore abandon⟩
      | .ok row =>
          let later := programRows columns scans (resume store) (w.updateStore fun _ => store)
          { later with rows := row :: later.rows }

variable {columns : List String}

def collected : Callbacks.Outcome (List Row) Unit EngineFault → Except EngineFault (List Row)
  | .ended rows (.ok _) => .ok rows.reverse
  | .ended _ (.error fault) | .left fault => .error fault

def gather (s : Statement) (columns : List String) (rows : List Row) (values : List SqlValue) :
    List Row ⊕ EngineFault :=
  match readRow s.integerMode columns values with
  | .ok row => .inl (row :: rows)
  | .error fault => .inr fault

variable (columns) in
theorem drive_gather {offer : List Row → List SqlValue → Worldly H E (List Row ⊕ EngineFault)}
    (gathers : ∀ rows values w, offer rows values w = (s.gather columns rows values, w))
    (program : Program E.Store Unit) (rows : List Row) (scans : Callbacks.Scans H)
    (w : World H E) :
    let found := programRows C s columns scans program w
    let driven := C.drive s.session offer rows scans program w
    collected driven.1.1 = found.ending.map (fun _ => rows.reverse ++ found.rows) ∧
      driven.1.2 = found.scans ∧ driven.2 = found.world := by
  induction program generalizing rows scans w with
  | finish result store =>
      refine ⟨?_, rfl, rfl⟩
      cases result with
      | error fault => rfl
      | ok value => exact congrArg Except.ok (List.append_nil _).symm
  | ask demand store abandon resume resumed =>
      rw [Callbacks.drive_ask, programRows]
      rcases C.serve s.session scans demand (w.updateStore fun _ => store) with
        ⟨⟨failure | reply, left⟩, v⟩
      · exact ⟨rfl, rfl, rfl⟩
      · exact resumed reply v.store rows left v
  | row values store abandon resume resumed =>
      rw [Callbacks.drive_row, programRows, gathers]
      unfold gather
      cases readRow s.integerMode columns values with
      | error fault => exact ⟨rfl, rfl, rfl⟩
      | ok row =>
          obtain ⟨same, after⟩ := resumed store (row :: rows) scans (w.updateStore fun _ => store)
          refine ⟨same.trans ?_, after⟩
          rw [List.reverse_cons, List.append_assoc]
          rfl

/-- The first of the rows. If there are none, the ending tells what comes instead. -/
def foremost {ε : Type} (ending : Except ε Unit) : List Row → Except ε (Option Row)
  | [] => ending.map fun _ => none
  | row :: _ => .ok (some row)

def firstRead (s : Statement) (columns : List String) :
    Callbacks.Outcome Unit Unit (List SqlValue) → Except EngineFault (Option Row)
  | .ended _ result => result.map fun _ => none
  | .left values => (readRow s.integerMode columns values).map some

variable (columns) in
theorem drive_first (program : Program E.Store Unit) (scans : Callbacks.Scans H)
    (w : World H E) :
    let found := programRows C s columns scans program w
    let driven := C.drive s.session (fun _ values => return .inr values) () scans program w
    s.firstRead columns driven.1.1 = foremost found.ending found.rows ∧
      (found.rows = [] → driven.2 = found.world) := by
  induction program generalizing scans w with
  | finish result store => exact ⟨rfl, fun _ => rfl⟩
  | ask demand store abandon resume resumed =>
      rw [Callbacks.drive_ask, programRows]
      rcases C.serve s.session scans demand (w.updateStore fun _ => store) with
        ⟨⟨failure | reply, left⟩, v⟩
      · exact ⟨rfl, fun _ => rfl⟩
      · exact resumed reply v.store left v
  | row values store abandon resume _ =>
      rw [Callbacks.drive_row, programRows]
      have read : s.firstRead columns (.left values) =
          (readRow s.integerMode columns values).map some := rfl
      cases here : readRow s.integerMode columns values with
      | error fault =>
          rw [here] at read
          exact ⟨read, fun _ => rfl⟩
      | ok row =>
          rw [here] at read
          exact ⟨read, fun none => by cases none⟩

/-! ### The rows of a routine -/

variable (C s) in
def routineRows (columns : List String) (routine : Routine E.Store Unit) (w : World H E) :
    Found H E :=
  programRows C s columns [] (routine w.store) w

def Found.ended (id : Nat) (found : Found H E) : Except Failure Unit :=
  explained id (found.ending, found.world)

theorem collect_explained (routine : Routine E.Store Unit) (w : World H E) :
    let found := s.routineRows C columns routine w
    explained s.session (C.collect s.session (readRow s.integerMode columns) routine w) =
      (found.ended s.session).map fun _ => found.rows := by
  unfold Callbacks.collect
  rw [Worldly.bind_apply, Callbacks.run_apply]
  generalize ran : C.drive s.session _ [] [] (routine w.store) w = driven
  obtain ⟨same, scans, world⟩ : collected driven.1.1 = _ ∧ driven.1.2 = _ ∧ driven.2 = _ := by
    rw [← ran]
    refine drive_gather columns (fun rows values w => ?_) (routine w.store) [] [] w
    unfold gather
    cases readRow s.integerMode columns values <;> rfl
  obtain ⟨⟨outcome, _⟩, _⟩ := driven
  cases scans
  cases world
  intro found
  trans explained s.session
    (collected outcome, (Callbacks.closeScans s.session found.scans found.world).2)
  · rcases outcome with ⟨rows, fault | value⟩ | fault <;> rfl
  · rw [explained_closeScans, same]
    exact explained_map _ _ _

variable (C s) in
def readFirst (columns : List String) (routine : Routine E.Store Unit) :
    Worldly H E (Except EngineFault (Option Row)) := do
  match ← C.first s.session routine with
  | .error fault => return .error fault
  | .ok none => return .ok none
  | .ok (some values) => return (readRow s.integerMode columns values).map some

theorem readFirst_explained (routine : Routine E.Store Unit) (w : World H E) :
    let found := s.routineRows C columns routine w
    explained s.session (s.readFirst C columns routine w) =
      foremost (found.ended s.session) found.rows := by
  obtain ⟨same, last⟩ :=
    drive_first (C := C) (s := s) columns (routine w.store) [] w
  unfold readFirst Callbacks.first
  rw [Worldly.bind_apply, Worldly.bind_apply, Callbacks.run_apply]
  dsimp only
  change s.firstRead columns _ = foremost (s.routineRows C columns routine w).ending
    (s.routineRows C columns routine w).rows at same
  change (s.routineRows C columns routine w).rows = [] →
    _ = (s.routineRows C columns routine w).world at last
  generalize C.drive s.session (fun _ values => return .inr values) () []
    (routine w.store) w = driven at same last ⊢
  generalize s.routineRows C columns routine w = found at same last ⊢
  obtain ⟨⟨outcome, scans⟩, u⟩ := driven
  trans explained s.session
    (s.firstRead columns outcome, (Callbacks.closeScans s.session scans u).2)
  · rcases outcome with ⟨⟨⟩, fault | value⟩ | values <;> rfl
  · rw [explained_closeScans, same]
    obtain ⟨rows, ending, _, _⟩ := found
    cases rows with
    | nil =>
        cases last rfl
        exact explained_map _ _ _
    | cons row rows => rfl

/-! ### The rows of an iteration -/

/-- How rows that come to an ending are handed over: one after another for as long as the answer is to
go on. -/
inductive Iterates (ending : Except Failure Unit) :
    List Row → List (Row × Except Failure Bool) → Except Failure Unit → Prop
  | ended : Iterates ending [] [] ending
  | more {rows answers result} (row : Row) (later : Iterates ending rows answers result) :
      Iterates ending (row :: rows) ((row, .ok true) :: answers) result
  | left (row : Row) (rows : List Row) {answer : Except Failure Bool} (leaves : answer ≠ .ok true) :
      Iterates ending (row :: rows) [(row, answer)] (answer.map fun _ => ())

namespace Iterates

variable {ending result : Except Failure Unit} {rows : List Row}
  {answers : List (Row × Except Failure Bool)}

theorem of_continued (iterates : Iterates ending rows answers result)
    (continued : ∀ row answer, (row, answer) ∈ answers → answer = .ok true) :
    answers.map Prod.fst = rows ∧ result = ending := by
  induction iterates with
  | ended => exact ⟨rfl, rfl⟩
  | more row _ later =>
      obtain ⟨same, ended⟩ := later fun row answer member =>
        continued row answer (List.mem_cons_of_mem _ member)
      exact ⟨congrArg (row :: ·) same, ended⟩
  | left row rows leaves => exact absurd (continued row _ List.mem_cons_self) leaves

theorem of_left (iterates : Iterates ending rows answers result) {number : Nat} {row : Row}
    {answer : Except Failure Bool} (answered : answers[number]? = some (row, answer))
    (leaves : answer ≠ .ok true) :
    answers.map Prod.fst = rows.take (number + 1) ∧ result = answer.map fun _ => () := by
  induction iterates generalizing number with
  | ended => cases answered
  | more first _ later =>
      cases number with
      | zero =>
          cases answered
          exact absurd rfl leaves
      | succ number =>
          obtain ⟨same, left⟩ := later (List.getElem?_cons_succ.symm.trans answered)
          exact ⟨congrArg (first :: ·) same, left⟩
  | left first rows _ =>
      cases number with
      | zero =>
          cases answered
          exact ⟨rfl, rfl⟩
      | succ number => cases answered

end Iterates

theorem beginStep_of_idle {w : World H E} (opened : (w.status id).isOpen = true)
    (idle : (w.status id).isBusy = false) :
    beginStep id w =
      (.ok (), w.updateStatus id fun status => { status with isBusy := true }) := by
  unfold beginStep Status.requireOpen Status.markBusy
  rw [Worldly.get_bind_apply, opened, if_pos rfl]
  dsimp only
  rw [Worldly.get_bind_apply, idle,
    ← w.updateStatus_known id fun status => { status with isBusy := true }]
  rfl

theorem endSteps_result (result : Except EngineFault Unit) (w : World H E) :
    (endSteps id result w).1 = explained id (result, w) :=
  Session.explaining_result (return result) w

def doneWith (id : Nat) : Callbacks.Outcome Unit Unit (Except Failure Unit) → World H E →
    Except Failure Unit
  | .ended _ result, w => explained id (result, w)
  | .left exit, _ => exit

section Aside

variable {body : Row → Action H E Bool}
  (aside : ∀ row (w : World H E), w.Leaves s.session ((body row).run w).2)
include aside

/-- Host code that leaves store and session as they are has a turn with the row, and its answer says
whether the engine goes on where it was. -/
theorem handOver_aside {w v : World H E} (agree : w.Agree s.session v) {values : List SqlValue}
    {row : Row} (read : readRow s.integerMode columns values = .ok row) :
    ∃ turn answer u, s.rowTurn? columns body values v = some turn ∧
      turn.answer = some (row, answer) ∧
      (answer = .ok true ∧ s.handOver columns body values v = (.inl (), u) ∧
          w.Agree s.session u ∨
        answer ≠ .ok true ∧
          s.handOver columns body values v = (.inr (answer.map fun _ => ()), u)) := by
  obtain ⟨agreed, idle⟩ := agree.cleared
  have leaves := aside row (v.updateStatus s.session Status.clearBusy)
  unfold rowTurn?
  rw [read, handOver_of_row body read]
  dsimp only
  generalize (body row).run (v.updateStatus s.session Status.clearBusy) = answered at leaves ⊢
  obtain ⟨answer, u⟩ := answered
  rcases answer with failure | (_ | _)
  · exact ⟨_, .error failure, u, rfl, rfl, .inr ⟨fun same => (by cases same), rfl⟩⟩
  · exact ⟨_, .ok false, u, rfl, rfl, .inr ⟨fun same => (by cases same), rfl⟩⟩
  · have left := agreed.symm.leaves leaves
    have free : (u.status s.session).isBusy = false := by
      unfold World.status
      rw [leaves.session]
      exact idle
    refine ⟨_, .ok true, _, rfl, rfl, .inl ⟨rfl, ?_, left.symm.busied⟩⟩
    dsimp only
    rw [beginStep_of_idle left.opened free]

variable (columns) in
include plain in
theorem drive_handOver (program : Program E.Store Unit) (scans : Callbacks.Scans H)
    {w v : World H E} (agree : w.Agree s.session v) :
    let found := programRows C s columns scans program w
    let driven := C.drive s.session (fun _ values => s.handOver columns body values) () scans
      program v
    Iterates (explained s.session (found.ending, found.world)) found.rows
      ((programTurns C s columns body scans program v).filterMap Turn.answer)
      (doneWith s.session driven.1.1 driven.2) := by
  -- The worlds agree before every step of the program. Host code is the only difference between them,
  -- and it leaves what they agree on.
  induction program generalizing scans w v with
  | finish result store =>
      have same := (agree.updateStore fun _ => store).explained result
      change Iterates (explained s.session (result, w.updateStore fun _ => store)) [] []
        (explained s.session (result, v.updateStore fun _ => store))
      rw [same]
      exact .ended
  | ask demand store abandon resume resumed =>
      obtain ⟨same, left⟩ := plain.serve scans demand _ _ (agree.updateStore fun _ => store)
      rw [Callbacks.drive_ask, programRows, programTurns]
      dsimp only
      rw [List.filterMap_cons_none rfl]
      generalize C.serve s.session scans demand (w.updateStore fun _ => store) = here at same left ⊢
      generalize C.serve s.session scans demand (v.updateStore fun _ => store) = there
        at same left ⊢
      obtain ⟨served, u⟩ := here
      obtain ⟨_, u'⟩ := there
      cases same
      rcases served with ⟨failure | reply, scans⟩
      · have deferred : ((u.updateStore abandon).deferred s.session failure).Agree s.session
            ((u'.updateStore abandon).deferred s.session failure) :=
          (Callbacks.deferred_respects failure _ _ (left.updateStore abandon)).2
        let given : Except EngineFault Unit := .error (.failed 1 (some failure.message))
        change Iterates (explained s.session (given, _)) [] [] (explained s.session (given, _))
        rw [deferred.explained given]
        exact .ended
      · dsimp only
        rw [left.store]
        exact resumed reply u'.store scans left
  | row values store abandon resume resumed =>
      have agree := agree.updateStore fun _ => store
      rw [Callbacks.drive_row, programRows, programTurns]
      cases read : readRow s.integerMode columns values with
      | error fault =>
          have unread : s.rowTurn? columns body values (v.updateStore fun _ => store) = none := by
            unfold rowTurn?
            rw [read]
          rw [handOver_of_fault read, unread]
          change Iterates (.error (((w.updateStore fun _ => store).status s.session).explain fault).1)
            [] [] (.error _)
          rw [agree.explain]
          exact .ended
      | ok row =>
          obtain ⟨turn, answer, u, turned, answered, ⟨rfl, handed, left⟩ | ⟨leaves, handed⟩⟩ :=
            handOver_aside aside agree read
          · rw [handed, turned]
            have same : store = u.store := left.store
            have later := resumed u.store scans left
            dsimp only
            rw [Option.toList_some, List.singleton_append, List.filterMap_cons_some answered, same]
            rw [same] at later
            exact .more row later
          · rw [handed, turned]
            dsimp only
            rw [Option.toList_some, List.append_nil, List.filterMap_cons_some answered]
            exact .left row _ leaves

variable (columns) in
include plain in
theorem rowSteps_iterates (statement : E.Statement) (values : List SqlValue) {w v : World H E}
    (agree : w.Agree s.session v) :
    let found := s.routineRows C columns (E.execute s.session statement values) w
    Iterates (found.ended s.session) found.rows
      ((programTurns C s columns body [] (E.execute s.session statement values v.store) v).filterMap
        Turn.answer)
      (s.rowSteps C columns body statement values v).1.2 := by
  have iterates := drive_handOver plain columns aside
    (E.execute s.session statement values w.store) [] agree
  rw [rowSteps_apply, ← agree.store]
  generalize C.drive s.session (fun _ values => s.handOver columns body values) () []
    (E.execute s.session statement values w.store) v = driven at iterates ⊢
  obtain ⟨⟨outcome, scans⟩, u⟩ := driven
  cases outcome with
  | left exit => exact iterates
  | ended state result =>
      have ended : (endSteps s.session result
          (Callbacks.closeScans s.session scans u).2).1 = explained s.session (result, u) := by
        rw [endSteps_result]
        exact explained_closeScans result scans u
      dsimp only
      rw [ended]
      exact iterates

end Aside

/-! ### One call and many -/

/-- What becomes of columns, statement and values when the engine has them ready. -/
abbrev Use (H : Host) (E : Engine) (α : Type) :=
  List String → E.Statement → List SqlValue → Worldly H E (Except EngineFault α)

variable (C s) in
open Session in
/-- Reads in one call of the engine, as reading the first row and reading all rows do. -/
def reading (params : List HostValue) (use : Use H E α) : Action H E α := do
  let values ← s.beginRead params
  withBusy s.session <| withConnection s.session <| s.withEngine C values use

theorem withEngine_explained (use : Use H E α) (values : List SqlValue) (w : World H E) :
    explained s.session (s.withEngine C values use w) =
      match C.hold s.session s.text w with
      | (.error fault, v) => explained s.session (.error fault, v)
      | (.ok held, v) =>
          let stepped := withEngine.stepped C s values use held v
          explained s.session (stepped.1.2, stepped.2) := by
  unfold withEngine
  rw [Worldly.bind_apply]
  rcases C.hold s.session s.text w with ⟨fault | held, v⟩
  · rfl
  · exact explained_keep s.text _ _ _

include plain in
/-- A statement that is held comes to be stepped in both ways, or it fails with the same failure. -/
theorem stepped_parts (held : HeldStatement E) (bound : List SqlValue) {w v : World H E}
    (agree : w.Agree s.session v) (idle : (v.status s.session).isBusy = false) :
    (∃ failure u, (s.beginSteps C held bound).run v = (.error failure, u) ∧
      ∀ {α : Type} (use : Use H E α),
        let stepped := withEngine.stepped C s bound use held w
        explained s.session (stepped.1.2, stepped.2) = .error failure) ∨
    ∃ statement values u u', (s.beginSteps C held bound).run v = (.ok (statement, values), u') ∧
      u.Agree s.session u' ∧
      ∀ {α : Type} (use : Use H E α),
        let stepped := withEngine.stepped C s bound use held w
        explained s.session (stepped.1.2, stepped.2) =
          explained s.session (use held.info.columns statement values u) := by
  have binds : Respects (H := H) (E := E) s.session (return held.info.bind bound) := .pure _
  unfold beginSteps withEngine.stepped
  rcases binds.withBusy_explaining agree idle with ⟨fault, _, u, called, began⟩ |
    ⟨values, _, u, called, agree, idle, began⟩
  · obtain ⟨unbound, rfl⟩ := Prod.mk.inj called
    rw [Action.bind_of_error began, unbound]
    exact .inl ⟨_, u, rfl, fun use => rfl⟩
  · obtain ⟨binding, rfl⟩ := Prod.mk.inj called
    have begun : (ExceptT.mk (beginStep s.session) : Action H E Unit).run u = _ :=
      beginStep_of_idle agree.symm.opened idle
    rw [Action.bind_of_ok began, Action.bind_of_ok begun, binding]
    dsimp only
    rw [ExceptT.run_mk, Worldly.bind_apply]
    simp only [Worldly.bind_apply]
    rcases (plain.renew s.text held).explaining agree.busied with
      ⟨fault, u, u', renewed, explained⟩ | ⟨statement, u, u', renewed, agree, explained⟩
    · rw [explained, renewed]
      exact .inl ⟨_, _, rfl, fun use => rfl⟩
    · rw [explained, renewed]
      exact .inr ⟨statement, values, u, u', rfl, agree, fun use => rfl⟩

variable (s) in
include plain in
/-- The same holds of a read up to where its statement is held. -/
theorem rows_parts (params : List HostValue) (w : World H E) :
    (∃ failure u, (s.beginRows C params).run w = (.error failure, u) ∧
      ∀ {α : Type} (use : Use H E α),
        ((s.reading C params use).run w).1 = .error failure) ∨
    ∃ held bound v u, (s.beginRows C params).run w = (.ok (held, bound), u) ∧
      v.Agree s.session u ∧ (u.status s.session).isBusy = false ∧
      ∀ {α : Type} (use : Use H E α),
        let stepped := withEngine.stepped C s bound use held v
        ((s.reading C params use).run w).1 = explained s.session (stepped.1.2, stepped.2) := by
  have reads : (s.beginRead params).run w = _ := s.beginRead_follows params w
  unfold beginRows reading
  cases readable : s.readable params (w.status s.session) with
  | error failure =>
      rw [readable] at reads
      exact .inl ⟨failure, w, Action.bind_of_error reads,
        fun use => congrArg Prod.fst (Action.bind_of_error reads)⟩
  | ok bound =>
      obtain ⟨_, opened, idle, _⟩ := (s.readable_eq_ok_iff params _ bound).mp readable
      rw [readable] at reads
      obtain ⟨agree, unbusied⟩ := World.Agree.entered opened idle
      rw [Action.bind_of_ok reads, Action.modify_bind_run, Action.get_bind_run]
      simp only [Action.bind_of_ok reads, Session.withBusy_of_idle idle]
      generalize w.updateStatus s.session Status.enterIteration = entered at agree unbusied ⊢
      generalize w.updateStatus s.session (fun status => { status with isBusy := true }) = busied
        at agree ⊢
      have same := agree.sees Session.connected fun _ => rfl
      cases connected : (entered.session s.session).connected with
      | false =>
          rw [connected] at same
          refine .inl ⟨_, _, rfl, fun use => ?_⟩
          rw [Session.withConnection_of_disconnected same]
      | true =>
          rw [connected] at same
          obtain ⟨agree, idle⟩ := agree.lent unbusied
          rw [Bool.not_true, if_neg Bool.false_ne_true, Action.modify_bind_run,
            Action.modify_bind_run]
          simp only [Session.withConnection_result same, withEngine_explained]
          rcases (plain.hold s.text).withBusy_explaining agree idle with
            ⟨fault, u, u', held, began⟩ | ⟨held, u, u', holds, agree, idle, began⟩
          · rw [held, Action.bind_of_error began]
            exact .inl ⟨_, u', rfl, fun use => rfl⟩
          · rw [holds, Action.bind_of_ok began]
            exact .inr ⟨held, bound, u, u', rfl, agree, idle, fun use => rfl⟩

variable (s) in
include plain in
/-- Every way of reading comes to step the same statement in worlds that agree, or fails with the same
failure. -/
theorem reading_parts (params : List HostValue) (w : World H E) :
    (∃ failure,
      (∀ {α : Type} (use : Use H E α),
        ((s.reading C params use).run w).1 = .error failure) ∧
      ∀ body, s.turns C body params w = [] ∧
        ((s.iterate C params body).run w).1 = .error failure) ∨
    ∃ columns statement values v u, v.Agree s.session u ∧
      (∀ {α : Type} (use : Use H E α),
        ((s.reading C params use).run w).1 =
          explained s.session (use columns statement values v)) ∧
      ∀ body, s.turns C body params w = programTurns C s columns body []
          (E.execute s.session statement values u.store) u ∧
        ((s.iterate C params body).run w).1 =
          (s.rowSteps C columns body statement values u).1.2 := by
  unfold turns
  rcases s.rows_parts plain params w with ⟨failure, u, begun, reads⟩ |
    ⟨held, bound, v, u, begun, agree, idle, reads⟩
  · rcases s.iterate_held C params w with ⟨_, _, v, same, iterated⟩ | ⟨_, _, _, same, _⟩
    · cases begun.symm.trans same
      rw [begun]
      exact .inl ⟨failure, reads, fun body => ⟨rfl, congrArg Prod.fst (iterated body)⟩⟩
    · cases begun.symm.trans same
  · rcases s.iterate_held C params w with ⟨_, _, _, same, _⟩ | ⟨_, _, _, same, iterated⟩
    · cases begun.symm.trans same
    · cases begun.symm.trans same
      rw [begun]
      simp only [boundSteps_parts] at iterated
      rcases stepped_parts plain held bound agree idle with ⟨failure, u', stepping, stepped⟩ |
        ⟨statement, values, v', u', stepping, agree, stepped⟩
      · rw [stepping] at iterated
        exact .inl ⟨failure, fun use => (reads use).trans (stepped use),
          fun body => ⟨by simp only [stepping], congrArg Prod.fst (iterated body)⟩⟩
      · rw [stepping] at iterated
        exact .inr ⟨held.info.columns, statement, values, v', u', agree,
          fun use => (reads use).trans (stepped use),
          fun body => ⟨by simp only [stepping], congrArg Prod.fst (iterated body)⟩⟩

variable (C s) in
/-- The rows that the engine has for a statement, up to the last one that can be read. -/
def rowsFound (params : List HostValue) (w : World H E) : List Row :=
  match ((s.reading C params fun columns statement values => do
    let found := s.routineRows C columns (E.execute s.session statement values) (← get)
    return .ok found.rows).run w).1 with
  | .ok rows => rows
  | .error _ => []

/-- A reader is read in three ways from the same world. If all its rows can be read, its first row is
the first of them, or none if there are none, and an iteration hands them out in order for as long as
its closure goes on; where the closure breaks off or fails, so does the iteration, with that row as the
last. If the rows come to a failure, the first row is that failure only if there is none before it, and
an iteration hands out the rows up to there and fails with it. The rows and answers are all that counts
of a closure: another one that does the same with them has the same iteration. -/
theorem read_paths_agree (plain : C.Plain s.session) (params : List HostValue) (w : World H E) :
    let rows := s.rowsFound C params w
    let everything := ((s.all C params).run w).1
    let ending := everything.map fun _ => ()
    everything = ending.map (fun _ => rows) ∧
      ((s.first C params).run w).1 = foremost ending rows ∧
      (∀ body other : Row → Action H E Bool,
        (∀ turn ∈ s.turns C body params w, turn.Repeated other) →
          (s.iterate C params other).run w = (s.iterate C params body).run w) ∧
      ∀ body : Row → Action H E Bool,
        (∀ row (w : World H E), w.Leaves s.session ((body row).run w).2) →
        let answers := (s.turns C body params w).filterMap Turn.answer
        let result := ((s.iterate C params body).run w).1
        ((∀ row answer, (row, answer) ∈ answers → answer = .ok true) →
            answers.map Prod.fst = rows ∧ result = ending) ∧
          ∀ number row answer, answers[number]? = some (row, answer) → answer ≠ .ok true →
            answers.map Prod.fst = rows.take (number + 1) ∧ result = answer.map fun _ => () := by
  have all_reads : s.all C params = s.reading C params fun columns statement values =>
      C.collect s.session (readRow s.integerMode columns)
        (E.execute s.session statement values) := rfl
  have first_reads : s.first C params = s.reading C params fun columns statement values =>
      s.readFirst C columns (E.execute s.session statement values) := rfl
  unfold rowsFound
  rw [all_reads, first_reads]
  rcases s.reading_parts plain params w with ⟨failure, reads, iterated⟩ |
    ⟨columns, statement, values, v, u, agree, reads, iterated⟩
  · simp only [reads]
    refine ⟨rfl, rfl, fun body other => iterate_repeated, fun body _ => ?_⟩
    obtain ⟨turns, result⟩ := iterated body
    rw [turns, result]
    exact ⟨fun _ => ⟨rfl, rfl⟩, fun number row answer answered => by cases answered⟩
  · have rows : explained s.session (((do
        let found := s.routineRows C columns (E.execute s.session statement values) (← get)
        return .ok found.rows) : Worldly H E (Except EngineFault (List Row))) v) =
          .ok (s.routineRows C columns (E.execute s.session statement values) v).rows := rfl
    have iterates (body : Row → Action H E Bool)
        (aside : ∀ row (w : World H E), w.Leaves s.session ((body row).run w).2) :=
      rowSteps_iterates plain columns aside statement values agree
    simp only [reads, rows, collect_explained, readFirst_explained]
    generalize s.routineRows C columns (E.execute s.session statement values) v = found
      at iterates ⊢
    have ending : ((found.ended s.session).map fun _ => found.rows).map (fun _ => ()) =
        found.ended s.session := by
      cases found.ended s.session <;> rfl
    rw [ending]
    refine ⟨rfl, rfl, fun body other => iterate_repeated, fun body aside => ?_⟩
    obtain ⟨turns, result⟩ := iterated body
    rw [turns, result]
    exact ⟨(iterates body aside).of_continued, fun _ _ _ answered leaves =>
      (iterates body aside).of_left answered leaves⟩

end Statement

/-! ### A listing that breaks off -/

namespace Listing

/-- An engine whose statements have two rows, and ask for a table after them. -/
def engine : Engine where
  Store := Unit
  Statement := Unit
  empty := ()
  openDatabase _ _ _ store := .ok store
  release _ store := store
  inTransaction _ _ := false
  createModule _ _ _ store := .ok store
  schemaDefect? _ := none
  compile _ _ := return ((), "")
  info _ := { isEmpty := false, columns := ["a"], readonly := true, parameters := 0 }
  isOutdated _ _ := false
  refresh _ store := store
  execute _ _ _ store :=
    .row [.text "one"] store (fun _ => ()) fun store =>
      .row [.text "two"] store (fun _ => ()) fun store =>
        .ask (.connect "m" []) store (fun _ => ()) fun _ store => .finish (.ok ()) store
  changes _ _ := 0
  lastRowid _ _ := 0

/-- Host code that counts the rows it was given. -/
abbrev host : Host where
  Memory := Nat
  Factory := Unit
  Generator := Empty
  Stream := Empty

def callbacks : Callbacks host engine where
  define _ _ := return .error (.message "no table today")
  generation :=
    { generate := fun generator _ => nomatch generator
      advance := fun stream => nomatch stream }

theorem plain : callbacks.Plain 0 where
  define _ _ := ⟨_, fun _ => ⟨rfl, rfl, rfl⟩⟩
  generate generator _ := nomatch generator
  advance stream := nomatch stream

def beginning : World host engine :=
  { sessions := [{ path := ":memory:", readonly := false, status := {}, modules := [⟨"m", ()⟩] }]
    registry := [0]
    memory := 0 }

def listing : Statement :=
  { session := 0, sql := "SELECT a FROM m", reader := true, readonly := true,
    integerMode := .loose }

def row (value : String) : Row := ⟨["a"], [.text value]⟩

/-- Counts a row and breaks off at the last that is wanted. -/
def count (wanted : Nat) (_ : Row) : Action host engine Bool := do
  modify fun w => { w with memory := w.memory + 1 }
  return (← get).memory != wanted

theorem aside_count (wanted : Nat) (row : Row) (w : World host engine) :
    w.Leaves 0 ((count wanted row).run w).2 :=
  ⟨rfl, rfl⟩

def answers (wanted : Nat) : List (Row × Except Failure Bool) :=
  (listing.turns callbacks (count wanted) [] beginning).filterMap Turn.answer

/-- The table cannot be had, so there are two rows and then a failure. -/
theorem read_paths_agree_listing :
    let failure : Failure := .host (.message "no table today")
    ((listing.all callbacks []).run beginning).1 = .error failure ∧
      ((listing.first callbacks []).run beginning).1 = .ok (some (row "one")) ∧
      (answers 3).map Prod.fst = [row "one", row "two"] ∧
      ((listing.iterate callbacks [] (count 3)).run beginning).1 = .error failure ∧
      (answers 1).map Prod.fst = [row "one"] ∧
      ((listing.iterate callbacks [] (count 1)).run beginning).1 = .ok () := by
  intro failure
  obtain ⟨_, first, _, iterates⟩ := Statement.read_paths_agree (s := listing) plain [] beginning
  have failed : ((listing.all callbacks []).run beginning).1 = .error failure := by
    decide +kernel
  have rows : listing.rowsFound callbacks [] beginning = [row "one", row "two"] := by
    decide +kernel
  have continued : answers 3 = [(row "one", .ok true), (row "two", .ok true)] := by
    decide +kernel
  have broken : (answers 1)[0]? = some (row "one", .ok false) := by
    decide +kernel
  rw [failed, rows] at first iterates
  have going (row : Row) (answer : Except Failure Bool) (member : (row, answer) ∈ answers 3) :
      answer = .ok true := by
    rw [continued] at member
    rcases List.mem_cons.mp member with here | member
    · exact congrArg Prod.snd here
    · exact congrArg Prod.snd (List.mem_singleton.mp member)
  obtain ⟨handed, ended⟩ := (iterates (count 3) (aside_count 3)).1 going
  obtain ⟨handedOnce, left⟩ := (iterates (count 1) (aside_count 1)).2 0 _ _ broken (by decide)
  exact ⟨failed, first, handed, ended, handedOnce, left⟩

end Listing

end RowSource
