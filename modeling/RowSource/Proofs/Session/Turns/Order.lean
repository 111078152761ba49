import RowSource.Proofs.Session.Turns

/-!
# The order of turns

Host code takes its turns with an iteration one after another: each begins in a world that is later
than the one in which the turn before was over, and the iteration ends after the last.
-/

namespace RowSource

variable {H : Host} {E : Engine} {τ : Type}

/-- Turns that come one after another, between two worlds. -/
structure Turns (later : World H E → World H E → Prop) (w v : World H E)
    (turns : List (Turn H E)) : Prop where
  since : later w v
  reached : ∀ turn ∈ turns, later w turn.entered
  left : ∀ turn ∈ turns, later turn.left v
  ordered : turns.Pairwise fun turn next => later turn.left next.entered

namespace Turns

variable {view : E.Store → τ} {later : World H E → World H E → Prop}
  (evolution : Evolution view later) {w v u : World H E}

theorem none (since : later w v) : Turns later w v [] where
  since := since
  reached _ member := nomatch member
  left _ member := nomatch member
  ordered := .nil

include evolution

theorem one {turn : Turn H E} (entered : later w turn.entered)
    (served : later turn.entered turn.left) (left : later turn.left v) :
    Turns later w v [turn] where
  since := evolution.trans entered (evolution.trans served left)
  reached := List.forall_mem_singleton.mpr entered
  left := List.forall_mem_singleton.mpr left
  ordered := List.pairwise_singleton _ _

theorem append {earlier rest : List (Turn H E)} (first : Turns later w v earlier)
    (second : Turns later v u rest) : Turns later w u (earlier ++ rest) where
  since := evolution.trans first.since second.since
  reached turn member := by
    rcases List.mem_append.mp member with early | late
    · exact first.reached turn early
    · exact evolution.trans first.since (second.reached turn late)
  left turn member := by
    rcases List.mem_append.mp member with early | late
    · exact evolution.trans (first.left turn early) second.since
    · exact second.left turn late
  ordered := by
    refine List.pairwise_append.mpr ⟨first.ordered, second.ordered, ?_⟩
    intro turn early next late
    exact evolution.trans (first.left turn early) (second.reached next late)

theorem after {turns : List (Turn H E)} (since : later w v) (rest : Turns later v u turns) :
    Turns later w u turns :=
  append evolution (none since) rest

theorem cons {turn : Turn H E} {turns : List (Turn H E)} (entered : later w turn.entered)
    (served : later turn.entered turn.left) (rest : Turns later turn.left u turns) :
    Turns later w u (turn :: turns) :=
  append evolution (one evolution entered served (evolution.refl turn.left)) rest

end Turns

namespace Statement

section Order

variable {C : Callbacks H E} {s : Statement} {columns : List String}
  {body : Row → Action H E Bool} {view : E.Store → τ} {later : World H E → World H E → Prop}
  (evolution : Evolution view later) (hosted : ∀ row, Steady later (body row).run)
include evolution

theorem later_clearBusy (id : Nat) (w : World H E) :
    later w (w.updateStatus id Status.clearBusy) :=
  evolution.later_updateStatus (f := Status.clearBusy) (fun _ => rfl) id w

theorem later_discardStale (id : Nat) (w : World H E) :
    later w (w.updateStatus id Status.discardStale) :=
  evolution.later_updateStatus (f := Status.discardStale) (fun _ => rfl) id w

theorem beginStep_later (id : Nat) (w : World H E) : later w (beginStep id w).2 := by
  unfold beginStep
  rw [Worldly.get_bind_apply]
  cases (w.status id).requireOpen with
  | error failure =>
      exact evolution.refl w
  | ok opened =>
      dsimp only
      rw [Worldly.get_bind_apply]
      unfold Status.markBusy
      cases (w.status id).isBusy with
      | true =>
          exact evolution.refl w
      | false =>
          have begun := evolution.later_updateStatus
            (f := fun status => { status with isBusy := true }) (fun _ => rfl) id w
          have known := w.updateStatus_known id fun status => { status with isBusy := true }
          change later w (w.updateStatus id fun _ => { w.status id with isBusy := true })
          rw [known]
          exact begun

include hosted in
theorem handOver_turns (columns : List String) (values : List SqlValue) (w : World H E) :
    Turns later w (s.handOver columns body values w).2
      (s.rowTurn? columns body values w).toList := by
  unfold rowTurn?
  cases read : readRow s.integerMode columns values with
  | error fault =>
      rw [handOver_of_fault read]
      have discarded := later_discardStale evolution s.session w
      exact .none (evolution.trans discarded (later_clearBusy evolution s.session _))
  | ok row =>
      rw [handOver_of_row body read]
      have answers := (hosted row (w.updateStatus s.session Status.clearBusy)).1
      refine .one evolution (later_clearBusy evolution s.session w) answers ?_
      dsimp only
      rcases (body row).run (w.updateStatus s.session Status.clearBusy) with ⟨answer, u⟩
      rcases answer with failure | (_ | _)
      · exact evolution.refl u
      · exact evolution.refl u
      · have begins := beginStep_later evolution s.session u
        dsimp only
        rcases begun : beginStep s.session u with ⟨_ | _, v⟩
        · rw [begun] at begins
          exact begins
        · rw [begun] at begins
          exact begins

include hosted in
/-- Host code takes its turns with a program one after another. -/
theorem drive_turns (columns : List String) (steady : C.Steady later) (scans : Callbacks.Scans H)
    {program : Program E.Store Unit} {w : World H E}
    (keeps : program.Keeps view (view w.store)) :
    Turns later w
      (C.drive s.session (fun _ values => s.handOver columns body values) () scans program w).2
      (programTurns C s columns body scans program w) := by
  -- What is seen of the store is what was seen when the program was handed it last.
  induction program generalizing scans w with
  | finish result store =>
      exact .none (evolution.later_updateStore (f := fun _ => store) keeps)
  | ask demand store abandon resume resumed =>
      obtain ⟨same, abandons, resumes⟩ := keeps
      have stored : later w (w.updateStore fun _ => store) := evolution.later_updateStore same
      have serving := (evolution.serve steady s.session scans demand
        (w.updateStore fun _ => store)).1
      rw [programTurns, Callbacks.drive_ask]
      refine .cons evolution stored serving ?_
      rcases C.serve s.session scans demand (w.updateStore fun _ => store) with
        ⟨⟨reply, left⟩, v⟩
      cases reply with
      | ok reply =>
          exact resumed reply v.store left (resumes reply v.store)
      | error failure =>
          have abandoned := evolution.later_updateStore (abandons v.store)
          have deferred := evolution.later_updateStatus
            (f := fun status => status.deferFailure failure) (fun status => by
              unfold Status.deferFailure
              cases status.pending <;> rfl) s.session
          exact .none (evolution.trans abandoned (deferred _))
  | row values store abandon resume resumed =>
      obtain ⟨same, abandons, resumes⟩ := keeps
      have stored : later w (w.updateStore fun _ => store) := evolution.later_updateStore same
      have handed := handOver_turns (s := s) evolution hosted columns values
        (w.updateStore fun _ => store)
      rw [programTurns, Callbacks.drive_row]
      refine .after evolution stored (handed.append evolution ?_)
      rcases s.handOver columns body values (w.updateStore fun _ => store) with ⟨_ | exit, v⟩
      · exact resumed v.store scans (resumes v.store)
      · exact .none (evolution.later_updateStore (abandons v.store))

theorem endSteps_later (id : Nat) (result : Except EngineFault Unit) (w : World H E) :
    later w (endSteps id result w).2 := by
  cases result with
  | ok complete =>
      exact later_clearBusy evolution id w
  | error fault =>
      have discarded := later_discardStale evolution id w
      have known := w.updateStatus_known id Status.discardStale
      change later w ((w.updateStatus id fun _ => (w.status id).discardStale).updateStatus id
        Status.clearBusy)
      rw [known]
      exact evolution.trans discarded (later_clearBusy evolution id _)

theorem endRows_later (info : StatementInfo) (w : World H E) : later w (s.endRows info w) := by
  have kept := evolution.later_updateSession (f := Session.keep s.text info) (fun known => by
    unfold Session.keep
    split <;> rfl) s.session w
  have returned := evolution.later_updateSession
    (f := fun s => { s with borrowers := s.borrowers - 1 }) (fun _ => rfl) s.session
  have exited := evolution.later_updateStatus (f := Status.exitIteration) (fun _ => rfl) s.session
  exact evolution.trans kept (evolution.trans (returned _) (exited _))

theorem closeScans_later (id : Nat) (scans : Callbacks.Scans H) (w : World H E) :
    later w (Callbacks.closeScans id scans w).2 := by
  induction scans generalizing w with
  | nil =>
      exact evolution.refl w
  | cons scan rest closed =>
      have exited := evolution.later_updateStatus (f := Status.exitIteration) (fun _ => rfl) id w
      exact evolution.trans exited (closed _)

include hosted in
/-- Host code takes its turns with an iteration one after another, and the iteration ends after the
last of them. -/
theorem iterate_turns (steady : C.Steady later) (engine : E.StatementsKeep view) (params : List HostValue)
    (w : World H E) :
    (∀ turn ∈ s.turns C body params w, later turn.left ((s.iterate C params body).run w).2) ∧
      (s.turns C body params w).Pairwise fun turn next => later turn.left next.entered := by
  rcases s.iterate_parts C params w with ⟨outcome, parts⟩ | ⟨columns, statement, values, v, parts⟩
  · rw [(parts body).1]
    exact ⟨fun _ member => (nomatch member), .nil⟩
  · obtain ⟨turned, iterated⟩ := parts body
    rw [turned, iterated]
    have turns := drive_turns (s := s) evolution hosted columns steady []
      (engine.execute s.session statement values v.store)
    refine ⟨fun turn member => evolution.trans (turns.left turn member) ?_, turns.ordered⟩
    rw [rowSteps_apply]
    rcases C.drive s.session (fun _ values => s.handOver columns body values) () []
      (E.execute s.session statement values v.store) v with ⟨⟨outcome, scans⟩, u⟩
    have closed := closeScans_later evolution s.session scans u
    cases outcome with
    | left exit =>
        exact evolution.trans closed (endRows_later evolution _ _)
    | ended state result =>
        exact evolution.trans closed (evolution.trans (endSteps_later evolution _ _ _)
          (endRows_later evolution _ _))

end Order

end Statement

end RowSource
