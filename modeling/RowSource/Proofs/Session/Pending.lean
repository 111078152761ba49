import RowSource.Proofs.Session.Checks

/-!
# Pending failures

The failure of a callback waits on the status of its session. This module says which steps leave
no failure behind where none was waiting before: every step but the one that puts a failure there.
-/

namespace RowSource

variable {H : Host} {E : Engine} {α β : Type}

namespace World

theorem session_updateSession (w : World H E) (id other : Nat) (f : Session H → Session H) :
    (w.updateSession id f).session other =
      if id = other ∧ other < w.sessions.length then f (w.session other)
      else w.session other := by
  unfold session updateSession
  rw [List.getD_eq_getElem?_getD, List.getD_eq_getElem?_getD, List.getElem?_modify]
  by_cases within : other < w.sessions.length
  · rw [List.getElem?_eq_getElem within]
    by_cases same : id = other
    · simp [same, within]
    · simp [same]
  · rw [List.getElem?_eq_none (Nat.le_of_not_lt within)]
    simp [within]

/-- What comes later: no session is gone, and where no failure was pending none is. -/
structure Keeps (w v : World H E) : Prop where
  present : w.sessions.length ≤ v.sessions.length
  quiet (id : Nat) : (w.status id).pending = none → (v.status id).pending = none

theorem Keeps.refl (w : World H E) : w.Keeps w := ⟨Nat.le_refl _, fun _ quiet => quiet⟩

theorem Keeps.trans {w v u : World H E} (first : w.Keeps v) (second : v.Keeps u) : w.Keeps u where
  present := Nat.le_trans first.present second.present
  quiet id quiet := second.quiet id (first.quiet id quiet)

theorem keeps_append {session : Session H} (quiet : session.status.pending = none)
    (registry : List Nat) (store : E.Store) (w : World H E) :
    w.Keeps
      { w with sessions := w.sessions ++ [session], registry := registry, store := store } where
  present := by
    simp only [List.length_append]
    omega
  quiet id none := by
    unfold status World.session at none ⊢
    rw [List.getD_eq_getElem?_getD] at none ⊢
    rcases Nat.lt_trichotomy id w.sessions.length with within | same | beyond
    · rw [List.getElem?_append_left within]
      exact none
    · rw [same, List.getElem?_concat_length]
      exact quiet
    · rw [List.getElem?_eq_none (by rw [List.length_append, List.length_singleton]; omega)]
      rfl

theorem keeps_updateStore (f : E.Store → E.Store) (w : World H E) : w.Keeps (w.updateStore f) where
  present := Nat.le_refl _
  quiet _ quiet := quiet

theorem keeps_updateSession {f : Session H → Session H}
    (quiet : ∀ s, s.status.pending = none → (f s).status.pending = none) (id : Nat)
    (w : World H E) : w.Keeps (w.updateSession id f) where
  present := by
    unfold updateSession
    exact Nat.le_of_eq (List.length_modify ..).symm
  quiet other none := by
    unfold status at none ⊢
    rw [session_updateSession]
    split
    · exact quiet _ none
    · exact none

theorem keeps_updateStatus {f : Status → Status}
    (quiet : ∀ s, s.pending = none → (f s).pending = none) (id : Nat) (w : World H E) :
    w.Keeps (w.updateStatus id f) :=
  keeps_updateSession (fun s none => quiet s.status none) id w

/-- A session that is there and has no failure pending. -/
structure Ready (w : World H E) (id : Nat) : Prop where
  present : id < w.sessions.length
  quiet : (w.status id).pending = none

theorem Keeps.ready {w v : World H E} {id : Nat} (keeps : w.Keeps v) (ready : w.Ready id) :
    v.Ready id where
  present := Nat.lt_of_lt_of_le ready.present keeps.present
  quiet := keeps.quiet id ready.quiet

end World

/-- An action that leaves no failure behind where none was pending. -/
def Calm (action : Worldly H E α) : Prop := ∀ w : World H E, w.Keeps (action w).2

namespace Calm

theorem pure (value : α) : Calm (Pure.pure value : Worldly H E α) := fun w => .refl w

theorem bind {action : Worldly H E α} {rest : α → Worldly H E β} (first : Calm action)
    (second : ∀ value, Calm (rest value)) : Calm (action >>= rest) :=
  fun w => (first w).trans (second (action w).1 (action w).2)

theorem look (f : World H E → α) : Calm (do return f (← get)) := fun w => .refl w

theorem get_bind {rest : World H E → Worldly H E α} (next : ∀ w, Calm (rest w)) :
    Calm (get >>= rest) :=
  fun w => next w w

theorem updateStore (f : E.Store → E.Store) : Calm (H := H) (modify (World.updateStore f)) :=
  fun w => w.keeps_updateStore f

theorem updateSession {f : Session H → Session H} (id : Nat)
    (quiet : ∀ s, s.status.pending = none → (f s).status.pending = none) :
    Calm (E := E) (modify (World.updateSession id f)) :=
  fun w => w.keeps_updateSession quiet id

theorem updateStatus {f : Status → Status} (id : Nat)
    (quiet : ∀ s, s.pending = none → (f s).pending = none) :
    Calm (H := H) (E := E) (modify (World.updateStatus id f)) :=
  fun w => w.keeps_updateStatus quiet id

theorem updateSession_bind {f : Session H → Session H} {id : Nat} {rest : Unit → Worldly H E α}
    (quiet : ∀ s, s.status.pending = none → (f s).status.pending = none)
    (next : Calm (rest ())) : Calm (modify (World.updateSession id f) >>= rest) :=
  (Calm.updateSession id quiet).bind fun _ => next

theorem updateStatus_bind {f : Status → Status} {id : Nat} {rest : Unit → Worldly H E α}
    (quiet : ∀ s, s.pending = none → (f s).pending = none)
    (next : Calm (rest ())) : Calm (modify (World.updateStatus id f) >>= rest) :=
  (Calm.updateStatus id quiet).bind fun _ => next

theorem action_bind {action : Action H E α} {rest : α → Action H E β} (first : Calm action.run)
    (second : ∀ value, Calm (rest value).run) : Calm (action >>= rest).run := by
  change Calm (action.run >>= ExceptT.bindCont rest)
  apply Calm.bind first
  intro result
  cases result with
  | error failure =>
      exact Calm.pure _
  | ok value =>
      exact second value

theorem action_get_bind {rest : World H E → Action H E α} (next : ∀ w, Calm (rest w).run) :
    Calm (get >>= rest).run :=
  fun w => next w w

theorem updateStore_action_bind (f : E.Store → E.Store) {rest : Unit → Action H E α}
    (next : Calm (rest ()).run) :
    Calm ((modify (World.updateStore f) : Action H E Unit) >>= rest).run :=
  fun w => (w.keeps_updateStore f).trans (next _)

theorem updateSession_action_bind {f : Session H → Session H} {id : Nat}
    {rest : Unit → Action H E α}
    (quiet : ∀ s, s.status.pending = none → (f s).status.pending = none)
    (next : Calm (rest ()).run) :
    Calm ((modify (World.updateSession id f) : Action H E Unit) >>= rest).run :=
  fun w => (w.keeps_updateSession quiet id).trans (next _)

theorem action_tryCatch {action : Action H E α} {handler : Failure → Action H E α}
    (tried : Calm action.run) (handled : ∀ failure, Calm (handler failure).run) :
    Calm (tryCatch action handler).run := by
  rw [ExceptT.run_tryCatch]
  apply tried.bind
  intro result
  cases result with
  | error failure =>
      exact handled failure
  | ok value =>
      exact .pure _

end Calm

/-! ### Demands -/

/-- Callbacks that leave no failure behind where none was pending. -/
structure Callbacks.Calm (C : Callbacks H E) : Prop where
  define (factory : H.Factory) (args : List String) : RowSource.Calm (C.define factory args)
  generate (generator : H.Generator) (args : List HostValue) :
    RowSource.Calm (C.generation.generate generator args)
  advance (stream : H.Stream) : RowSource.Calm (C.generation.advance stream)

namespace Callbacks.Calm

variable {C : Callbacks H E} (calm : C.Calm)
include calm

theorem next (scan : Scan H.Generator H.Stream) : RowSource.Calm (scan.next C.generation) := by
  unfold Scan.next
  cases scan.stream with
  | none =>
      exact .pure _
  | some stream =>
      exact (calm.advance stream).bind fun _ => .pure _

theorem start (scan : Scan H.Generator H.Stream) (number : Int32) (values : List SqlValue) :
    RowSource.Calm (scan.start C.generation number values) := by
  unfold Scan.start
  dsimp only
  cases Plan.arguments number.toUInt32 scan.rewound.table.parameterNames.length values with
  | error failure =>
      exact .pure _
  | ok bound =>
      dsimp only
      split
      · exact .pure _
      · apply (calm.generate _ _).bind
        intro result
        cases result with
        | error error =>
            exact .pure _
        | ok stream =>
            exact calm.next _

theorem connect (id : Nat) (module : String) (args : List String) :
    RowSource.Calm (C.connect id module args) := by
  apply RowSource.Calm.get_bind
  intro w
  cases (w.session id).modules.find? fun known => sameName known.name module with
  | none =>
      exact .pure _
  | some known =>
      have accepted : RowSource.Calm (known.connect C.define
          (return ((← get).status id).integerMode) args) := by
        apply (calm.define _ _).bind
        intro answer
        cases answer with
        | error error =>
            exact .pure _
        | ok definition =>
            exact .get_bind fun w => .pure _
      apply accepted.bind
      intro result
      cases result with
      | error failure =>
          exact .pure _
      | ok connected =>
          dsimp only
          cases schemaDefect? E connected.schemaSql with
          | some detail =>
              exact .pure _
          | none =>
              apply RowSource.Calm.get_bind
              intro w
              exact RowSource.Calm.updateSession_bind (fun _ quiet => quiet) (.pure _)

omit calm in
theorem plan (id : Nat) (table : ConnectedTable H.Generator) (constraints : List Constraint) :
    RowSource.Calm (E := E) (Callbacks.plan id table constraints) := by
  unfold Callbacks.plan
  split
  · exact .pure _
  · exact RowSource.Calm.updateStatus_bind (fun _ quiet => quiet) (.pure _)
  · exact .pure _

/-- Serving a demand leaves no failure behind, whether or not it is failed. -/
theorem serve (id : Nat) (scans : Scans H) (demand : Demand) :
    RowSource.Calm (C.serve id scans demand) := by
  cases demand with
  | connect module args =>
      exact (calm.connect id module args).bind fun _ => .pure _
  | plan table constraints =>
      apply RowSource.Calm.get_bind
      intro w
      cases (w.session id).tables[table]? with
      | none =>
          exact .pure _
      | some table =>
          exact (plan id table constraints).bind fun _ => .pure _
  | openScan table =>
      apply RowSource.Calm.get_bind
      intro w
      cases (w.session id).tables[table]? with
      | none =>
          exact .pure _
      | some table =>
          exact RowSource.Calm.updateStatus_bind (fun _ quiet => quiet) (.pure _)
  | start number index values =>
      dsimp only [Callbacks.serve]
      cases scans[number]? with
      | none =>
          exact .pure _
      | some scan =>
          exact (calm.start scan index values).bind fun _ => .pure _
  | next number =>
      dsimp only [Callbacks.serve]
      cases scans[number]? with
      | none =>
          exact .pure _
      | some scan =>
          exact (calm.next scan).bind fun _ => .pure _
  | isEnded number =>
      dsimp only [Callbacks.serve]
      cases scans[number]? <;> exact .pure _
  | column number position =>
      dsimp only [Callbacks.serve]
      cases scans[number]? <;> exact .pure _
  | rowid number =>
      dsimp only [Callbacks.serve]
      cases scans[number]? <;> exact .pure _

end Callbacks.Calm

theorem Callbacks.closeScans_calm (id : Nat) (scans : Scans H) :
    RowSource.Calm (E := E) (closeScans id scans) := by
  induction scans with
  | nil =>
      exact .pure _
  | cons scan rest closed =>
      exact RowSource.Calm.updateStatus_bind (fun _ quiet => quiet) closed

/-! ### Operations without callbacks -/

namespace Session

theorem require_calm (id : Nat) (check : Status → Except Failure Unit) :
    Calm (require (H := H) (E := E) id check).run := by
  apply Calm.action_get_bind
  intro w
  cases check (w.status id) <;> exact .pure _

theorem explaining_calm (id : Nat) {call : Worldly H E (Except EngineFault α)} (calm : Calm call) :
    Calm (explaining id call).run := by
  apply calm.bind
  intro result
  cases result with
  | ok value =>
      exact .pure _
  | error fault =>
      apply Calm.get_bind
      intro w
      exact Calm.updateStatus_bind (fun _ _ => rfl) (.pure _)

theorem borrowing_calm (id : Nat) {action : Action H E α} (calm : Calm action.run) :
    Calm (borrowing id action).run := by
  apply Calm.get_bind
  intro w
  split
  · exact .pure _
  · refine Calm.updateSession_bind (fun _ quiet => quiet) ?_
    refine Calm.updateStatus_bind (fun _ _ => rfl) ?_
    exact calm.bind fun _ => Calm.updateSession_bind (fun _ quiet => quiet) (.pure _)

theorem withConnection_calm (id : Nat) {call : Worldly H E (Except EngineFault α)}
    (calm : Calm call) : Calm (withConnection id call).run :=
  borrowing_calm id (explaining_calm id calm)

theorem openSession_calm (path : String) (options : Options) :
    Calm (openSession (H := H) (E := E) path options).run := by
  intro w
  unfold openSession
  rw [Action.get_bind_run]
  dsimp only
  cases E.openDatabase w.sessions.length path options w.store with
  | error fault =>
      exact .refl w
  | ok store =>
      exact w.keeps_append rfl _ store

theorem release_calm (id : Nat) : Calm (release (H := H) (E := E) id).run := by
  apply Calm.action_get_bind
  intro w
  dsimp only
  split
  · exact .pure _
  · split
    · refine Calm.updateStore_action_bind _ ?_
      exact Calm.updateSession_action_bind (fun _ quiet => quiet) (.pure _)
    · exact .pure _

theorem markClosed_calm (id : Nat) : Calm (markClosed (H := H) (E := E) id).run :=
  Calm.updateStatus id fun _ quiet => quiet

theorem unregister_calm (id : Nat) : Calm (unregister (H := H) (E := E) id).run :=
  fun _ => ⟨Nat.le_refl _, fun _ quiet => quiet⟩

theorem close_calm (id : Nat) : Calm (close (H := H) (E := E) id).run := by
  apply Calm.action_get_bind
  intro w
  split
  · exact .pure _
  · apply (require_calm id Status.requireNotBusy).action_bind
    intro _
    apply (require_calm id Status.requireNoIterators).action_bind
    intro _
    apply (release_calm id).action_bind
    intro _
    apply (markClosed_calm id).action_bind
    intro _
    exact unregister_calm id

theorem drop_calm (id : Nat) : Calm (drop (H := H) (E := E) id).run := by
  apply (unregister_calm id).action_bind
  intro _
  apply (markClosed_calm id).action_bind
  intro _
  apply Calm.action_bind
    (((release_calm id).action_bind fun _ => .pure _).action_tryCatch fun _ => .pure _)
  intro result
  cases result with
  | error early =>
      exact .pure _
  | ok passed =>
      exact .pure _

theorem forceClose_calm (ids : List Nat) : Calm (forceClose (H := H) (E := E) ids).run := by
  induction ids with
  | nil =>
      exact .pure _
  | cons id rest closed =>
      apply (markClosed_calm id).action_bind
      intro _
      apply ((release_calm id).action_tryCatch fun _ => .pure _).action_bind
      intro released
      exact closed.action_bind fun _ => .pure _

theorem closeAll_calm : Calm (closeAll (H := H) (E := E)).run := by
  apply Calm.action_get_bind
  intro w v
  have emptied : v.Keeps { v with registry := [] } := ⟨Nat.le_refl _, fun _ quiet => quiet⟩
  exact emptied.trans (forceClose_calm w.registry { v with registry := [] })

theorem inTransaction_calm (id : Nat) : Calm (inTransaction (H := H) (E := E) id).run := by
  apply Calm.action_bind
    (((withConnection_calm id (.look _)).action_bind fun _ => .pure _).action_tryCatch
      fun _ => .pure _)
  intro result
  cases result with
  | error early =>
      exact .pure _
  | ok answer =>
      exact .pure _

theorem setUnsafeMode_calm (id : Nat) (enabled : Bool) :
    Calm (setUnsafeMode (H := H) (E := E) id enabled).run := by
  apply (require_calm id Status.requireOpen).action_bind
  intro _
  apply (withConnection_calm id (.pure _)).action_bind
  intro _
  exact Calm.updateStatus id fun _ quiet => quiet

end Session

end RowSource
