import RowSource.Proofs.Session.Marks
import RowSource.Proofs.Session.MirroredCalls

/-!
# Closing

Sessions are closed in three ways: one by itself, one that nobody will use again, and all at once.
What that does to the world is the same in all of them: the sessions are forsaken. They are no longer
open nor registered, and let go of their connections where no operation uses them.
-/

namespace RowSource

variable {H : Host} {E : Engine} {α : Type}

namespace World

def shut (id : Nat) (w : World H E) : World H E :=
  w.updateStatus id fun status => status.markClosed.2

/-- Whether the connection of a session would be let go. -/
def isFree (w : World H E) (id : Nat) : Bool :=
  (w.session id).connected && (w.session id).borrowers == 0

def letGo (id : Nat) (w : World H E) : World H E :=
  if w.isFree id then
    (w.updateStore (E.release id)).updateSession id fun s => { s with connected := false, kept := [] }
  else w

def abandon (ids : List Nat) (w : World H E) : World H E :=
  ids.foldl (fun w id => (w.shut id).letGo id) w

def forsake (ids : List Nat) (w : World H E) : World H E :=
  { w.abandon ids with registry := w.registry.filter (· ∉ ids) }

/-- What is left of the sessions when some of them have been abandoned. -/
structure Abandoned (ids : List Nat) (w v : World H E) : Prop where
  length : v.sessions.length = w.sessions.length
  isOpen (id : Nat) : (v.status id).isOpen = ((w.status id).isOpen && !decide (id ∈ ids))
  connected (id : Nat) : (v.session id).connected =
    ((w.session id).connected && !(decide (id ∈ ids) && (w.session id).borrowers == 0))
  marks : v.marks = w.marks

theorem Abandoned.borrowers {ids : List Nat} {w v : World H E} (abandoned : w.Abandoned ids v)
    (id : Nat) : (v.session id).borrowers = (w.session id).borrowers :=
  congrArg Mark.borrowers (congrFun abandoned.marks id)

theorem Abandoned.trans {first second : List Nat} {w v u : World H E}
    (before : w.Abandoned first v) (after : v.Abandoned second u) :
    w.Abandoned (first ++ second) u where
  length := after.length.trans before.length
  isOpen id := by
    rw [after.isOpen, before.isOpen]
    simp [Bool.and_assoc]
  connected id := by
    rw [after.connected, before.connected, before.borrowers]
    cases (w.session id).borrowers == 0 <;> simp [Bool.and_assoc]
  marks := after.marks.trans before.marks

/-- A change of a session, seen in what absent sessions have as well. -/
theorem session_updateSession_of_absent {g : Session H → α} {f : Session H → Session H}
    (absent : g (f (Session.absent H)) = g (Session.absent H)) (w : World H E) (id other : Nat) :
    g ((w.updateSession id f).session other) =
      if other = id then g (f (w.session other)) else g (w.session other) := by
  rw [session_updateSession]
  by_cases same : other = id
  · subst same
    rw [if_pos rfl]
    rcases Nat.lt_or_ge other w.sessions.length with present | beyond
    · rw [if_pos ⟨rfl, present⟩]
    · rw [if_neg fun both => Nat.not_lt.mpr beyond both.2, session, List.getD_eq_getElem?_getD,
        List.getElem?_eq_none beyond]
      exact absent.symm
  · rw [if_neg same, if_neg fun both => same both.1.symm]

theorem abandoned_shut (id : Nat) (w : World H E) :
    (w.shut id).marks = w.marks ∧ ∀ other,
      ((w.shut id).status other).isOpen = ((w.status other).isOpen && !decide (other ∈ [id])) ∧
        ((w.shut id).session other).connected = (w.session other).connected := by
  let close (s : Session H) : Session H := { s with status := s.status.markClosed.2 }
  refine ⟨marks_of_map (map_updateSession (f := close) (fun _ => rfl) id w), fun other => ⟨?_, ?_⟩⟩
  · have shut : ((w.shut id).status other).isOpen = _ :=
      session_updateSession_of_absent (g := fun s => s.status.isOpen) (f := close) rfl w id other
    rw [shut]
    by_cases same : other = id
    · simp [same, close, Status.markClosed]
    · simp [same, status]
  · exact session_of_map (g := Session.connected)
      (map_updateSession (f := close) (fun _ => rfl) id w) other

theorem abandoned_letGo (id : Nat) (w : World H E) :
    (w.letGo id).marks = w.marks ∧ ∀ other, (w.letGo id).status other = w.status other ∧
      ((w.letGo id).session other).connected = ((w.session other).connected &&
        !(decide (other ∈ [id]) && (w.session other).borrowers == 0)) := by
  let part (s : Session H) : Session H := { s with connected := false, kept := [] }
  unfold letGo
  by_cases free : w.isFree id
  · rw [if_pos free]
    have released : (w.updateStore (E.release id)).sessions = w.sessions := rfl
    refine ⟨marks_of_map (map_updateSession (f := part) (fun _ => rfl) id _), fun other => ⟨?_, ?_⟩⟩
    · exact session_of_map (g := Session.status)
        (map_updateSession (f := part) (fun _ => rfl) id _) other
    · have parted := session_updateSession_of_absent (g := Session.connected) (f := part) rfl
        (w.updateStore (E.release id)) id other
      rw [parted]
      obtain ⟨_, unused⟩ := Bool.and_eq_true_iff.mp free
      by_cases same : other = id
      · subst same
        simp [part, unused]
      · simp [same, session, released]
  · rw [if_neg free]
    refine ⟨rfl, fun other => ⟨rfl, ?_⟩⟩
    unfold isFree at free
    by_cases same : other = id
    · subst same
      revert free
      cases (w.session other).connected <;> simp
    · simp [same]

theorem abandoned_shut_letGo (id : Nat) (w : World H E) :
    w.Abandoned [id] ((w.shut id).letGo id) := by
  obtain ⟨shutMarks, shut⟩ := w.abandoned_shut id
  obtain ⟨marks, parted⟩ := (w.shut id).abandoned_letGo id
  have borrowers (other : Nat) : ((w.shut id).session other).borrowers =
      (w.session other).borrowers :=
    congrArg Mark.borrowers (congrFun shutMarks other)
  refine ⟨?_, fun other => ?_, fun other => ?_, marks.trans shutMarks⟩
  · unfold letGo
    split
    · exact (List.length_modify ..).trans (List.length_modify ..)
    · exact List.length_modify ..
  · rw [(parted other).1, (shut other).1]
  · rw [(parted other).2, (shut other).2, borrowers]

theorem abandoned_abandon (ids : List Nat) (w : World H E) : w.Abandoned ids (w.abandon ids) := by
  induction ids generalizing w with
  | nil =>
      exact ⟨rfl, fun _ => by simp [abandon], fun _ => by simp [abandon], rfl⟩
  | cons id rest abandoned =>
      exact (abandoned_shut_letGo id w).trans (abandoned ((w.shut id).letGo id))

theorem leave_registry (id : Nat) (registry : List Nat) (w : World H E) :
    ({ w with registry := registry }.shut id).letGo id =
      { (w.shut id).letGo id with registry := registry } := by
  have same : ({ w with registry := registry }.shut id).isFree id = (w.shut id).isFree id := rfl
  unfold letGo
  rw [same]
  split
  · rfl
  · rfl

theorem abandon_registry (ids registry : List Nat) (w : World H E) :
    { w with registry := registry }.abandon ids =
      { w.abandon ids with registry := registry } := by
  induction ids generalizing w with
  | nil =>
      rfl
  | cons id rest abandoned =>
      change (({ w with registry := registry }.shut id).letGo id).abandon rest = _
      rw [leave_registry]
      exact abandoned _

theorem isFree_shut (id : Nat) (w : World H E) : (w.shut id).isFree id = w.isFree id := by
  obtain ⟨marks, shut⟩ := w.abandoned_shut id
  have borrowers : ((w.shut id).session id).borrowers = (w.session id).borrowers :=
    congrArg Mark.borrowers (congrFun marks id)
  rw [isFree, isFree, (shut id).2, borrowers]

theorem shut_letGo (id : Nat) (w : World H E) : (w.letGo id).shut id = (w.shut id).letGo id := by
  unfold letGo
  rw [isFree_shut]
  split
  · let close (s : Session H) : Session H := { s with status := s.status.markClosed.2 }
    let part (s : Session H) : Session H := { s with connected := false, kept := [] }
    have commute : ((w.updateStore (E.release id)).updateSession id part).updateSession id close =
        ((w.updateStore (E.release id)).updateSession id close).updateSession id part :=
      updateSession_comm (f := part) (g := close) (fun _ => rfl) id _
    exact commute
  · rfl

theorem registry_letGo (id : Nat) (w : World H E) : (w.letGo id).registry = w.registry := by
  unfold letGo
  split
  · rfl
  · rfl

theorem letGo_of_used {id : Nat} {w : World H E} (used : (w.session id).borrowers ≠ 0) :
    w.letGo id = w := by
  have kept : w.isFree id = false := by simp [isFree, used]
  rw [letGo, kept]
  rfl

theorem forsake_one (id : Nat) (w : World H E) :
    w.forsake [id] = { (w.shut id).letGo id with registry := w.registry.filter (· != id) } := by
  have others : w.registry.filter (· ∉ [id]) = w.registry.filter (· != id) :=
    List.filter_congr fun other _ => by by_cases same : other = id <;> simp [same]
  rw [forsake, others]
  rfl

/-- How many of some sessions let go of their connections. -/
def freed : List Nat → World H E → Nat
  | [], _ => 0
  | id :: rest, w => (if w.isFree id then 1 else 0) + freed rest ((w.shut id).letGo id)

theorem isFree_of_other {id other : Nat} (different : other ≠ id) (w : World H E) :
    ((w.shut id).letGo id).isFree other = w.isFree other := by
  have abandoned := w.abandoned_shut_letGo id
  rw [isFree, isFree, abandoned.connected, abandoned.borrowers]
  simp [different]

theorem freed_registry (ids registry : List Nat) (w : World H E) :
    { w with registry := registry }.freed ids = w.freed ids := by
  induction ids generalizing w with
  | nil =>
      rfl
  | cons id rest counted =>
      have free : { w with registry := registry }.isFree id = w.isFree id := rfl
      rw [freed, freed, leave_registry, counted, free]

theorem freed_of_nodup {ids : List Nat} (distinct : ids.Nodup) (w : World H E) :
    w.freed ids = ids.countP w.isFree := by
  induction ids generalizing w with
  | nil =>
      rfl
  | cons id rest counted =>
      obtain ⟨fresh, distinct⟩ := List.nodup_cons.mp distinct
      have others : rest.countP ((w.shut id).letGo id).isFree = rest.countP w.isFree := by
        refine List.countP_congr fun other member => ?_
        have different : other ≠ id := fun same => fresh (same ▸ member)
        rw [isFree_of_other different]
      rw [freed, counted distinct, others, List.countP_cons, Nat.add_comm]

end World

namespace Session

/-- Whether nothing is in the way of closing a session. -/
def closable (s : Session H) : Except Failure Unit := do
  s.status.requireNotBusy
  s.status.requireNoIterators
  if s.borrowers ≠ 0 then throw (.internal "connection is in use")

theorem release_run (id : Nat) (w : World H E) :
    (release id).run w =
      (if (w.session id).borrowers ≠ 0 then .error (.internal "connection is in use")
        else .ok (w.session id).connected, w.letGo id) := by
  unfold release
  rw [Action.get_bind_run]
  dsimp only
  by_cases used : (w.session id).borrowers ≠ 0
  · rw [if_pos used, if_pos used, World.letGo_of_used used]
    rfl
  · rw [if_neg used, if_neg used]
    have unused : (w.session id).borrowers = 0 := Decidable.not_not.mp used
    unfold World.letGo World.isFree
    rw [unused]
    cases (w.session id).connected with
    | true => rfl
    | false => rfl

theorem close_run (id : Nat) (w : World H E) :
    (close id).run w =
      if (w.status id).isOpen then
        match (w.session id).closable with
        | .ok () => (.ok (), w.forsake [id])
        | .error failure => (.error failure, w)
      else (.ok (), w) := by
  have released : (do let _ ← release id; markClosed id; unregister id : Action H E Unit).Follows w
      (if (w.session id).borrowers ≠ 0 then throw (.internal "connection is in use") else pure ())
      fun _ => modify (World.forsake [id]) := by
    unfold Action.Follows
    rw [Action.bind_run, release_run]
    by_cases used : (w.session id).borrowers ≠ 0
    · rw [if_pos used, if_pos used, World.letGo_of_used used]
      rfl
    · rw [if_neg used, if_neg used]
      change (Except.ok (), { (w.letGo id).shut id with
        registry := ((w.letGo id).shut id).registry.filter (· != id) }) =
          (Except.ok (), w.forsake [id])
      rw [World.shut_letGo, World.registry_letGo, World.forsake_one]
      rfl
  have closed : (do
      require id Status.requireNotBusy
      require id Status.requireNoIterators
      let _ ← release id
      markClosed id
      unregister id : Action H E Unit).Follows w (w.session id).closable
        fun _ => modify (World.forsake [id]) := .require (.require released)
  unfold close
  rw [Action.get_bind_run]
  cases opened : (w.status id).isOpen with
  | false =>
      rfl
  | true =>
      unfold Action.Follows at closed
      refine Eq.trans closed ?_
      cases (w.session id).closable with
      | error failure => rfl
      | ok passed => rfl

theorem drop_run (id : Nat) (w : World H E) : (drop id).run w = (.ok (), w.forsake [id]) := by
  let unlisted := { w with registry := w.registry.filter (· != id) }
  have left : (unlisted.shut id).letGo id = w.forsake [id] := by
    rw [World.forsake_one]
    exact w.abandon_registry [id] (w.registry.filter (· != id))
  rw [← left]
  have released := release_run id (unlisted.shut id)
  change ExceptT.run (tryCatch (release id >>= fun _ => _) _ >>= _) (unlisted.shut id) = _
  rw [Action.bind_run, ExceptT.run_tryCatch, Worldly.bind_apply, Action.bind_run, released]
  split
  · rfl
  · rfl

theorem forceClose_run (ids : List Nat) (w : World H E) :
    (forceClose ids).run w = (.ok (w.freed ids), w.abandon ids) := by
  have caught (id : Nat) (w : World H E) :
      (tryCatch (release id) fun _ => pure false : Action H E Bool).run w =
        (.ok (w.isFree id), w.letGo id) := by
    rw [ExceptT.run_tryCatch, Worldly.bind_apply, release_run]
    unfold World.isFree
    by_cases used : (w.session id).borrowers ≠ 0
    · rw [if_pos used, beq_false_of_ne used, Bool.and_false]
      rfl
    · rw [if_neg used, Decidable.not_not.mp used, beq_self_eq_true, Bool.and_true]
      rfl
  induction ids generalizing w with
  | nil =>
      rfl
  | cons id rest closed =>
      change ExceptT.run (tryCatch (release id) (fun _ => pure false) >>= _) (w.shut id) = _
      rw [Action.bind_run, caught, World.isFree_shut]
      change ExceptT.run (forceClose rest >>= _) ((w.shut id).letGo id) = _
      rw [Action.bind_run, closed]
      change (Except.ok (if w.isFree id then _ + 1 else _), _) = _
      rw [World.freed]
      cases w.isFree id with
      | true =>
          rw [if_pos rfl, if_pos rfl, Nat.add_comm 1]
          rfl
      | false =>
          rw [if_neg Bool.false_ne_true, if_neg Bool.false_ne_true, Nat.zero_add]
          rfl

theorem closeAll_run (w : World H E) :
    closeAll.run w = (.ok (w.freed w.registry), w.forsake w.registry) := by
  have closed := forceClose_run w.registry { w with registry := [] }
  rw [World.freed_registry, World.abandon_registry] at closed
  have none : w.registry.filter (· ∉ w.registry) = [] := by simp
  rw [World.forsake, none]
  exact closed

end Session

end RowSource
