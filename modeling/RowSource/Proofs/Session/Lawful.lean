import RowSource.Proofs.Engine.Counting
import RowSource.Proofs.Session.Course

/-!
# The registry and the connections

Two laws of the world: the registry lists the open sessions, and these have their connections; and
the engine was told once of every connection that was let go, and of no other. Every step obeys them.
-/

namespace RowSource

variable {H : Host} {E : Engine} {τ : Type}

namespace World

structure Lawful (w : World H E) : Prop where
  registered (id : Nat) : id ∈ w.registry ↔ (w.status id).isOpen = true
  distinct : w.registry.Nodup
  connected (id : Nat) : (w.status id).isOpen = true → (w.session id).connected = true

theorem Lawful.initial (memory : H.Memory) : ({ memory := memory } : World H E).Lawful where
  registered id := by simp [status, session, Session.absent]
  distinct := .nil
  connected id opened := by simp [status, session, Session.absent] at opened

theorem Lawful.not_open_of_lost {w : World H E} {id : Nat} (lawful : w.Lawful) (lost : w.Lost id) :
    (w.status id).isOpen = false := by
  rcases lost with closed | released
  · exact closed
  · cases opened : (w.status id).isOpen with
    | false => rfl
    | true =>
        rw [lawful.connected id opened] at released
        cases released

theorem not_open_beyond {w : World H E} {id : Nat} (beyond : w.sessions.length ≤ id) :
    (w.status id).isOpen = false := by
  rw [status, session, List.getD_eq_getElem?_getD, List.getElem?_eq_none beyond]
  rfl

theorem lawful {view : E.Store → τ} : Law view (Lawful : World H E → Prop) where
  alike {w v} lawful alike := by
    have standing (id : Nat) :
        (v.status id).isOpen = (w.status id).isOpen ∧
          (v.session id).connected = (w.session id).connected :=
      Prod.mk.inj (session_of_map (g := Session.standing) alike.standings id)
    refine ⟨fun id => ?_, ?_, fun id => ?_⟩
    · rw [alike.registry, (standing id).1]
      exact lawful.registered id
    · rw [alike.registry]
      exact lawful.distinct
    · rw [(standing id).1, (standing id).2]
      exact lawful.connected id
  opened {path options store w} lawful _ := by
    have fresh : w.sessions.length ∉ w.registry := by
      rw [lawful.registered, not_open_beyond (Nat.le_refl _)]
      exact Bool.false_ne_true
    refine ⟨fun id => ?_, ?_, fun id => ?_⟩
    · rw [status, session_opened]
      by_cases same : id = w.sessions.length
      · simp [same, opened, Session.opened]
      · rw [if_neg same]
        simp only [opened, List.mem_append, List.mem_singleton, same, or_false]
        exact lawful.registered id
    · simp only [opened]
      rw [List.nodup_append]
      refine ⟨lawful.distinct, by simp, ?_⟩
      intro id member other single
      cases List.mem_singleton.mp single
      exact fun same => fresh (same ▸ member)
    · rw [status, session_opened]
      by_cases same : id = w.sessions.length
      · simp [same, Session.opened]
      · rw [if_neg same]
        exact lawful.connected id
  forsake ids {w} lawful := by
    have abandoned := w.abandoned_abandon ids
    have isOpen (id : Nat) : ((w.forsake ids).status id).isOpen = true ↔
        (w.status id).isOpen = true ∧ id ∉ ids := by
      have left : ((w.forsake ids).status id).isOpen = _ := abandoned.isOpen id
      rw [left]
      simp
    refine ⟨fun id => ?_, lawful.distinct.filter _, fun id opened => ?_⟩
    · rw [isOpen, ← lawful.registered]
      simp [forsake]
    · obtain ⟨opened, kept⟩ := (isOpen id).mp opened
      have left : ((w.forsake ids).session id).connected = _ := abandoned.connected id
      rw [left, lawful.connected id opened]
      simp [kept]

end World

namespace World

/-- Each connection that was let go was released once, and no other was. -/
def Tallied (released : E.Store → Nat → Nat) (w : World H E) : Prop :=
  ∀ id, released w.store id =
    if id < w.sessions.length ∧ (w.session id).connected = false then 1 else 0

theorem Tallied.initial {released : E.Store → Nat → Nat} (counts : E.Counts released)
    (memory : H.Memory) : ({ memory := memory } : World H E).Tallied released := by
  intro id
  rw [if_neg fun both => Nat.not_lt_zero _ both.1]
  exact counts.empty id

theorem Tallied.once {released : E.Store → Nat → Nat} {w : World H E} {id : Nat}
    (tallied : w.Tallied released) (present : id < w.sessions.length)
    (parted : (w.session id).connected = false) : released w.store id = 1 := by
  have counted := tallied id
  rw [if_pos ⟨present, parted⟩] at counted
  exact counted

theorem Tallied.same {released : E.Store → Nat → Nat} {w v : World H E}
    (tallied : w.Tallied released) (store : released v.store = released w.store)
    (length : v.sessions.length = w.sessions.length)
    (connected : ∀ id, (v.session id).connected = (w.session id).connected) :
    v.Tallied released := by
  intro id
  rw [store, length, connected]
  exact tallied id

theorem Tallied.letGo {released : E.Store → Nat → Nat} (counts : E.Counts released) {w : World H E}
    (tallied : w.Tallied released) (id : Nat) : (w.letGo id).Tallied released := by
  by_cases free : w.isFree id
  · obtain ⟨connected, unused⟩ := Bool.and_eq_true_iff.mp free
    have length : (w.letGo id).sessions.length = w.sessions.length := by
      unfold World.letGo
      rw [if_pos free]
      exact List.length_modify ..
    have store : (w.letGo id).store = E.release id w.store := by
      unfold World.letGo
      rw [if_pos free]
      rfl
    intro other
    rw [store, counts.release, tallied, length, ((w.abandoned_letGo id).2 other).2]
    by_cases same : other = id
    · subst same
      simp [connected, unused, present_of_connected connected]
    · simp [same]
  · unfold World.letGo
    rw [if_neg free]
    exact tallied

theorem tallied {released : E.Store → Nat → Nat} (counts : E.Counts released) :
    Law released (Tallied released : World H E → Prop) where
  alike {w v} tallied alike := by
    have lengths := congrArg List.length alike.standings
    rw [List.length_map, List.length_map] at lengths
    exact tallied.same alike.seen lengths fun id =>
      (Prod.mk.inj (session_of_map (g := Session.standing) alike.standings id)).2
  opened {path options store w} tallied same := by
    intro id
    have before := tallied id
    rw [session_opened]
    simp only [opened, same, List.length_append, List.length_singleton, before]
    by_cases new : id = w.sessions.length
    · simp [new, Session.opened]
    · have within : id < w.sessions.length + 1 ↔ id < w.sessions.length := by omega
      simp only [if_neg new, within]
  forsake ids {w} tallied := by
    have abandoned : (w.abandon ids).Tallied released := by
      induction ids generalizing w with
      | nil =>
          exact tallied
      | cons id rest abandoned =>
          have shut : (w.shut id).Tallied released :=
            tallied.same rfl (List.length_modify ..) fun other =>
              ((w.abandoned_shut id).2 other).2
          exact abandoned (shut.letGo counts id)
    exact abandoned

end World

theorem Law.and {view : E.Store → τ} {first second : World H E → Prop} (one : Law view first)
    (other : Law view second) : Law view fun w => first w ∧ second w where
  alike holds alike := ⟨one.alike holds.1 alike, other.alike holds.2 alike⟩
  opened holds same := ⟨one.opened holds.1 same, other.opened holds.2 same⟩
  forsake ids {_} holds := ⟨one.forsake ids holds.1, other.forsake ids holds.2⟩

end RowSource
