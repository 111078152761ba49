import RowSource.Proofs.Session.Closing
import RowSource.Proofs.Session.Registration.Calls

/-!
# The course of the world

What can be said of a later world: no session is gone, none is opened again, and none gets its
connection back. A law that opening and forsaking sessions obey holds on as well.
-/

namespace RowSource

variable {H : Host} {E : Engine} {τ : Type}

namespace Session

/-- A session as it is opened. -/
def opened (path : String) (options : Options) : Session H :=
  { path := path
    readonly := options.readonly
    status := { unsafeMode := options.unsafeMode, integerMode := options.integerMode } }

end Session

namespace World

def opened (path : String) (options : Options) (store : E.Store) (w : World H E) : World H E :=
  { w with
    sessions := w.sessions ++ [Session.opened path options]
    registry := w.registry ++ [w.sessions.length]
    store := store }

theorem session_opened (path : String) (options : Options) (store : E.Store) (w : World H E)
    (id : Nat) :
    (w.opened path options store).session id =
      if id = w.sessions.length then Session.opened path options else w.session id := by
  unfold session opened
  rw [List.getD_eq_getElem?_getD, List.getD_eq_getElem?_getD]
  dsimp only
  rcases Nat.lt_trichotomy id w.sessions.length with within | same | beyond
  · rw [List.getElem?_append_left within, if_neg (Nat.ne_of_lt within)]
  · rw [same, List.getElem?_concat_length, if_pos rfl]
    rfl
  · have after : (w.sessions ++ [Session.opened path options]).length ≤ id := by
      rw [List.length_append]
      exact beyond
    rw [List.getElem?_eq_none after, List.getElem?_eq_none (Nat.le_of_lt beyond),
      if_neg (Nat.ne_of_gt beyond)]

theorem marks_opened (path : String) (options : Options) (store : E.Store) (w : World H E) :
    (w.opened path options store).marks = w.marks := by
  funext id
  unfold marks
  rw [session_opened]
  split
  · rename_i same
    rw [same, session, List.getD_eq_getElem?_getD, List.getElem?_eq_none (Nat.le_refl _)]
    rfl
  · rfl

/-- What comes later, under a law. -/
structure Leads (law : World H E → Prop) (w v : World H E) : Prop where
  grows : w.sessions.length ≤ v.sessions.length
  stays (id : Nat) : id < w.sessions.length →
    ((v.status id).isOpen = true → (w.status id).isOpen = true) ∧
      ((v.session id).connected = true → (w.session id).connected = true)
  lawful : law w → law v

end World

theorem Session.openSession_run (path : String) (options : Options) (w : World H E) :
    (openSession path options).run w =
      match E.openDatabase w.sessions.length path options w.store with
      | .error fault => (.error fault.toFailure, w)
      | .ok store => (.ok w.sessions.length, w.opened path options store) := by
  unfold openSession
  rw [Action.get_bind_run]
  dsimp only
  cases E.openDatabase w.sessions.length path options w.store with
  | error fault => rfl
  | ok store => rfl

/-- A law that the steps of the world obey. -/
structure Law (view : E.Store → τ) (law : World H E → Prop) : Prop where
  alike {w v : World H E} : law w → w.Alike view v → law v
  opened {path : String} {options : Options} {store : E.Store} {w : World H E} :
    law w → view store = view w.store → law (w.opened path options store)
  forsake (ids : List Nat) {w : World H E} : law w → law (w.forsake ids)

/-- There is always the law that forbids nothing. -/
theorem lawless : Law (fun _ : E.Store => ()) fun _ : World H E => True where
  alike _ _ := trivial
  opened _ _ := trivial
  forsake _ _ _ := trivial

namespace World.Leads

variable {view : E.Store → τ} {law : World H E → Prop}

theorem refl (w : World H E) : w.Leads law w :=
  ⟨Nat.le_refl _, fun _ _ => ⟨id, id⟩, id⟩

theorem trans {w v u : World H E} (first : w.Leads law v) (second : v.Leads law u) :
    w.Leads law u where
  grows := Nat.le_trans first.grows second.grows
  stays id present := by
    obtain ⟨shut, parted⟩ := first.stays id present
    obtain ⟨shutThen, partedThen⟩ := second.stays id (Nat.lt_of_lt_of_le present first.grows)
    exact ⟨fun opened => shut (shutThen opened), fun connected => parted (partedThen connected)⟩
  lawful holds := second.lawful (first.lawful holds)

theorem stays_closed {w v : World H E} {id : Nat} (leads : w.Leads law v)
    (present : id < w.sessions.length) (closed : (w.status id).isOpen = false) :
    (v.status id).isOpen = false :=
  Bool.eq_false_iff.mpr fun opened =>
    Bool.eq_false_iff.mp closed ((leads.stays id present).1 opened)

theorem stays_parted {w v : World H E} {id : Nat} (leads : w.Leads law v)
    (present : id < w.sessions.length) (parted : (w.session id).connected = false) :
    (v.session id).connected = false :=
  Bool.eq_false_iff.mpr fun connected =>
    Bool.eq_false_iff.mp parted ((leads.stays id present).2 connected)

variable (obeys : Law view law)
include obeys

theorem of_alike {w v : World H E} (alike : w.Alike view v) : w.Leads law v where
  grows := by
    have lengths := congrArg List.length alike.standings
    rw [List.length_map, List.length_map] at lengths
    exact Nat.le_of_eq lengths.symm
  stays id _ := by
    have same : (v.session id).standing = (w.session id).standing :=
      World.session_of_map alike.standings id
    obtain ⟨sameOpen, sameConnected⟩ := Prod.mk.inj same
    exact ⟨fun opened => sameOpen ▸ opened, fun connected => sameConnected ▸ connected⟩
  lawful holds := obeys.alike holds alike

theorem of_opened (path : String) (options : Options) {store : E.Store} {w : World H E}
    (same : view store = view w.store) : w.Leads law (w.opened path options store) where
  grows := by
    unfold opened
    rw [List.length_append]
    exact Nat.le_add_right _ _
  stays id present := by
    have kept : (w.opened path options store).session id = w.session id := by
      rw [session_opened, if_neg (Nat.ne_of_lt present)]
    rw [status, status, kept]
    exact ⟨fun opened => opened, fun connected => connected⟩
  lawful holds := obeys.opened holds same

theorem of_forsake (ids : List Nat) (w : World H E) : w.Leads law (w.forsake ids) where
  grows := Nat.le_of_eq (w.abandoned_abandon ids).length.symm
  stays id _ := by
    have abandoned := w.abandoned_abandon ids
    constructor
    · intro opened
      have still : ((w.abandon ids).status id).isOpen = true := opened
      rw [abandoned.isOpen] at still
      exact (Bool.and_eq_true_iff.mp still).1
    · intro connected
      have still : ((w.abandon ids).session id).connected = true := connected
      rw [abandoned.connected] at still
      exact (Bool.and_eq_true_iff.mp still).1
  lawful holds := obeys.forsake ids holds

/-- The steps of the world are an evolution. -/
theorem evolution (engine : E.Keeps view) : Evolution view (Leads law) where
  refl := refl
  trans := trans
  grows := grows
  lost leads present lost := lost.imp (leads.stays_closed present) (leads.stays_parted present)
  unmoved unmoved := of_alike obeys unmoved.alike
  openSession path options w := by
    rw [Session.openSession_run]
    cases opened : E.openDatabase w.sessions.length path options w.store with
    | error fault => exact refl w
    | ok store => exact of_opened obeys path options (engine.openDatabase opened)
  close id w := by
    rw [Session.close_run]
    split
    · split
      · exact of_forsake obeys [id] w
      · exact refl w
    · exact refl w
  drop id w := by
    rw [Session.drop_run]
    exact of_forsake obeys [id] w
  closeAll w := by
    rw [Session.closeAll_run]
    exact of_forsake obeys w.registry w
  registerTable id name factory eponymous w :=
    of_alike obeys (Registration.alike engine ⟨id, name, factory, eponymous, w⟩)

end World.Leads

end RowSource
