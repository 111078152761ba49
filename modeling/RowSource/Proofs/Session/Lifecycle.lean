import RowSource.Proofs.Session.Precedence
import RowSource.Proofs.Session.Reentry

/-!
# The lifecycle of sessions

How sessions are closed at every moment and in every order: which of them are registered, which have
their connections, and how often a connection is let go.
-/

namespace RowSource

variable {H : Host} {E : Engine}

theorem Session.close_failed {id : Nat} {w v : World H E} {failure : Failure}
    (failed : (close id).run w = (.error failure, v)) : v = w := by
  rw [close_run] at failed
  split at failed
  · split at failed
    · cases failed
    · exact (congrArg (·.2) failed).symm
  · cases failed

namespace World

variable {w v : World H E} {id : Nat} {frames : List Frame}

theorem parted_of_forsake {ids : List Nat} (member : id ∈ ids)
    (unused : (w.session id).borrowers = 0) : ((w.forsake ids).session id).connected = false := by
  have left : ((w.forsake ids).session id).connected = _ := (w.abandoned_abandon ids).connected id
  rw [left, unused]
  simp [member]

theorem not_open_of_forsake {ids : List Nat} (member : id ∈ ids) :
    ((w.forsake ids).status id).isOpen = false := by
  have left : ((w.forsake ids).status id).isOpen = _ := (w.abandoned_abandon ids).isOpen id
  rw [left]
  simp [member]

theorem unused_iff (tell : w.marks.Tell frames) :
    (w.session id).borrowers = 0 ↔ ∀ frame ∈ frames, frame.session ≠ id := by
  have lent : (w.session id).borrowers = _ := tell.lent id
  rw [lent, List.countP_eq_zero]
  simp

theorem Lawful.freed_registry (lawful : w.Lawful) (tell : w.marks.Tell frames) :
    w.freed w.registry = w.registry.countP fun id => ∀ frame ∈ frames, frame.session ≠ id := by
  rw [freed_of_nodup lawful.distinct]
  refine List.countP_congr fun id registered => ?_
  have connected := lawful.connected id ((lawful.registered id).mp registered)
  rw [isFree, connected, Bool.true_and, beq_iff_eq, unused_iff tell, decide_eq_true_iff]

/-- As long as no session is opened, an empty registry stays empty. -/
theorem Leads.registry_nil {law : World H E → Prop} (leads : w.Leads law v) (before : w.Lawful)
    (after : v.Lawful) (empty : w.registry = [])
    (unopened : v.sessions.length = w.sessions.length) : v.registry = [] := by
  refine List.eq_nil_iff_forall_not_mem.mpr fun id registered => ?_
  have opened := (after.registered id).mp registered
  have present : id < w.sessions.length := unopened ▸ present_of_open opened
  have earlier := (before.registered id).mpr ((leads.stays id present).1 opened)
  rw [empty] at earlier
  exact List.not_mem_nil earlier

end World

namespace HostCode.Admissible

variable {host : HostCode H E} (admissible : host.Admissible)
include admissible

/-- Whenever host code runs, just the open sessions are registered, each has its connection, and the
engine was told once of each connection that was let go. A close that fails changes nothing. A session
that is dropped while no call runs on it has let go of its connection for good. When all sessions are
closed, the connections are counted that no running call uses, the registry is empty, and there is
nothing to close until a session is opened. -/
theorem lifecycle {released : E.Store → Nat → Nat} (counts : E.Counts released)
    {memory : H.Memory} {depth : Nat} {frames : List Frame} {w : World H E}
    (reaches : host.Reaches { memory := memory } depth frames w) :
    w.Lawful ∧ w.Tallied released ∧
    (∀ id failure v, (Session.close id).run w = (.error failure, v) → v = w) ∧
    (∀ id, id < w.sessions.length → (∀ frame ∈ frames, frame.session ≠ id) →
      ∀ v, host.Precedes ((Session.drop id).run w).2 v → released v.store id = 1) ∧
    let closed := Session.closeAll.run w
    closed.1 = .ok (w.registry.countP fun id => ∀ frame ∈ frames, frame.session ≠ id) ∧
    closed.2.registry = [] ∧
    (∀ id ∈ w.registry, (closed.2.status id).isOpen = false) ∧
    ∀ v, host.Precedes closed.2 v → v.sessions.length = closed.2.sessions.length →
      (Session.closeAll.run v).1 = .ok 0 := by
  have obeys : Law released fun w : World H E => w.Lawful ∧ w.Tallied released :=
    World.lawful.and (World.tallied counts)
  have engine : E.Keeps released := counts.toKeeps
  obtain ⟨since, tell⟩ := admissible.moments obeys engine (fun _ => rfl) reaches
  have holds := since.lawful ⟨.initial memory, .initial counts memory⟩
  refine ⟨holds.1, holds.2, fun id failure v failed => Session.close_failed failed, ?_, ?_⟩
  · intro id present unused v precedes
    rw [Session.drop_run] at precedes
    have leads := admissible.leads obeys engine precedes
    have stays : id < (w.forsake [id]).sessions.length :=
      (w.abandoned_abandon [id]).length ▸ present
    have parted : ((w.forsake [id]).session id).connected = false :=
      World.parted_of_forsake (List.mem_singleton_self id) ((World.unused_iff tell).mpr unused)
    have tallied := (leads.lawful (obeys.forsake [id] holds)).2
    exact tallied.once (Nat.lt_of_lt_of_le stays leads.grows) (leads.stays_parted stays parted)
  · have empty : (w.forsake w.registry).registry = [] := by simp [World.forsake]
    rw [Session.closeAll_run]
    refine ⟨congrArg _ (holds.1.freed_registry tell), empty,
      fun id registered => World.not_open_of_forsake registered, ?_⟩
    intro v precedes unopened
    have leads := admissible.leads obeys engine precedes
    have before := obeys.forsake w.registry holds
    have none := leads.registry_nil before.1 (leads.lawful before).1 empty unopened
    rw [Session.closeAll_run, none]
    rfl

end HostCode.Admissible

/-! ### An iteration beside another session -/

namespace Porter

def released (store : engine.Store) (id : Nat) : Nat := List.count id store

theorem counts : engine.Counts released where
  openDatabase opened := by
    cases opened
    rfl
  createModule created := by
    cases created
    rfl
  compile _ _ _ := rfl
  refresh _ _ := rfl
  execute id text values store := by
    dsimp only [engine]
    split
    · exact ⟨rfl, fun _ => rfl, fun _ _ => rfl⟩
    · exact ⟨rfl, fun _ => rfl, fun _ => rfl⟩
  empty id := rfl
  release id store other := by
    have counted (store : List Nat) : (id :: store).count other =
        store.count other + if other = id then 1 else 0 := by
      rw [List.count_cons]
      by_cases same : other = id
      · simp [same]
      · simp [same, Ne.symm same]
    exact counted store

/-- Two sessions, one of them with a table. -/
def paired : World host engine :=
  ((Session.openSession "other.db" {}).run registered).2

theorem reaches_paired :
    code.Reaches { memory := [] } 1 [.iterating 0] (entered iterating paired) := by
  have opening (path : String) :
      HostAction (code.callbacks 1) (Session.openSession path {}).run := .openSession path {}
  have registering : HostAction (code.callbacks 1) register.run :=
    HostAction.registerTable (H := host) (E := engine) 0 "m" () true
  have begun : code.Reaches { memory := [] } 1 [] { memory := [] } := .start 1
  have there := ((begun.act (opening ":memory:")).act registering).act (opening "other.db")
  have made : iterating.Made (code.callbacks 1) := hosted_visit
  have handed : .handed (entered iterating paired) ∈
      ((iterating.thrown (code.callbacks 1)).run paired).events :=
    handed_entered (by decide +kernel)
  exact .handed there made handed

/-- Inside an iteration of one session all sessions are closed, and the connection of the other one
alone is let go. -/
theorem lifecycle_paired :
    let visiting := entered iterating paired
    visiting.registry = [0, 1] ∧
      (Session.closeAll.run visiting).1 = .ok 1 ∧
      (Session.closeAll.run (Session.closeAll.run visiting).2).1 = .ok 0 ∧
      released ((Session.drop 1).run visiting).2.store 1 = 1 := by
  intro visiting
  have registry : visiting.registry = [0, 1] := by decide +kernel
  obtain ⟨_, _, _, dropped, counted, _, _, again⟩ := admissible.lifecycle counts reaches_paired
  rw [registry] at counted
  exact ⟨registry, counted, again _ (.refl _) rfl,
    dropped 1 (by decide +kernel) (by decide) _ (.refl _)⟩

end Porter

end RowSource
