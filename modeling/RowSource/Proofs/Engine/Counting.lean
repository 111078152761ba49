import RowSource.Proofs.Engine.Views

/-!
# Counting releases

An engine may keep count of how often it has released each connection. Every engine can be made to do
so: the count is kept beside its store, and nothing that it does depends on it.
-/

namespace RowSource

/-- An engine that counts, for each connection, how often it was released. -/
structure Engine.Counts (E : Engine) (released : E.Store → Nat → Nat) : Prop
    extends E.Keeps released where
  empty (id : Nat) : released E.empty id = 0
  release (id : Nat) (store : E.Store) (other : Nat) :
    released (E.release id store) other = released store other + if other = id then 1 else 0

namespace Program

variable {σ κ α : Type}

/-- A program with something kept beside its store. -/
def beside (kept : κ) : Program σ α → Program (σ × κ) α
  | .finish result store => .finish result (store, kept)
  | .ask demand store abandon resume =>
      .ask demand (store, kept) (fun given => (abandon given.1, given.2))
        fun reply given => (resume reply given.1).beside given.2
  | .row values store abandon resume =>
      .row values (store, kept) (fun given => (abandon given.1, given.2))
        fun given => (resume given.1).beside given.2

theorem keeps_beside (kept : κ) (program : Program σ α) :
    (program.beside kept).Keeps Prod.snd kept := by
  induction program generalizing kept with
  | finish result store =>
      exact rfl
  | ask demand store abandon resume resumed =>
      exact ⟨rfl, fun _ => rfl, fun reply given => resumed reply given.1 given.2⟩
  | row values store abandon resume resumed =>
      exact ⟨rfl, fun _ => rfl, fun given => resumed given.1 given.2⟩

end Program

namespace Engine

def counting (E : Engine) : Engine where
  Store := E.Store × (Nat → Nat)
  Statement := E.Statement
  empty := (E.empty, fun _ => 0)
  openDatabase id path options store :=
    (E.openDatabase id path options store.1).map fun opened => (opened, store.2)
  release id store :=
    (E.release id store.1, fun other => store.2 other + if other = id then 1 else 0)
  inTransaction id store := E.inTransaction id store.1
  createModule id name eponymous store :=
    (E.createModule id name eponymous store.1).map fun created => (created, store.2)
  schemaDefect? := E.schemaDefect?
  compile id text store := (E.compile id text store.1).beside store.2
  info := E.info
  isOutdated id store := E.isOutdated id store.1
  refresh id store := (E.refresh id store.1, store.2)
  execute id statement values store := (E.execute id statement values store.1).beside store.2
  changes id store := E.changes id store.1
  lastRowid id store := E.lastRowid id store.1

theorem kept_of_map {ε σ κ : Type} {result : Except ε σ} {kept : κ} {given : σ × κ}
    (succeeds : result.map (fun store => (store, kept)) = .ok given) : given.2 = kept := by
  cases result with
  | error failure =>
      cases succeeds
  | ok store =>
      cases succeeds
      rfl

theorem counts_counting (E : Engine) : E.counting.Counts Prod.snd where
  openDatabase succeeds := kept_of_map succeeds
  createModule succeeds := kept_of_map succeeds
  compile id text store := (E.compile id text store.1).keeps_beside store.2
  refresh _ _ := rfl
  execute id statement values store := (E.execute id statement values store.1).keeps_beside store.2
  empty _ := rfl
  release _ _ _ := rfl

end Engine

end RowSource
