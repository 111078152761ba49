import RowSource.Engine

/-!
# Views of the store

A view is something that can be seen of a store. Programs are handed a store again after each demand
and each row, and may have been handed another one than they gave. A program keeps a view if it never
changes what it sees of the store that it was handed last.
-/

namespace RowSource

variable {σ α β τ : Type}

/-- A program that keeps a view, from a store on of which this is seen. -/
def Program.Keeps (view : σ → τ) : Program σ α → τ → Prop
  | .finish _ store, seen => view store = seen
  | .ask _ store abandon resume, seen =>
      view store = seen ∧ (∀ given, view (abandon given) = view given) ∧
        ∀ reply given, (resume reply given).Keeps view (view given)
  | .row _ store abandon resume, seen =>
      view store = seen ∧ (∀ given, view (abandon given) = view given) ∧
        ∀ given, (resume given).Keeps view (view given)

theorem Program.Keeps.andThen {view : σ → τ} {program : Program σ α}
    {rest : α → σ → Program σ β} {seen : τ} (keeps : program.Keeps view seen)
    (later : ∀ value store, (rest value store).Keeps view (view store)) :
    (program.andThen rest).Keeps view seen := by
  induction program generalizing seen with
  | finish result store =>
      cases result with
      | error fault =>
          exact keeps
      | ok value =>
          cases keeps
          exact later value store
  | ask demand store abandon resume resumed =>
      obtain ⟨same, abandons, resumes⟩ := keeps
      exact ⟨same, abandons, fun reply given => resumed reply given (resumes reply given)⟩
  | row values store abandon resume resumed =>
      obtain ⟨same, abandons, resumes⟩ := keeps
      exact ⟨same, abandons, fun given => resumed given (resumes given)⟩

/-- Everybody keeps to seeing nothing. -/
theorem Program.keeps_nothing (program : Program σ α) : program.Keeps (fun _ => ()) () := by
  induction program with
  | finish result store =>
      exact rfl
  | ask demand store abandon resume resumed =>
      exact ⟨rfl, fun _ => rfl, resumed⟩
  | row values store abandon resume resumed =>
      exact ⟨rfl, fun _ => rfl, resumed⟩

def Routine.Keeps (view : σ → τ) (routine : Routine σ α) : Prop :=
  ∀ store, (routine store).Keeps view (view store)

theorem Routine.Keeps.bind {view : σ → τ} {routine : Routine σ α} {rest : α → Routine σ β}
    (keeps : routine.Keeps view) (later : ∀ value, (rest value).Keeps view) :
    (routine >>= rest).Keeps view :=
  fun store => (keeps store).andThen fun value store => later value store

/-- An engine whose statements keep a view when they are compiled and when they are executed. -/
structure Engine.StatementsKeep (E : Engine) (view : E.Store → τ) : Prop where
  compile (id : Nat) (text : String) : (E.compile id text).Keeps view
  refresh (id : Nat) (store : E.Store) : view (E.refresh id store) = view store
  execute (id : Nat) (statement : E.Statement) (values : List SqlValue) :
    (E.execute id statement values).Keeps view

/-- An engine that keeps a view in all it does but the release of a connection. -/
structure Engine.Keeps (E : Engine) (view : E.Store → τ) : Prop extends E.StatementsKeep view where
  openDatabase {id : Nat} {path : String} {options : Options} {store opened : E.Store} :
    E.openDatabase id path options store = .ok opened → view opened = view store
  createModule {id : Nat} {name : String} {eponymous : Bool} {store created : E.Store} :
    E.createModule id name eponymous store = .ok created → view created = view store

theorem Engine.keeps_nothing (E : Engine) : E.Keeps fun _ => () where
  openDatabase _ := rfl
  createModule _ := rfl
  compile id text store := (E.compile id text store).keeps_nothing
  refresh _ _ := rfl
  execute id statement values store := (E.execute id statement values store).keeps_nothing

theorem Engine.StatementsKeep.prepare {E : Engine} {view : E.Store → τ}
    (keeps : E.StatementsKeep view) (id : Nat) (text : String) :
    (E.prepare id text).Keeps view := by
  have sole (fuel : Nat) (text : String) : (E.compileSole id fuel text).Keeps view := by
    induction fuel generalizing text with
    | zero =>
        exact fun store => rfl
    | succ fuel shorter =>
        refine (keeps.compile id text).bind fun compiled => ?_
        obtain ⟨statement, rest⟩ := compiled
        dsimp only
        split
        · exact fun store => rfl
        · refine (shorter rest).bind fun next => ?_
          split
          · exact fun store => rfl
          · exact fun store => rfl
  exact sole _ text

end RowSource
