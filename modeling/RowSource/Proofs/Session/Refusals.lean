import RowSource.Proofs.Session.Served
import RowSource.Proofs.Session.Thrown

/-!
# Refusals

Only a session refuses, and only the checks of an operation reject its arguments. Neither the engine
nor a demand that is failed does so: what host code throws is wrapped, and planning, scans and columns
have failures of their own.
-/

namespace RowSource

variable {H : Host} {E : Engine} {α β : Type}

def Failure.Unrefused (failure : Failure) : Prop := ∀ refusal, failure ≠ .refused refusal

/-- A result that is no refusal. -/
def Unrefused (result : Except Failure α) : Prop :=
  ∀ failure, result = .error failure → failure.Unrefused

theorem Unrefused.ok (value : α) : Unrefused (.ok value) :=
  fun _ same => nomatch same

/-- The failures of checks: of the state of a session, and of what an operation is given. -/
def Failure.isRejection : Failure → Bool
  | .refused _ | .invalidArgument _ | .bindValue _ _ => true
  | _ => false

theorem Failure.unrefused_of_unrejected {failure : Failure}
    (unrejected : failure.isRejection = false) : failure.Unrefused := by
  rintro refusal rfl
  cases unrejected

def Unrejected (result : Except Failure α) : Prop :=
  ∀ failure, result = .error failure → failure.isRejection = false

theorem Unrejected.ok (value : α) : Unrejected (.ok value) :=
  fun _ same => nomatch same

theorem Unrejected.error {failure : Failure} (unrejected : failure.isRejection = false) :
    Unrejected (.error failure : Except Failure α) := by
  rintro _ ⟨⟩
  exact unrejected

theorem Unrejected.bind {result : Except Failure α} {rest : α → Except Failure β}
    (first : Unrejected result) (second : ∀ value, Unrejected (rest value)) :
    Unrejected (result >>= rest) := by
  cases result with
  | error failure =>
      rintro _ ⟨⟩
      exact first failure rfl
  | ok value =>
      exact second value

namespace Plan

theorem collect_unrejected (names : List String) (index : Nat) (constraints : List Constraint) :
    Unrejected (collect names index constraints) := by
  induction constraints generalizing index with
  | nil =>
      exact .ok _
  | cons c rest collected =>
      unfold collect
      split
      · exact collected _
      · split
        · exact .error rfl
        · split
          · exact .error rfl
          · exact (collected _).bind fun _ => .ok _

theorem bind_unrejected (position : Nat) (mask : UInt32) (found : List (Nat × Nat)) :
    Unrejected (bind position mask found) := by
  induction found generalizing position mask with
  | nil =>
      exact .ok _
  | cons pair rest bound =>
      obtain ⟨parameter, constraint⟩ := pair
      unfold bind
      split
      · exact .error rfl
      · split
        · exact bound _ _
        · exact (bound _ _).bind fun _ => .ok _

theorem make_unrejected (names : List String) (constraints : List Constraint) :
    Unrejected (make names constraints) :=
  (collect_unrejected names 0 constraints).bind fun _ => (bind_unrejected 1 0 _).bind fun _ => .ok _

theorem arguments_unrejected (mask : UInt32) (count : Nat) (values : List SqlValue) :
    Unrejected (arguments mask count values) := by
  have placed (tooFew : Failure) (few : tooFew.isRejection = false) (parameters : List Nat)
      (values : List SqlValue) : Unrejected (place mask tooFew parameters values) := by
    induction parameters generalizing values with
    | nil =>
        exact .ok _
    | cons parameter rest placed =>
        unfold place
        split
        · cases values with
          | nil =>
              exact .error few
          | cons value values =>
              exact (placed _).bind fun _ => .ok _
        · exact (placed _).bind fun _ => .ok _
  exact placed _ rfl _ _

end Plan

theorem Scan.column_unrejected {G S : Type} (scan : Scan G S) (position : Int) :
    Unrejected (scan.column position) := by
  unfold Scan.column
  split
  · exact .error rfl
  · split
    · exact .error rfl
    · split
      · exact .ok _
      · exact .error rfl

theorem Callbacks.Fails.unrejected {C : Callbacks H E} {id : Nat} {scans : Scans H} {w : World H E}
    {demand : Demand} {failure : Failure} (fails : C.Fails id scans w demand failure) :
    failure.isRejection = false := by
  cases fails with
  | plan _ failed _ => exact Plan.make_unrejected _ _ _ failed
  | arguments _ failed => exact Plan.arguments_unrejected _ _ _ _ failed
  | column _ failed => exact Scan.column_unrejected _ _ _ failed
  | noModule _ => rfl
  | define _ _ => rfl
  | tooWide _ _ _ => rfl
  | schema _ _ _ _ => rfl
  | generate _ _ _ _ => rfl
  | firstAdvance _ _ _ _ _ => rfl
  | advance _ _ _ => rfl
  | unknown _ => rfl

theorem Callbacks.Fails.unrefused {C : Callbacks H E} {id : Nat} {scans : Scans H} {w : World H E}
    {demand : Demand} {failure : Failure} (fails : C.Fails id scans w demand failure) :
    failure.Unrefused :=
  Failure.unrefused_of_unrejected fails.unrejected

theorem Statement.engineValues_unrefused (position : Nat) (params : List HostValue) :
    Unrefused (engineValues position params) := by
  induction params generalizing position with
  | nil =>
      exact .ok _
  | cons value rest bound =>
      unfold engineValues
      split
      · rintro _ ⟨⟩ _ ⟨⟩
      · have later := bound (position + 1)
        split
        · rename_i failed
          rintro _ ⟨⟩
          exact later _ failed
        · exact .ok _

def Trouble.Unrefused : Trouble → Prop
  | .callback failure => failure.Unrefused
  | .engine _ => True

theorem Trouble.Unrefused.failure {trouble : Trouble} (unrefused : trouble.Unrefused)
    (status : Status) : (trouble.failure status).Unrefused := by
  cases trouble with
  | callback failure =>
      exact unrefused
  | engine fault =>
      intro refusal
      dsimp only [Trouble.failure]
      split
      · rintro ⟨⟩
      · rintro ⟨⟩

theorem Trouble.Unrefused.withoutPlace {trouble : Trouble} (unrefused : trouble.Unrefused) :
    trouble.withoutPlace.Unrefused := by
  cases trouble with
  | callback failure =>
      exact unrefused
  | engine fault =>
      exact trivial

end RowSource
