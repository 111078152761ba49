import Mathlib.Data.List.DropRight
import RowSource.Status.Trace

/-!
# What callbacks leave behind

A status keeps one failure of a callback and one mark of a plan that was turned down, and there are
three ways to empty each of them. Here both are read off from the steps that were taken: the failure is
the first one deferred since the slot was emptied last, and the mark stands if a plan was turned down
since the mark was cleared last. What a fault of the engine is explained by follows from the two.
-/

namespace RowSource

namespace EngineFault

/-- The planner gave up: the engine has failed with its plain code and with words that say so. -/
def Unsolved (fault : EngineFault) : Prop :=
  ∃ before after : String, fault = .failed 1 (some (before ++ "no query solution" ++ after))

theorem occursIn_iff (word text : List Char) : occursIn word text = true ↔ word <:+: text := by
  induction text with
  | nil =>
      rw [occursIn, List.isEmpty_iff, List.infix_nil]
  | cons c rest found =>
      rw [occursIn, Bool.or_eq_true, List.isPrefixOf_iff_prefix, found, List.infix_cons_iff]

theorem isNoQuerySolution_iff (fault : EngineFault) :
    fault.isNoQuerySolution = true ↔ fault.Unsolved := by
  constructor
  · intro unsolved
    unfold isNoQuerySolution at unsolved
    split at unsolved
    · rename_i code message
      obtain ⟨plain, occurs⟩ := Bool.and_eq_true_iff.mp unsolved
      obtain ⟨before, after, split⟩ := (occursIn_iff _ _).mp occurs
      refine ⟨String.ofList before, String.ofList after, ?_⟩
      have sameCode : code = 1 := eq_of_beq plain
      have sameText : message = String.ofList before ++ "no query solution" ++ String.ofList after := by
        apply String.toList_inj.mp
        simp [← split]
      rw [sameCode, sameText]
    · cases unsolved
  · rintro ⟨before, after, rfl⟩
    have occurs : "no query solution".toList <:+:
        (before ++ "no query solution" ++ after).toList :=
      ⟨before.toList, after.toList, by simp⟩
    exact Bool.and_eq_true_iff.mpr ⟨rfl, (occursIn_iff _ _).mpr occurs⟩

/-- How a fault is explained, by what is pending and by whether a plan was turned down. -/
inductive Explained : Option Failure → Bool → EngineFault → Failure → Prop where
  | pending (failure : Failure) (rejected : Bool) (fault : EngineFault) :
      Explained (some failure) rejected fault failure
  | rejected {fault : EngineFault} :
      fault.Unsolved → Explained none true fault .unusableConstraint
  | failed {rejected : Bool} (code : Int) (message : Option String) :
      ¬(rejected = true ∧ (failed code message).Unsolved) →
      Explained none rejected (.failed code message)
        (.engine ⟨code, message.getD ("Error code " ++ toString code ++ ": " ++ words code)⟩)
  | parameterCount (rejected : Bool) (got needed : Nat) :
      Explained none rejected (.parameterCount got needed)
        (.engine ⟨25, (EngineFault.parameterCount got needed).message⟩)
  | parameterName (rejected : Bool) (name : String) :
      Explained none rejected (.parameterName name)
        (.engine ⟨25, (EngineFault.parameterName name).message⟩)
  | other (rejected : Bool) {fault : EngineFault} :
      (∀ code message, fault ≠ .failed code message) →
      (∀ got needed, fault ≠ .parameterCount got needed) → (∀ name, fault ≠ .parameterName name) →
      Explained none rejected fault (.engine ⟨1, fault.message⟩)

theorem explained_toFailure {fault : EngineFault} {rejected : Bool}
    (solved : ¬(rejected = true ∧ fault.Unsolved)) :
    Explained none rejected fault fault.toFailure := by
  cases fault with
  | failed code message =>
      cases message with
      | none => exact .failed code none solved
      | some text => exact .failed code (some text) solved
  | parameterCount got needed => exact .parameterCount rejected got needed
  | parameterName name => exact .parameterName rejected name
  | _ => exact .other rejected nofun nofun nofun

end EngineFault

namespace Status

theorem explained_explain (s : Status) (fault : EngineFault) :
    fault.Explained s.pending s.planRejected (s.explain fault).1 := by
  unfold explain
  dsimp only
  cases s.pending with
  | some failure =>
      exact .pending failure _ fault
  | none =>
      dsimp only
      split
      · rename_i both
        obtain ⟨rejected, unsolved⟩ := Bool.and_eq_true_iff.mp both
        rw [rejected]
        exact .rejected ((EngineFault.isNoQuerySolution_iff fault).mp unsolved)
      · rename_i neither
        refine EngineFault.explained_toFailure fun both => neither ?_
        exact Bool.and_eq_true_iff.mpr
          ⟨both.1, (EngineFault.isNoQuerySolution_iff fault).mpr both.2⟩

/-! ### The history of the slot and of the mark -/

namespace Step

/-- Steps that take a guard or drop one. -/
def isGuard : Step → Bool
  | .markBusy | .releaseBusy | .enterIteration _ | .exitIteration _ => true
  | _ => false

/-- Steps that hand out what is pending. -/
def takes : Step → Bool
  | .takePending | .explain _ => true
  | _ => false

/-- Steps after which nothing is pending. -/
def empties : Step → Bool
  | .takePending | .explain _ | .discardStale => true
  | _ => false

/-- Steps after which no plan counts as turned down. -/
def unmarks : Step → Bool
  | .takePlanRejected | .explain _ | .discardStale => true
  | _ => false

def notesRejection : Step → Bool
  | .notePlanRejected => true
  | _ => false

def deferred? : Step → Option Failure
  | .deferFailure failure => some failure
  | _ => none

theorem empties_of_takes {step : Step} (takes : step.takes = true) : step.empties = true := by
  cases step with
  | takePending => rfl
  | explain fault => rfl
  | _ => cases takes

theorem deferred?_of_takes {step : Step} (takes : step.takes = true) : step.deferred? = none := by
  cases step with
  | deferFailure failure => cases takes
  | _ => rfl

theorem filterMap_deferred?_cons (step : Step) (rest : List Step) :
    (step :: rest).filterMap deferred? = step.deferred?.toList ++ rest.filterMap deferred? := by
  cases deferred : step.deferred? with
  | none => exact List.filterMap_cons_none deferred
  | some failure => exact List.filterMap_cons_some deferred

/-- The steps since the last one of a kind. -/
def since (kind : Step → Bool) (steps : List Step) : List Step :=
  steps.rtakeWhile fun step => !kind step

/-- The first failure that was deferred since the slot was emptied last. -/
def firstDeferred (steps : List Step) : Option Failure :=
  ((since empties steps).filterMap deferred?).head?

/-- Whether a plan was turned down since the mark was cleared last. -/
def rejectionNoted (steps : List Step) : Bool := (since unmarks steps).any notesRejection

theorem since_concat (kind : Step → Bool) (steps : List Step) (step : Step) :
    since kind (steps ++ [step]) = if kind step then [] else since kind steps ++ [step] := by
  unfold since
  rw [List.rtakeWhile_concat]
  cases kind step <;> rfl

theorem firstDeferred_concat (steps : List Step) (step : Step) :
    firstDeferred (steps ++ [step]) =
      if step.empties then none else (firstDeferred steps).or step.deferred? := by
  unfold firstDeferred
  rw [since_concat]
  split
  · rfl
  · rw [List.filterMap_append, List.head?_append]
    cases deferred : step.deferred? with
    | none => rw [List.filterMap_cons_none deferred, List.filterMap_nil, List.head?_nil]
    | some failure => rw [List.filterMap_cons_some deferred, List.head?_cons]

theorem rejectionNoted_concat (steps : List Step) (step : Step) :
    rejectionNoted (steps ++ [step]) =
      if step.unmarks then false else rejectionNoted steps || step.notesRejection := by
  unfold rejectionNoted
  rw [since_concat]
  split
  · rfl
  · simp

/-- The failure that a step has handed out, by its answer and the steps before it. What explains a fault
was handed out if something was deferred; otherwise it is said of the fault, and nobody has left it. -/
def handed? (before : List Step) : Step → Answer → Option Failure
  | .takePending, .failed failure => some failure
  | .explain _, .failed failure => (firstDeferred before).map fun _ => failure
  | _, _ => none

/-- The failures that were handed out, read off the answers to some steps. -/
def handedOut (before : List Step) : List (Step × Answer) → List Failure
  | [] => []
  | (step, answer) :: rest =>
      (step.handed? before answer).toList ++ handedOut (before ++ [step]) rest

end Step

namespace Guarded

/-- The status and its guards after some steps. -/
def after (g : Guarded) (steps : List Step) : Guarded :=
  steps.foldl (fun g step => (g.step step).2) g

theorem after_concat (g : Guarded) (steps : List Step) (step : Step) :
    g.after (steps ++ [step]) = ((g.after steps).step step).2 := by
  unfold after
  rw [List.foldl_append]
  rfl

/-- Steps with the answers that a run gives to them. -/
def answered (g : Guarded) (steps : List Step) : List (Step × Answer) :=
  steps.zip ((g.run steps).map Prod.fst)

theorem answered_cons (g : Guarded) (step : Step) (rest : List Step) :
    g.answered (step :: rest) = (step, (g.step step).1) :: (g.step step).2.answered rest := rfl

/-! ### One step -/

/-- Steps that take or drop a guard leave the slot and the mark alone. -/
theorem left_of_guard (g : Guarded) {step : Step} (guard : step.isGuard = true) :
    (g.step step).2.status.pending = g.status.pending ∧
      (g.step step).2.status.planRejected = g.status.planRejected := by
  cases step with
  | markBusy =>
      simp only [Guarded.step, markBusy]
      cases g.status.isBusy <;> exact ⟨rfl, rfl⟩
  | releaseBusy =>
      simp only [Guarded.step]
      cases g.busyHeld <;> exact ⟨rfl, rfl⟩
  | enterIteration id =>
      simp only [Guarded.step]
      cases g.iterations.contains id <;> exact ⟨rfl, rfl⟩
  | exitIteration id =>
      simp only [Guarded.step]
      cases g.iterations.contains id <;> exact ⟨rfl, rfl⟩
  | _ => cases guard

theorem pending_step (g : Guarded) (step : Step) :
    (g.step step).2.status.pending =
      if step.empties then none else g.status.pending.or step.deferred? := by
  have unmoved : g.status.pending = g.status.pending.or none := (Option.or_none ..).symm
  cases step with
  | markBusy | releaseBusy => exact (g.left_of_guard rfl).1.trans unmoved
  | enterIteration id => exact (g.left_of_guard rfl).1.trans unmoved
  | exitIteration id => exact (g.left_of_guard rfl).1.trans unmoved
  | deferFailure failure =>
      simp only [Guarded.step, deferFailure, Step.empties, Step.deferred?]
      cases found : g.status.pending with
      | none => rfl
      | some first => exact found
  | discardStale | takePending => rfl
  | explain fault => rfl
  | _ => exact unmoved

theorem planRejected_step (g : Guarded) (step : Step) :
    (g.step step).2.status.planRejected =
      if step.unmarks then false else g.status.planRejected || step.notesRejection := by
  have unmoved : g.status.planRejected = (g.status.planRejected || false) := (Bool.or_false _).symm
  cases step with
  | markBusy | releaseBusy => exact (g.left_of_guard rfl).2.trans unmoved
  | enterIteration id => exact (g.left_of_guard rfl).2.trans unmoved
  | exitIteration id => exact (g.left_of_guard rfl).2.trans unmoved
  | deferFailure failure =>
      simp only [Guarded.step, deferFailure]
      cases g.status.pending <;> exact unmoved
  | notePlanRejected => exact (Bool.or_true _).symm
  | discardStale | takePlanRejected => rfl
  | explain fault => rfl
  | _ => exact unmoved

/-- A step that takes what is pending answers with it. -/
theorem step_of_takes {g : Guarded} {step : Step} {failure : Failure} (takes : step.takes = true)
    (pending : g.status.pending = some failure) : (g.step step).1 = .failed failure := by
  cases step with
  | takePending => simp [Guarded.step, Status.takePending, pending]
  | explain fault => simp [Guarded.step, Status.explain, pending]
  | _ => cases takes

theorem handed?_step {g : Guarded} {before : List Step}
    (pending : g.status.pending = Step.firstDeferred before) (step : Step) :
    step.handed? before (g.step step).1 = if step.takes then g.status.pending else none := by
  cases step with
  | takePending =>
      simp only [Guarded.step, Status.takePending, Step.takes, if_true]
      cases g.status.pending <;> rfl
  | explain fault =>
      simp only [Guarded.step, Status.explain, Step.handed?, Step.takes, if_true, ← pending]
      cases g.status.pending <;> rfl
  | _ => rfl

/-! ### A run -/

theorem pending_after {g : Guarded} (empty : g.status.pending = none) (steps : List Step) :
    (g.after steps).status.pending = Step.firstDeferred steps := by
  induction steps using List.reverseRecOn with
  | nil =>
      exact empty
  | append_singleton steps step ih =>
      rw [after_concat, pending_step, Step.firstDeferred_concat, ih]

theorem planRejected_after {g : Guarded} (unmarked : g.status.planRejected = false)
    (steps : List Step) : (g.after steps).status.planRejected = Step.rejectionNoted steps := by
  induction steps using List.reverseRecOn with
  | nil =>
      exact unmarked
  | append_singleton steps step ih =>
      rw [after_concat, planRejected_step, Step.rejectionNoted_concat, ih]

theorem toList_or_sublist {α : Type} (first second : Option α) :
    (first.or second).toList.Sublist (first.toList ++ second.toList) := by
  cases first with
  | none => exact .refl _
  | some value => exact List.sublist_append_left ..

/-- What is handed out was pending at first or deferred later, each of these at most once. -/
theorem handedOut_sublist {g : Guarded} {before : List Step}
    (pending : g.status.pending = Step.firstDeferred before) (steps : List Step) :
    (Step.handedOut before (g.answered steps)).Sublist
      (g.status.pending.toList ++ steps.filterMap Step.deferred?) := by
  induction steps generalizing g before with
  | nil =>
      exact List.nil_sublist _
  | cons step rest ih =>
      have moved : (g.step step).2.status.pending = Step.firstDeferred (before ++ [step]) := by
        rw [pending_step, Step.firstDeferred_concat, pending]
      have later := ih moved
      rw [pending_step] at later
      rw [answered_cons, Step.handedOut, handed?_step pending, Step.filterMap_deferred?_cons]
      cases takes : step.takes with
      | true =>
          rw [Step.empties_of_takes takes] at later
          rw [Step.deferred?_of_takes takes]
          exact later.append_left g.status.pending.toList
      | false =>
          have kept : (if step.empties then none
              else g.status.pending.or step.deferred?).toList.Sublist
                (g.status.pending.toList ++ step.deferred?.toList) := by
            split
            · exact List.nil_sublist _
            · exact toList_or_sublist ..
          rw [← List.append_assoc]
          exact later.trans (kept.append_right _)

/-- From the opening of a session on, after any steps: the failure that is pending is the first one
deferred since the slot was emptied last, and a plan counts as turned down if that was noted since the
mark was cleared last. The answers say just this, and a fault is explained by the two. Each failure that
was deferred is handed out at most once. -/
theorem left_behind (unsafeMode : Bool) (mode : IntegerMode) (steps : List Step) :
    let start : Guarded := { status := { unsafeMode := unsafeMode, integerMode := mode } }
    let now := start.after steps
    now.status.pending = Step.firstDeferred steps ∧
    now.status.planRejected = Step.rejectionNoted steps ∧
    (now.step .takePending).1 =
      (match Step.firstDeferred steps with
      | some failure => .failed failure
      | none => .nothing) ∧
    (now.step .takePlanRejected).1 = .flag (Step.rejectionNoted steps) ∧
    (Step.handedOut [] (start.answered steps)).Sublist (steps.filterMap Step.deferred?) ∧
    (∀ step : Step, step.takes = true → ∀ failure, Step.firstDeferred steps = some failure →
      (now.step step).1 = .failed failure) ∧
    ∀ fault, ∃ failure, (now.step (.explain fault)).1 = .failed failure ∧
      fault.Explained (Step.firstDeferred steps) (Step.rejectionNoted steps) failure := by
  intro start now
  have pending : now.status.pending = Step.firstDeferred steps := pending_after rfl steps
  have rejected : now.status.planRejected = Step.rejectionNoted steps :=
    planRejected_after rfl steps
  have empty : start.status.pending = Step.firstDeferred [] := rfl
  refine ⟨pending, rejected, ?_, ?_, handedOut_sublist empty steps, ?_, ?_⟩
  · rw [← pending]
    rfl
  · rw [← rejected]
    rfl
  · intro step takes failure first
    exact step_of_takes takes (pending.trans first)
  · intro fault
    have explained := now.status.explained_explain fault
    rw [pending, rejected] at explained
    exact ⟨_, rfl, explained⟩

end Guarded

end Status

end RowSource
