import RowSource.Proofs.Session.Thrown

/-!
# Admission

Every operation begins with checks of its session and of its own arguments, in a fixed order, and
goes on only if all of them let it. This module takes an operation apart into its checks and the
rest, in both forms: as it is, and with failures thrown. An operation that is not admitted fails, and
that is all that happens.
-/

namespace RowSource

variable {H : Host} {E : Engine} {α β : Type}

namespace Operating

def Follows (operation : Operating H E α) (w : World H E) (known : Except Failure β)
    (next : β → Operating H E α) : Prop :=
  operation.run w =
    match known with
    | .error failure => ⟨.error failure, [], w⟩
    | .ok value => (next value).run w

theorem Follows.require {id : Nat} {check : Status → Except Failure Unit}
    {rest : Unit → Operating H E α} {w : World H E} {known : Except Failure β}
    {next : β → Operating H E α} (follows : (rest ()).Follows w known next) :
    (Operating.plain (Session.require id check) >>= rest).Follows w
      (check (w.status id) >>= fun _ => known) next := by
  unfold Follows Operating.plain
  rw [Noting.bind_run, ExceptT.run_mk, Noting.lift_apply, Session.require_run]
  cases check (w.status id) with
  | error failure =>
      rfl
  | ok passed =>
      exact follows

theorem Follows.look {rest : World H E → Operating H E α} {w : World H E}
    {known : Except Failure β} {next : β → Operating H E α}
    (follows : (rest w).Follows w known next) : (get >>= rest).Follows w known next := by
  unfold Follows
  rw [Noting.get_bind_run]
  exact follows

theorem Follows.refusing {refuses : Prop} [Decidable refuses] {failure : Failure}
    {rest : Unit → Operating H E α} {w : World H E} {known : Except Failure β}
    {next : β → Operating H E α} (follows : (rest ()).Follows w known next) :
    (if refuses then MonadExcept.throw failure >>= rest else rest ()).Follows w
      (if refuses then MonadExcept.throw failure else known) next := by
  by_cases refused : refuses
  · rw [if_pos refused, if_pos refused]
    rfl
  · rw [if_neg refused, if_neg refused]
    exact follows

end Operating

namespace Action.Follows

theorem admitted (action : Action H E α) (w : World H E) (value : β) :
    action.Follows w (pure value) fun _ => action :=
  rfl

theorem look {rest : World H E → Action H E α} {w : World H E} {known : Except Failure β}
    {next : β → Action H E α} (follows : (rest w).Follows w known next) :
    (get >>= rest).Follows w known next := by
  unfold Action.Follows
  rw [Action.get_bind_run]
  exact follows

theorem refusing {refuses : Prop} [Decidable refuses] {failure : Failure}
    {rest : Unit → Action H E α} {w : World H E} {known : Except Failure β}
    {next : β → Action H E α} (follows : (rest ()).Follows w known next) :
    (if refuses then MonadExcept.throw failure >>= rest else rest ()).Follows w
      (if refuses then MonadExcept.throw failure else known) next := by
  by_cases refused : refuses
  · rw [if_pos refused, if_pos refused]
    rfl
  · rw [if_neg refused, if_neg refused]
    exact follows

end Action.Follows

/-- Whatever else an operation checks, its session is open and not busy when the checks let it go
on. -/
theorem Status.available_of_passed {status : Status} {rest : Except Failure α} {value : α}
    (passed : (do status.requireOpen; status.requireNotBusy; rest) = .ok value) :
    status.isOpen = true ∧ status.isBusy = false := by
  unfold Status.requireOpen Status.requireNotBusy at passed
  cases opened : status.isOpen with
  | false =>
      rw [opened] at passed
      cases passed
  | true =>
      cases busy : status.isBusy with
      | true =>
          rw [opened, busy] at passed
          cases passed
      | false =>
          exact ⟨rfl, rfl⟩

theorem Execution.available_of_admitted {call : Execution H E} {status : Status}
    {values : List SqlValue} (admitted : call.admitted status = .ok values) :
    status.isOpen = true ∧ status.isBusy = false := by
  rcases call with ⟨id, sql⟩ | ⟨s, params⟩ | ⟨s, params, fetch⟩
  · exact Status.available_of_passed admitted
  · change s.runnable params status = .ok values at admitted
    unfold Statement.runnable at admitted
    split at admitted
    · cases admitted
    · exact Status.available_of_passed admitted
  · change s.readable params status = .ok values at admitted
    unfold Statement.readable at admitted
    split at admitted
    · exact Status.available_of_passed admitted
    · cases admitted

namespace Operation

def session : Operation H E → Nat
  | .prepare id _ => id
  | .registerTable id _ _ _ => id
  | .execute call => call.session

/-- The checks of an operation, by what they see of its session. Those of a statement let the engine
values of its parameters come. -/
def admitted (s : Session H) : Operation H E → Except Failure (List SqlValue)
  | .prepare _ sql => do
      s.status.requireOpen
      s.status.requireNotBusy
      if (trim sql.toList).isEmpty then
        throw (.invalidArgument "The supplied SQL string contains no statements")
      else return []
  | .registerTable _ name _ _ => do
      s.status.requireOpen
      s.status.requireNotBusy
      s.status.requireNoIterators
      if s.moduleNames.contains (foldCase name) then
        throw (.invalidArgument
          ("A virtual table module named \"" ++ name ++ "\" is already registered"))
      else return []
  | .execute call => call.admitted s.status

theorem available_of_admitted {operation : Operation H E} {s : Session H} {values : List SqlValue}
    (admitted : operation.admitted s = .ok values) :
    s.status.isOpen = true ∧ s.status.isBusy = false := by
  cases operation with
  | prepare id sql => exact Status.available_of_passed admitted
  | registerTable id name factory eponymous => exact Status.available_of_passed admitted
  | execute call => exact Execution.available_of_admitted admitted

variable (C : Callbacks H E)

open Thrown in
/-- Everything after the checks, with failures thrown. -/
def engaged : (operation : Operation H E) → List SqlValue → Operating H E operation.Result
  | .prepare id sql, _ =>
      withBusy id do
        let text := trim sql.toList
        let held ← withConnection id (hold C id (String.ofList text))
        modify (World.updateSession id (Session.keep (String.ofList text) held.info))
        return ⟨id, sql, !held.info.columns.isEmpty, held.info.readonly,
          ((← get).status id).integerMode⟩
  | .registerTable id name factory eponymous, _ =>
      withBusy id do
        withConnection id do
          match E.createModule id name eponymous (← get).store with
          | .error fault => throw (.engine fault)
          | .ok store => modify (World.updateStore fun _ => store)
        modify (World.updateSession id fun s =>
          { s with
            moduleNames := s.moduleNames ++ [foldCase name]
            modules := s.modules ++ [⟨name, factory⟩] })
  | .execute call, values => Thrown.engaged C call values

theorem thrown_follows (operation : Operation H E) (w : World H E) :
    (operation.thrown C).Follows w (operation.admitted (w.session operation.session))
      (operation.engaged C) := by
  cases operation with
  | prepare id sql =>
      exact .require (.require (.refusing (Eq.refl _)))
  | registerTable id name factory eponymous =>
      exact .require (.require (.require (.look (.refusing (Eq.refl _)))))
  | execute call =>
      unfold thrown
      apply Operating.Follows.look
      unfold Operating.Follows
      dsimp only [Operation.session, admitted]
      rw [← World.status]
      cases call.admitted (w.status call.session) <;> rfl

variable {C} {operation : Operation H E} {w : World H E} {failure : Failure}

theorem thrown_of_refused
    (refused : operation.admitted (w.session operation.session) = .error failure) :
    (operation.thrown C).run w = ⟨.error failure, [], w⟩ := by
  have thrown : (operation.thrown C).run w = _ := operation.thrown_follows C w
  rw [refused] at thrown
  exact thrown

theorem thrown_of_admitted {values : List SqlValue}
    (admitted : operation.admitted (w.session operation.session) = .ok values) :
    (operation.thrown C).run w = (operation.engaged C values).run w := by
  have thrown : (operation.thrown C).run w = _ := operation.thrown_follows C w
  rw [admitted] at thrown
  exact thrown

theorem admitted_of_mem_events {event : Event H E}
    (member : event ∈ ((operation.thrown C).run w).events) :
    ∃ values, operation.admitted (w.session operation.session) = .ok values := by
  cases admitted : operation.admitted (w.session operation.session) with
  | error failure =>
      rw [thrown_of_refused admitted] at member
      cases member
  | ok values =>
      exact ⟨values, rfl⟩

/-- An operation that is not admitted fails and changes nothing, whatever its callbacks. -/
theorem perform_of_refused
    (refused : operation.admitted (w.session operation.session) = .error failure) :
    (operation.perform C).run w = (.error failure, w) := by
  have performed : ∃ next : List SqlValue → Action H E operation.Result,
      (operation.perform C).Follows w (operation.admitted (w.session operation.session)) next := by
    cases operation with
    | prepare id sql =>
        exact ⟨_, .require (.require (.refusing (.admitted _ _ _)))⟩
    | registerTable id name factory eponymous =>
        exact ⟨_, .require (.require (.require (.look (.refusing (.admitted _ _ _)))))⟩
    | execute call =>
        exact ⟨call.engaged C, call.perform_follows C w⟩
  obtain ⟨next, performed⟩ := performed
  unfold Action.Follows at performed
  rw [refused] at performed
  exact performed

end Operation

end RowSource
