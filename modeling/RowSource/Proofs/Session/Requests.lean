import RowSource.Proofs.Session.Rejections
import RowSource.Proofs.Session.Restored

/-!
# Rejected requests

A request that is turned down for the state of its session or for what it was given has had no effect:
no host code was called, the engine was not asked for anything, and the world is as it was. A statement
that cannot bind a value tells which one, after all its other checks.
-/

namespace RowSource

variable {H : Host} {E : Engine} {C : Callbacks H E} {α : Type}

/-! ### Values that cannot be bound -/

/-- The first value of a list that has no engine form, by its position counted from one. -/
def RejectsFirst (params : List HostValue) (position : Nat) (fault : ValueFault) : Prop :=
  ∃ before value after, params = before ++ value :: after ∧ position = before.length + 1 ∧
    value.toSql = .error fault ∧ ∀ earlier ∈ before, ∃ native, earlier.toSql = .ok native

theorem Statement.engineValues_error {params : List HostValue} {least : Nat} {failure : Failure}
    (failed : engineValues least params = .error failure) :
    ∃ position fault, failure = .bindValue (least + position) fault ∧
      RejectsFirst params (position + 1) fault := by
  induction params generalizing least with
  | nil => cases failed
  | cons value rest ih =>
      unfold engineValues at failed
      cases stored : value.toSql with
      | error fault =>
          rw [stored] at failed
          cases failed
          exact ⟨0, fault, rfl, [], value, rest, rfl, rfl, stored,
            fun _ member => absurd member List.not_mem_nil⟩
      | ok native =>
          rw [stored] at failed
          dsimp only at failed
          cases later : engineValues (least + 1) rest with
          | ok natives =>
              rw [later] at failed
              cases failed
          | error met =>
              rw [later] at failed
              cases failed
              obtain ⟨position, fault, same, before, other, after, split, counted, rejected, stores⟩ :=
                ih later
              refine ⟨position + 1, fault, ?_, value :: before, other, after, ?_, ?_, rejected, ?_⟩
              · rw [same, Nat.add_right_comm, Nat.add_assoc]
              · rw [split, List.cons_append]
              · rw [List.length_cons, ← counted]
              · intro earlier member
                rcases List.mem_cons.mp member with rfl | member
                · exact ⟨native, stored⟩
                · exact stores earlier member

namespace Operation

/-- The checks that come before a value is looked at have let the operation go on, and the value is
the first that has no engine form. -/
def StopsAt (s : Session H) (position : Nat) (fault : ValueFault) : Operation H E → Prop
  | .execute (.run statement params) =>
      statement.reader = false ∧ s.status.isOpen = true ∧ s.status.isBusy = false ∧
        (statement.readonly = true ∨ s.status.iterators = 0 ∨ s.status.unsafeMode = true) ∧
        RejectsFirst params position fault
  | .execute (.read statement params _) =>
      statement.reader = true ∧ s.status.isOpen = true ∧ s.status.isBusy = false ∧
        RejectsFirst params position fault
  | _ => False

end Operation

/-- A check that lets an operation go on or refuses it. -/
def Refuses (check : Except Failure Unit) : Prop :=
  check = .ok () ∨ ∃ refusal, check = .error (.refused refusal)

/-- A value is looked at only after a check has let the operation go on. -/
theorem Refuses.passed {check : Except Failure Unit} (refuses : Refuses check)
    {rest : Unit → Except Failure α} {position : Nat} {fault : ValueFault}
    (failed : (check >>= rest) = .error (.bindValue position fault)) :
    check = .ok () ∧ rest () = .error (.bindValue position fault) := by
  rcases refuses with passed | ⟨refusal, refused⟩
  · rw [passed] at failed
    exact ⟨passed, failed⟩
  · rw [refused] at failed
    cases failed

theorem Refuses.ite {passes : Prop} [Decidable passes] {refusal : Refusal} :
    Refuses (if passes then .ok () else .error (.refused refusal)) := by
  by_cases passed : passes
  · exact .inl (if_pos passed)
  · exact .inr ⟨refusal, if_neg passed⟩

namespace Status

variable (status : Status)

theorem requireOpen_refuses : Refuses status.requireOpen := .ite

theorem requireNotBusy_refuses : Refuses status.requireNotBusy := by
  unfold requireNotBusy
  cases status.isBusy with
  | false => exact .inl rfl
  | true => exact .inr ⟨.busy, rfl⟩

theorem requireNoIterators_refuses : Refuses status.requireNoIterators := .ite

theorem requireNoIteratorsUnlessUnsafe_refuses : Refuses status.requireNoIteratorsUnlessUnsafe := by
  unfold requireNoIteratorsUnlessUnsafe
  cases status.unsafeMode with
  | false => exact status.requireNoIterators_refuses
  | true => exact .inl rfl

theorem requireNoIterators_eq_ok (passed : status.requireNoIterators = .ok ()) :
    status.iterators = 0 := by
  unfold requireNoIterators at passed
  split at passed
  · assumption
  · cases passed

theorem requireNoIteratorsUnlessUnsafe_eq_ok
    (passed : status.requireNoIteratorsUnlessUnsafe = .ok ()) :
    status.iterators = 0 ∨ status.unsafeMode = true := by
  unfold requireNoIteratorsUnlessUnsafe at passed
  split at passed
  · exact .inr (by assumption)
  · exact .inl (status.requireNoIterators_eq_ok passed)

/-- The checks that almost every operation begins with. -/
theorem available_of_bindValue {rest : Except Failure α} {position : Nat} {fault : ValueFault}
    (failed : (do status.requireOpen; status.requireNotBusy; rest) =
      .error (.bindValue position fault)) :
    status.isOpen = true ∧ status.isBusy = false ∧ rest = .error (.bindValue position fault) := by
  obtain ⟨opened, failed⟩ := status.requireOpen_refuses.passed failed
  obtain ⟨idle, failed⟩ := status.requireNotBusy_refuses.passed failed
  have passed : (do status.requireOpen; status.requireNotBusy; pure ()) = Except.ok () := by
    rw [opened, idle]
    rfl
  obtain ⟨isOpen, isIdle⟩ := available_of_passed passed
  exact ⟨isOpen, isIdle, failed⟩

end Status

theorem Statement.rejectsFirst_of_bindValue {params : List HostValue} {position : Nat}
    {fault : ValueFault} (failed : engineValues 1 params = .error (.bindValue position fault)) :
    RejectsFirst params position fault := by
  obtain ⟨place, found, same, rejects⟩ := engineValues_error failed
  cases same
  rw [Nat.add_comm]
  exact rejects

namespace Operation

theorem stopsAt_of_bindValue {operation : Operation H E} {s : Session H} {position : Nat}
    {fault : ValueFault} (failed : operation.grounds s = .error (.bindValue position fault)) :
    operation.StopsAt s position fault := by
  have rejected : operation.admitted s = .error (.bindValue position fault) := by
    cases admitted : operation.admitted s with
    | error failure => exact (grounds_of_refused admitted).symm.trans failed
    | ok values =>
        unfold grounds at failed
        rw [admitted] at failed
        cases connected : s.connected <;> rw [connected] at failed <;> cases failed
  cases operation with
  | prepare id sql =>
      obtain ⟨_, _, failed⟩ := s.status.available_of_bindValue rejected
      split at failed <;> cases failed
  | registerTable id name factory eponymous =>
      obtain ⟨_, _, failed⟩ := s.status.available_of_bindValue rejected
      obtain ⟨_, failed⟩ := s.status.requireNoIterators_refuses.passed failed
      split at failed <;> cases failed
  | execute call =>
      rcases call with ⟨id, sql⟩ | ⟨statement, params⟩ | ⟨statement, params, fetch⟩
      · obtain ⟨_, _, failed⟩ := s.status.available_of_bindValue rejected
        obtain ⟨_, failed⟩ := s.status.requireNoIteratorsUnlessUnsafe_refuses.passed failed
        cases failed
      · change statement.runnable params s.status = _ at rejected
        unfold Statement.runnable at rejected
        cases reader : statement.reader with
        | true =>
            rw [reader] at rejected
            cases rejected
        | false =>
            rw [reader] at rejected
            obtain ⟨opened, idle, failed⟩ := s.status.available_of_bindValue rejected
            cases readonly : statement.readonly with
            | true =>
                rw [readonly] at failed
                exact ⟨reader, opened, idle, .inl readonly, Statement.rejectsFirst_of_bindValue failed⟩
            | false =>
                rw [readonly] at failed
                obtain ⟨passed, failed⟩ :=
                  s.status.requireNoIteratorsUnlessUnsafe_refuses.passed failed
                exact ⟨reader, opened, idle, .inr (s.status.requireNoIteratorsUnlessUnsafe_eq_ok passed),
                  Statement.rejectsFirst_of_bindValue failed⟩
      · change statement.readable params s.status = _ at rejected
        unfold Statement.readable at rejected
        cases reader : statement.reader with
        | false =>
            rw [reader] at rejected
            cases rejected
        | true =>
            rw [reader] at rejected
            obtain ⟨opened, idle, failed⟩ := s.status.available_of_bindValue rejected
            exact ⟨reader, opened, idle, Statement.rejectsFirst_of_bindValue failed⟩

end Operation

/-! ### Requests -/

/-- An action fails as it is known to beforehand, and then it does nothing, or it does not fail. -/
def FailsAs (known : Except Failure Unit) (action : Action H E Unit) (w : World H E) : Prop :=
  ∃ v, action.run w = match known with
    | .ok () => (.ok (), v)
    | .error failure => (.error failure, w)

namespace FailsAs

variable {action : Action H E Unit} {known : Except Failure Unit} {w : World H E} {failure : Failure}

theorem run (fails : FailsAs known action w) (grounded : known = .error failure) :
    action.run w = (.error failure, w) := by
  obtain ⟨v, ran⟩ := fails
  rw [grounded] at ran
  exact ran

theorem grounded (fails : FailsAs known action w) (failed : (action.run w).1 = .error failure) :
    known = .error failure := by
  obtain ⟨v, ran⟩ := fails
  rw [ran] at failed
  cases known with
  | ok passed => cases failed
  | error met => exact failed

end FailsAs

namespace Session

theorem close_fails (id : Nat) (w : World H E) :
    FailsAs (if (w.status id).isOpen then (w.session id).closable else .ok ()) (close id) w := by
  unfold FailsAs
  rw [close_run]
  cases (w.status id).isOpen with
  | false => exact ⟨w, rfl⟩
  | true =>
      rw [if_pos rfl]
      cases (w.session id).closable with
      | ok passed => exact ⟨_, rfl⟩
      | error failure => exact ⟨w, rfl⟩

/-- Whether the unsafe mode can be set. -/
def unsafeGrounds (s : Session H) : Except Failure Unit := do
  s.status.requireOpen
  if s.connected then return else throw (.refused .notOpen)

theorem setUnsafeMode_fails (id : Nat) (enabled : Bool) (w : World H E) :
    FailsAs (w.session id).unsafeGrounds (setUnsafeMode id enabled) w := by
  have checked : (setUnsafeMode (H := H) (E := E) id enabled).Follows w
      (do (w.status id).requireOpen; pure ()) fun _ =>
        (withConnection id (return .ok ()) >>= fun _ =>
          modify (World.updateStatus id fun status => { status with unsafeMode := enabled })) :=
    .require (.admitted _ _ _)
  unfold Action.Follows at checked
  unfold FailsAs
  rw [checked]
  unfold unsafeGrounds World.status Status.requireOpen
  cases (w.session id).status.isOpen with
  | false => exact ⟨w, rfl⟩
  | true =>
      cases connected : (w.session id).connected with
      | false => exact ⟨w, withConnection_bind_of_lost connected⟩
      | true =>
          have set : ∃ v, (withConnection (H := H) (E := E) id (return .ok ())).run w =
              (.ok (), v) := by
            unfold withConnection borrowing
            rw [ExceptT.run_mk, Worldly.get_bind_apply, connected]
            exact ⟨_, rfl⟩
          obtain ⟨v, set⟩ := set
          refine ⟨v.updateStatus id fun status => { status with unsafeMode := enabled }, ?_⟩
          change (withConnection id (return .ok ()) >>= fun _ => _ : Action H E Unit).run w = _
          rw [Action.bind_run, set]
          rfl

end Session

/-- What may be asked of a session that can turn it down. -/
inductive Request (H : Host) (E : Engine) where
  | operate (operation : Operation H E) (whole : operation.IsWhole)
  | close (id : Nat)
  | setUnsafeMode (id : Nat) (enabled : Bool)

namespace Request

def session : Request H E → Nat
  | .operate operation _ => operation.session
  | .close id | .setUnsafeMode id _ => id

def Result : Request H E → Type
  | .operate operation _ => operation.Result
  | .close _ | .setUnsafeMode _ _ => Unit

variable (C : Callbacks H E)

def perform : (request : Request H E) → Action H E request.Result
  | .operate operation _ => operation.perform C
  | .close id => Session.close id
  | .setUnsafeMode id enabled => Session.setUnsafeMode id enabled

/-- The demands that are made of host code and the rows that it is handed. -/
def events (w : World H E) : Request H E → List (Event H E)
  | .operate operation _ => ((operation.thrown C).run w).events
  | .close _ | .setUnsafeMode _ _ => []

def StopsAt (s : Session H) (position : Nat) (fault : ValueFault) : Request H E → Prop
  | .operate operation _ => operation.StopsAt s position fault
  | .close _ | .setUnsafeMode _ _ => False

/-- All that can turn a request down, in order. -/
def grounds (s : Session H) : Request H E → Except Failure Unit
  | .operate operation _ => (operation.grounds s).map fun _ => ()
  | .close _ => if s.status.isOpen then s.closable else .ok ()
  | .setUnsafeMode _ _ => s.unsafeGrounds

variable {C} {w : World H E} {request : Request H E} {failure : Failure}

theorem grounds_operate {operation : Operation H E} {whole : operation.IsWhole} {s : Session H}
    (grounded : (operate operation whole).grounds s = .error failure) :
    operation.grounds s = .error failure := by
  change (operation.grounds s).map _ = _ at grounded
  cases grounds : operation.grounds s with
  | error met =>
      rw [grounds] at grounded
      cases grounded
      rfl
  | ok values =>
      rw [grounds] at grounded
      cases grounded

theorem perform_of_grounds (grounded : request.grounds (w.session request.session) = .error failure) :
    (request.perform C).run w = (.error failure, w) := by
  cases request with
  | operate operation whole =>
      exact operation.perform_of_grounds whole (grounds_operate grounded)
  | close id => exact (Session.close_fails id w).run grounded
  | setUnsafeMode id enabled => exact (Session.setUnsafeMode_fails id enabled w).run grounded

theorem grounds_of_rejection (calm : C.Calm)
    (failed : ((request.perform C).run w).1 = .error failure)
    (rejection : failure.isRejection = true) :
    request.grounds (w.session request.session) = .error failure ∧ request.events C w = [] := by
  cases request with
  | operate operation whole =>
      have bodyCalm : operation.Calm := by
        cases operation with
        | execute call =>
            rcases call with ⟨id, sql⟩ | ⟨s, params⟩ | ⟨s, params, fetch⟩
            · trivial
            · trivial
            · cases fetch with
              | iterate body => cases whole
              | first => trivial
              | all => trivial
        | prepare id sql => trivial
        | registerTable id name factory eponymous => trivial
      have settled := operation.settles calm bodyCalm w trivial
      change ((operation.perform C).run w).1 = _ at failed
      rw [settled.same] at failed
      obtain ⟨grounded, ran⟩ := operation.thrown_rejection whole failed rejection
      refine ⟨?_, ?_⟩
      · change (operation.grounds (w.session operation.session)).map _ = _
        rw [grounded]
        rfl
      · change ((operation.thrown C).run w).events = []
        rw [ran]
  | close id => exact ⟨(Session.close_fails id w).grounded failed, rfl⟩
  | setUnsafeMode id enabled =>
      exact ⟨(Session.setUnsafeMode_fails id enabled w).grounded failed, rfl⟩

theorem stopsAt_of_bindValue {s : Session H} {position : Nat} {fault : ValueFault}
    (grounded : request.grounds s = .error (.bindValue position fault)) :
    request.StopsAt s position fault := by
  cases request with
  | operate operation whole =>
      exact operation.stopsAt_of_bindValue (grounds_operate grounded)
  | close id =>
      change (if s.status.isOpen then s.closable else .ok ()) = _ at grounded
      split at grounded
      · obtain ⟨_, failed⟩ := s.status.requireNotBusy_refuses.passed grounded
        obtain ⟨_, failed⟩ := s.status.requireNoIterators_refuses.passed failed
        split at failed <;> cases failed
      · cases grounded
  | setUnsafeMode id enabled =>
      obtain ⟨_, failed⟩ := s.status.requireOpen_refuses.passed grounded
      split at failed <;> cases failed

end Request

/-- A request that is rejected has had no effect, wherever it was made. The world is as it was, no
demand was made of host code, and in every world with the same session the same request is rejected in
the same way, whatever host code there is and whatever the engine has stored. If it is rejected for a
value that cannot be bound, then that is the first such value, and the request has passed all checks
that come before. -/
theorem HostCode.Admissible.rejection_without_effect {host : HostCode H E}
    (admissible : host.Admissible) (depth : Nat) (request : Request H E) {w : World H E}
    {failure : Failure}
    (failed : ((request.perform (host.callbacks depth)).run w).1 = .error failure)
    (rejection : failure.isRejection = true) :
    ((request.perform (host.callbacks depth)).run w).2 = w ∧
      request.events (host.callbacks depth) w = [] ∧
      (∀ (C : Callbacks H E) (v : World H E),
        v.session request.session = w.session request.session →
          (request.perform C).run v = (.error failure, v)) ∧
      ∀ position fault, failure = .bindValue position fault →
        request.StopsAt (w.session request.session) position fault := by
  obtain ⟨grounded, silent⟩ :=
    Request.grounds_of_rejection (admissible.calm depth) failed rejection
  refine ⟨?_, silent, fun C v same => ?_, fun position fault same => ?_⟩
  · rw [Request.perform_of_grounds grounded]
  · rw [← same] at grounded
    exact Request.perform_of_grounds grounded
  · rw [same] at grounded
    exact Request.stopsAt_of_bindValue grounded

namespace Porter

/-- A read with a value that cannot be bound, and another one that would not have been looked at. -/
theorem rejected_second_value :
    let request : Request host engine := .operate (.execute (.read (reading "SELECT a FROM m")
      [.text "first", .bool true, .bool false] .all)) trivial
    let left := (request.perform (code.callbacks 2)).run beginning
    left.1 = .error (.bindValue 2 (.unstorable "boolean")) ∧ left.2 = beginning ∧
      request.StopsAt (beginning.session 0) 2 (.unstorable "boolean") := by
  intro request left
  have failed : left.1 = .error (.bindValue 2 (.unstorable "boolean")) := rfl
  obtain ⟨same, _, _, stops⟩ := admissible.rejection_without_effect 2 request failed rfl
  exact ⟨failed, same, stops 2 _ rfl⟩

end Porter

end RowSource
