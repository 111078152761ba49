import RowSource.Proofs.Session.Registration

/-!
# Logs of registrations

The calls that register a table are made one after another, at the top or by host code that is called
inside operations. A log of an action lists those that it makes, but need not list all of those that are
turned down. Every action of host code has one, however deep its operations are nested, and the log
accounts for every record.
-/

namespace RowSource

variable {H : Host} {E : Engine} {C : Callbacks H E} {S α β γ τ : Type}

namespace Status

theorem isOpen_of_markBusy {status marked : Status} (begun : status.markBusy = .ok marked) :
    marked.isOpen = status.isOpen := by
  unfold markBusy at begun
  split at begun
  · cases begun
  · cases begun
    rfl

theorem isOpen_deferFailure (status : Status) (failure : Failure) :
    (status.deferFailure failure).isOpen = status.isOpen := by
  unfold deferFailure
  split <;> rfl

end Status

/-- An action that touches no record, in whatever world it is done. -/
def Apart (action : Worldly H E α) : Prop :=
  ∀ w id, ((action w).2.session id).moduleNames = (w.session id).moduleNames ∧
    ((action w).2.session id).modules = (w.session id).modules

/-- Calls that register a table in an action, in order. What is done besides is apart; a call that is
turned down may be counted there. -/
inductive Logs : {α : Type} → Worldly H E α → World H E → List (Registration H E) → Prop where
  | apart {α : Type} {action : Worldly H E α} (w : World H E) : Apart action → Logs action w []
  | call (id : Nat) (name : String) (factory : H.Factory) (eponymous : Bool) (w : World H E) :
      Logs (Session.registerTable id name factory eponymous).run w
        [⟨id, name, factory, eponymous, w⟩]
  | bind {α β : Type} {action : Worldly H E α} {rest : α → Worldly H E β} {w : World H E}
      {first second : List (Registration H E)} :
      Logs action w first → Logs (rest (action w).1) (action w).2 second →
      Logs (action >>= rest) w (first ++ second)

namespace Engine.ModuleTable

variable (table : E.ModuleTable τ)

/-- An action has a log, which is a chronicle of it. -/
def LoggedAt (action : Worldly H E α) (w : World H E) : Prop :=
  ∃ log, Logs action w log ∧ table.Chronicle log w (action w).2

def Logged (action : Worldly H E α) : Prop := ∀ w, table.LoggedAt action w

variable {table}

namespace LoggedAt

theorem of_apart {action : Worldly H E α} {w : World H E} (apart : Apart action)
    (accounts : table.Accounts [] w (action w).2) : table.LoggedAt action w :=
  ⟨[], .apart w apart, .of_accounts accounts⟩

theorem bind {action : Worldly H E α} {rest : α → Worldly H E β} {w : World H E}
    (first : table.LoggedAt action w)
    (second : table.LoggedAt (rest (action w).1) (action w).2) :
    table.LoggedAt (action >>= rest) w := by
  obtain ⟨early, logs, before⟩ := first
  obtain ⟨late, logsThen, after⟩ := second
  exact ⟨early ++ late, .bind logs logsThen, before.trans after⟩

theorem get_bind {rest : World H E → Worldly H E α} {w : World H E}
    (next : table.LoggedAt (rest w) w) : table.LoggedAt (get >>= rest) w :=
  .bind (.of_apart (fun _ _ => ⟨rfl, rfl⟩) (.refl w)) next

theorem of_updateStatus {action : Worldly H E α} {id : Nat} {f : Status → Status} {w : World H E}
    (updates : ∀ v, (action v).2 = v.updateStatus id f)
    (same : (f (w.status id)).isOpen = (w.status id).isOpen) : table.LoggedAt action w := by
  let change (s : Session H) : Session H := { s with status := f s.status }
  have apart : Apart action := by
    intro v other
    rw [updates]
    exact ⟨World.session_of_map (World.map_updateSession (f := change) (fun _ => rfl) id v) other,
      World.session_of_map (World.map_updateSession (f := change) (fun _ => rfl) id v) other⟩
  refine .of_apart apart ?_
  rw [updates]
  exact .of_same (World.listings_updateStatus same) rfl

theorem updateStatus {id : Nat} {f : Status → Status} {w : World H E}
    (same : (f (w.status id)).isOpen = (w.status id).isOpen) :
    table.LoggedAt (modify (World.updateStatus id f)) w :=
  .of_updateStatus (fun _ => rfl) same

theorem updateStore {f : E.Store → E.Store} {w : World H E}
    (same : table.known (f w.store) = table.known w.store) :
    table.LoggedAt (modify (World.updateStore f)) w :=
  .of_apart (fun _ _ => ⟨rfl, rfl⟩) (.of_same rfl same)

end LoggedAt

namespace Logged

theorem of_accounts {action : Worldly H E α}
    (accounts : ∀ w, table.Accounts [] w (action w).2) : table.Logged action := by
  have apart : Apart action := by
    intro w id
    exact ⟨((accounts w).names id).trans (List.append_nil _),
      ((accounts w).modules id).trans (List.append_nil _)⟩
  exact fun w => .of_apart apart (accounts w)

theorem pure (value : α) : table.Logged (Pure.pure value : Worldly H E α) :=
  .of_accounts fun w => .refl w

theorem look (f : World H E → α) : table.Logged (do return f (← get)) :=
  .of_accounts fun w => .refl w

theorem bind {action : Worldly H E α} {rest : α → Worldly H E β} (first : table.Logged action)
    (second : ∀ value, table.Logged (rest value)) : table.Logged (action >>= rest) :=
  fun w => (first w).bind (second _ _)

theorem get_bind {rest : World H E → Worldly H E α} (next : ∀ w, table.Logged (rest w)) :
    table.Logged (get >>= rest) :=
  fun w => .get_bind (next w w)

theorem updateSession {f : Session H → Session H} (id : Nat)
    (same : ∀ s, (f s).listing = s.listing) :
    table.Logged (modify (World.updateSession id f)) :=
  .of_accounts fun w => .of_same (World.listings_unmoved same id w) rfl

theorem updateStatus {f : Status → Status} (id : Nat)
    (same : ∀ status, (f status).isOpen = status.isOpen) :
    table.Logged (H := H) (modify (World.updateStatus id f)) :=
  fun _ => .updateStatus (same _)

theorem updateSession_bind {f : Session H → Session H} {id : Nat} {rest : Unit → Worldly H E α}
    (same : ∀ s, (f s).listing = s.listing) (next : table.Logged (rest ())) :
    table.Logged (modify (World.updateSession id f) >>= rest) :=
  (updateSession id same).bind fun _ => next

theorem updateStatus_bind {f : Status → Status} {id : Nat} {rest : Unit → Worldly H E α}
    (same : ∀ status, (f status).isOpen = status.isOpen) (next : table.Logged (rest ())) :
    table.Logged (modify (World.updateStatus id f) >>= rest) :=
  (updateStatus id same).bind fun _ => next

theorem action_bind {action : Action H E α} {rest : α → Action H E β}
    (first : table.Logged action.run) (second : ∀ value, table.Logged (rest value).run) :
    table.Logged (action >>= rest).run := by
  change table.Logged (action.run >>= ExceptT.bindCont rest)
  apply first.bind
  intro result
  cases result with
  | error failure => exact .pure _
  | ok value => exact second value

theorem action_get_bind {rest : World H E → Action H E α}
    (next : ∀ w, table.Logged (rest w).run) : table.Logged (get >>= rest).run := by
  change table.Logged (get >>= fun w => (rest w).run)
  exact .get_bind next

theorem action_tryCatch {action : Action H E α} {handler : Failure → Action H E α}
    (tried : table.Logged action.run) (handled : ∀ failure, table.Logged (handler failure).run) :
    table.Logged (tryCatch action handler).run := by
  rw [ExceptT.run_tryCatch]
  apply tried.bind
  intro result
  cases result with
  | error failure => exact handled failure
  | ok value => exact .pure _

theorem action_updateStatus {f : Status → Status} (id : Nat)
    (same : ∀ status, (f status).isOpen = status.isOpen) :
    table.Logged (modify (World.updateStatus id f) : Action H E Unit).run :=
  fun _ => .of_updateStatus (fun _ => rfl) (same _)

theorem action_updateSession_bind {f : Session H → Session H} {id : Nat}
    {rest : Unit → Action H E α} (same : ∀ s, (f s).listing = s.listing)
    (next : table.Logged (rest ()).run) :
    table.Logged ((modify (World.updateSession id f) : Action H E Unit) >>= rest).run :=
  action_bind (.of_accounts fun w => .of_same (World.listings_unmoved same id w) rfl) fun _ => next

/-! ### Conditions and periods -/

theorem require (id : Nat) (check : Status → Except Failure Unit) :
    table.Logged (Session.require (H := H) id check).run := by
  refine of_accounts fun w => ?_
  rw [Session.require_run]
  exact .refl w

theorem withBusy (id : Nat) {action : Action H E α} (logged : table.Logged action.run) :
    table.Logged (Session.withBusy id action).run := by
  intro w
  apply LoggedAt.get_bind
  cases begun : (w.status id).markBusy with
  | error failure => exact Logged.pure _ w
  | ok status =>
      refine .bind (.updateStatus (Status.isOpen_of_markBusy begun)) (Logged.bind logged ?_ _)
      exact fun _ => updateStatus_bind (fun _ => rfl) (.pure _)

theorem withIteration (id : Nat) {action : Action H E α} (logged : table.Logged action.run) :
    table.Logged (Session.withIteration id action).run := by
  refine updateStatus_bind (f := Status.enterIteration) (fun _ => rfl) ?_
  exact logged.bind fun _ => updateStatus_bind (fun _ => rfl) (.pure _)

theorem borrowing (id : Nat) {action : Action H E α} (logged : table.Logged action.run) :
    table.Logged (Session.borrowing id action).run := by
  apply get_bind
  intro w
  split
  · exact .pure _
  · refine updateSession_bind (fun _ => rfl) (updateStatus_bind (fun _ => rfl) ?_)
    exact logged.bind fun _ => updateSession_bind (fun _ => rfl) (.pure _)

theorem explaining (id : Nat) {call : Worldly H E (Except EngineFault α)}
    (logged : table.Logged call) : table.Logged (Session.explaining id call).run := by
  apply logged.bind
  intro result
  cases result with
  | ok value => exact .pure _
  | error fault => exact fun w => .get_bind (.bind (.updateStatus rfl) (Logged.pure _ _))

theorem withConnection (id : Nat) {call : Worldly H E (Except EngineFault α)}
    (logged : table.Logged call) : table.Logged (Session.withConnection id call).run :=
  borrowing id (explaining id logged)

/-! ### Opening and closing -/

theorem openSession (path : String) (options : Options) :
    table.Logged (Session.openSession (H := H) path options).run :=
  of_accounts fun w => .openSession path options w

theorem close (id : Nat) : table.Logged (Session.close (H := H) id).run :=
  of_accounts fun w => .close id w

theorem drop (id : Nat) : table.Logged (Session.drop (H := H) id).run :=
  of_accounts fun w => .drop id w

theorem closeAll : table.Logged (Session.closeAll (H := H) (E := E)).run :=
  of_accounts fun w => .closeAll w

theorem inTransaction (id : Nat) : table.Logged (Session.inTransaction (H := H) id).run := by
  apply action_bind (action_tryCatch
    (action_bind (withConnection id (.look _)) fun _ => .pure _) fun _ => .pure _)
  intro result
  cases result with
  | error early => exact .pure _
  | ok answer => exact .pure _

theorem setUnsafeMode (id : Nat) (enabled : Bool) :
    table.Logged (Session.setUnsafeMode (H := H) id enabled).run := by
  apply action_bind (require id Status.requireOpen)
  intro _
  apply action_bind (withConnection id (.pure _))
  intro _
  exact action_updateStatus id fun _ => rfl

end Logged

/-! ### Demands and programs -/

/-- Callbacks that have logs. -/
structure Serves (table : E.ModuleTable τ) (C : Callbacks H E) : Prop where
  define (factory : H.Factory) (args : List String) : table.Logged (C.define factory args)
  generate (generator : H.Generator) (args : List HostValue) :
    table.Logged (C.generation.generate generator args)
  advance (stream : H.Stream) : table.Logged (C.generation.advance stream)

namespace Serves

variable (serves : table.Serves C)
include serves

theorem next (scan : Scan H.Generator H.Stream) : table.Logged (scan.next C.generation) := by
  unfold Scan.next
  cases scan.stream with
  | none => exact .pure _
  | some stream => exact (serves.advance stream).bind fun _ => .pure _

theorem start (scan : Scan H.Generator H.Stream) (number : Int32) (values : List SqlValue) :
    table.Logged (scan.start C.generation number values) := by
  unfold Scan.start
  dsimp only
  cases Plan.arguments number.toUInt32 scan.rewound.table.parameterNames.length values with
  | error failure => exact .pure _
  | ok bound =>
      dsimp only
      split
      · exact .pure _
      · apply (serves.generate _ _).bind
        intro result
        cases result with
        | error error => exact .pure _
        | ok stream => exact serves.next _

theorem connect (id : Nat) (module : String) (args : List String) :
    table.Logged (C.connect id module args) := by
  apply Logged.get_bind
  intro w
  cases (w.session id).modules.find? fun known => sameName known.name module with
  | none => exact .pure _
  | some known =>
      have accepted : table.Logged (known.connect C.define
          (return ((← get).status id).integerMode) args) := by
        apply (serves.define _ _).bind
        intro answer
        cases answer with
        | error error => exact .pure _
        | ok definition => exact .get_bind fun w => .pure _
      apply accepted.bind
      intro result
      cases result with
      | error failure => exact .pure _
      | ok connected =>
          dsimp only
          cases Callbacks.schemaDefect? E connected.schemaSql with
          | some detail => exact .pure _
          | none =>
              apply Logged.get_bind
              intro w
              exact Logged.updateSession_bind (fun _ => rfl) (.pure _)

omit serves in
theorem plan (id : Nat) (connected : ConnectedTable H.Generator) (constraints : List Constraint) :
    table.Logged (Callbacks.plan id connected constraints) := by
  unfold Callbacks.plan
  split
  · exact .pure _
  · exact Logged.updateStatus_bind (fun _ => rfl) (.pure _)
  · exact .pure _

theorem serve (id : Nat) (scans : Callbacks.Scans H) (demand : Demand) :
    table.Logged (C.serve id scans demand) := by
  cases demand with
  | connect module args => exact (serves.connect id module args).bind fun _ => .pure _
  | plan number constraints =>
      apply Logged.get_bind
      intro w
      cases (w.session id).tables[number]? with
      | none => exact .pure _
      | some connected => exact (plan id connected constraints).bind fun _ => .pure _
  | openScan number =>
      apply Logged.get_bind
      intro w
      cases (w.session id).tables[number]? with
      | none => exact .pure _
      | some connected => exact Logged.updateStatus_bind (fun _ => rfl) (.pure _)
  | start number index values =>
      dsimp only [Callbacks.serve]
      cases scans[number]? with
      | none => exact .pure _
      | some scan => exact (serves.start scan index values).bind fun _ => .pure _
  | next number =>
      dsimp only [Callbacks.serve]
      cases scans[number]? with
      | none => exact .pure _
      | some scan => exact (serves.next scan).bind fun _ => .pure _
  | isEnded number =>
      dsimp only [Callbacks.serve]
      cases scans[number]? <;> exact .pure _
  | column number position =>
      dsimp only [Callbacks.serve]
      cases scans[number]? <;> exact .pure _
  | rowid number =>
      dsimp only [Callbacks.serve]
      cases scans[number]? <;> exact .pure _

/-- A program that keeps what is known has a log, if what its rows are offered to has one. -/
theorem drive {id : Nat} {offer : S → List SqlValue → Worldly H E (S ⊕ β)}
    (offers : ∀ state values, table.Logged (offer state values)) (state : S)
    (scans : Callbacks.Scans H) {program : Program E.Store α} {w : World H E}
    (keeps : program.Keeps table.known (table.known w.store)) :
    table.LoggedAt (C.drive id offer state scans program) w := by
  induction program generalizing state scans w with
  | finish result store =>
      have same : table.known store = table.known w.store := keeps
      exact (LoggedAt.updateStore same).bind (Logged.pure _ _)
  | ask demand store abandon resume ih =>
      obtain ⟨same, abandons, resumes⟩ := keeps
      unfold Callbacks.drive
      refine (LoggedAt.updateStore same).bind ((serves.serve id scans demand _).bind ?_)
      rcases (C.serve id scans demand _).1 with ⟨failure | reply, scans⟩
      · refine LoggedAt.bind (.updateStatus (Status.isOpen_deferFailure _ _)) ?_
        exact (LoggedAt.updateStore (abandons _)).bind (Logged.pure _ _)
      · exact .get_bind (ih reply _ state scans (resumes reply _))
  | row values store abandon resume ih =>
      obtain ⟨same, abandons, resumes⟩ := keeps
      unfold Callbacks.drive
      refine (LoggedAt.updateStore same).bind ((offers state values _).bind ?_)
      cases (offer state values _).1 with
      | inl state => exact .get_bind (ih _ state scans (resumes _))
      | inr exit => exact (LoggedAt.updateStore (abandons _)).bind (Logged.pure _ _)

omit serves in
theorem closeScans (id : Nat) (scans : Callbacks.Scans H) :
    table.Logged (Callbacks.closeScans id scans) := by
  induction scans with
  | nil => exact .pure _
  | cons scan rest closes => exact Logged.updateStatus_bind (fun _ => rfl) closes

theorem run {id : Nat} {offer : S → List SqlValue → Worldly H E (S ⊕ β)}
    (offers : ∀ state values, table.Logged (offer state values)) (state : S)
    {routine : Routine E.Store α} (keeps : routine.Keeps table.known) :
    table.Logged (C.run id offer state routine) := by
  intro w
  refine .get_bind ((serves.drive offers state [] (keeps w.store)).bind ?_)
  exact ((closeScans id _).bind fun _ => .pure _) _

theorem settle (id : Nat) {routine : Routine E.Store α} (keeps : routine.Keeps table.known) :
    table.Logged (C.settle id routine) := by
  refine (serves.run (fun _ _ => .pure _) () keeps).bind fun outcome => ?_
  cases outcome with
  | ended state result => exact .pure _
  | left impossible => cases impossible

theorem first (id : Nat) {routine : Routine E.Store α} (keeps : routine.Keeps table.known) :
    table.Logged (C.first id routine) := by
  refine (serves.run (fun _ _ => .pure _) () keeps).bind fun outcome => ?_
  rcases outcome with ⟨_, _ | _⟩ | _ <;> exact .pure _

theorem collect (id : Nat) (read : List SqlValue → Except EngineFault β)
    {routine : Routine E.Store α} (keeps : routine.Keeps table.known) :
    table.Logged (C.collect id read routine) := by
  refine (serves.run (fun rows values => ?_) [] keeps).bind fun outcome => ?_
  · cases read values <;> exact .pure _
  · rcases outcome with ⟨_, _ | _⟩ | _ <;> exact .pure _

/-! ### Statements -/

omit serves in
theorem listing_keep (text : String) (info : StatementInfo) (s : Session H) :
    (Session.keep text info s).listing = s.listing := by
  unfold Session.keep
  split <;> rfl

theorem hold (id : Nat) (text : String) : table.Logged (C.hold id text) := by
  apply Logged.get_bind
  intro w
  cases (w.session id).kept? text with
  | some info => exact Logged.updateSession_bind (fun _ => rfl) (.pure _)
  | none =>
      refine (serves.settle id (table.statementsKeep.prepare id text)).bind fun result => ?_
      cases result <;> exact .pure _

omit serves in
theorem refresh (id : Nat) (info : StatementInfo) :
    table.Logged (H := H) (Callbacks.refresh id info) := by
  apply Logged.get_bind
  intro w
  split
  · exact Logged.bind (fun w => .updateStore (table.refresh id w.store)) fun _ => .pure _
  · exact .pure _

theorem renew (id : Nat) (text : String) (held : HeldStatement E) :
    table.Logged (C.renew id text held) := by
  refine (refresh id held.info).bind fun isOutdated => ?_
  split
  · exact .pure _
  · exact (serves.settle id (table.statementsKeep.prepare id text)).bind fun _ => .pure _

theorem renewed (id : Nat) (text : String) (statement : E.Statement) :
    table.Logged (Session.batch.renewed C id text statement) := by
  refine (refresh id (E.info statement)).bind fun isOutdated => ?_
  split
  · exact (serves.settle id (table.compile id text)).bind fun _ => .pure _
  · exact .pure _

theorem batch (id fuel : Nat) (text : String) : table.Logged (Session.batch C id fuel text) := by
  induction fuel generalizing text with
  | zero => exact .pure _
  | succ fuel ih =>
      unfold Session.batch
      split
      · exact .pure _
      · refine (serves.settle id (table.compile id text)).bind fun compiled => ?_
        rcases compiled with fault | ⟨statement, rest⟩
        · exact .pure _
        · dsimp only
          split
          · exact ih rest
          · refine (serves.renewed id text statement).bind fun renewed => ?_
            cases renewed with
            | error fault => exact .pure _
            | ok statement =>
                refine (serves.first id (table.execute id statement [])).bind fun result => ?_
                cases result with
                | error fault => exact .pure _
                | ok row => exact ih rest

theorem withEngine (s : RowSource.Statement) (values : List SqlValue)
    {use : List String → E.Statement → List SqlValue → Worldly H E (Except EngineFault α)}
    (uses : ∀ columns statement values, table.Logged (use columns statement values)) :
    table.Logged (s.withEngine C values use) := by
  have stepped (held : HeldStatement E) :
      table.Logged (RowSource.Statement.withEngine.stepped C s values use held) := by
    unfold RowSource.Statement.withEngine.stepped
    split
    · exact .pure _
    · refine (serves.renew s.session s.text held).bind fun renewed => ?_
      cases renewed with
      | error fault => exact .pure _
      | ok statement => exact (uses _ _ _).bind fun _ => .pure _
  refine (serves.hold s.session s.text).bind fun held => ?_
  cases held with
  | error fault => exact .pure _
  | ok held =>
      refine (stepped held).bind fun (info, result) => ?_
      exact Logged.updateSession_bind (listing_keep s.text info) (.pure _)

/-! ### Iterations -/

omit serves in
theorem beginStep (id : Nat) :
    table.Logged (RowSource.Statement.beginStep id : Worldly H E (Except Failure Unit)) := by
  apply Logged.get_bind
  intro w
  cases (w.status id).requireOpen with
  | error failure => exact .pure _
  | ok opened =>
      intro w
      apply LoggedAt.get_bind
      cases begun : (w.status id).markBusy with
      | error failure => exact Logged.pure _ w
      | ok status =>
          exact .bind (.updateStatus (Status.isOpen_of_markBusy begun)) (Logged.pure _ _)

omit serves in
theorem endSteps (id : Nat) (result : Except EngineFault Unit) :
    table.Logged (H := H) (RowSource.Statement.endSteps id result) :=
  (Logged.explaining id (.pure result)).bind fun _ =>
    Logged.updateStatus_bind (fun _ => rfl) (.pure _)

section Rows

variable {s : RowSource.Statement} {body : Row → Action H E Bool}
  (bodies : ∀ row, table.Logged (body row).run)
include bodies

omit serves in
theorem handOver (columns : List String) (values : List SqlValue) :
    table.Logged (s.handOver columns body values) := by
  refine (Logged.explaining s.session (.pure _)).bind fun row =>
    Logged.updateStatus_bind (fun _ => rfl) ?_
  cases row with
  | error failure => exact .pure _
  | ok row =>
      refine (bodies row).bind fun answer => ?_
      rcases answer with failure | _ | _
      · exact .pure _
      · exact .pure _
      · refine (beginStep s.session).bind fun begun => ?_
        cases begun <;> exact .pure _

theorem steps (held : HeldStatement E) (values : List SqlValue) :
    table.Logged (s.steps C held values body) := by
  refine (beginStep s.session).bind fun begun => ?_
  cases begun with
  | error failure => exact .pure _
  | ok opened =>
      refine (serves.renew s.session s.text held).bind fun renewed => ?_
      cases renewed with
      | error fault => exact (endSteps s.session _).bind fun _ => .pure _
      | ok statement =>
          have keeps := table.execute s.session statement values
          refine (serves.run (fun _ values => handOver bodies _ values) () keeps).bind
            fun outcome => ?_
          cases outcome with
          | left exit => exact .pure _
          | ended state result => exact (endSteps s.session result).bind fun _ => .pure _

theorem boundSteps (held : HeldStatement E) (values : List SqlValue) :
    table.Logged (s.boundSteps C held values body) := by
  have bound : table.Logged (Session.withBusy s.session
      (Session.explaining s.session (return held.info.bind values)) :
        Action H E (List SqlValue)).run := .withBusy _ (.explaining _ (.pure _))
  refine bound.bind fun bound => ?_
  cases bound with
  | error failure => exact .pure _
  | ok values => exact serves.steps bodies held values

end Rows

end Serves

/-! ### Operations -/

variable (serves : table.Serves C)
include serves

/-- An iteration that hands its rows to closures that have logs. -/
def Hands (table : E.ModuleTable τ) : Execution H E → Prop
  | .read _ _ (.iterate body) => ∀ row, table.Logged (body row).run
  | _ => True

theorem Serves.engaged (call : Execution H E) (hands : table.Hands call) (values : List SqlValue) :
    table.Logged (call.engaged C values).run := by
  cases call with
  | exec id sql => exact .withBusy id (.withConnection id (serves.batch id _ sql))
  | run s params =>
      refine .withBusy _ (.withConnection _ (serves.withEngine s values ?_))
      intro columns statement values
      refine (serves.first s.session (table.execute _ statement values)).bind fun row => ?_
      rcases row with fault | _ | row
      · exact .pure _
      · exact .look _
      · exact .pure _
  | read s params fetch =>
      cases fetch with
      | first =>
          refine .withBusy _ (.withConnection _ (serves.withEngine s values ?_))
          intro columns statement values
          refine (serves.first s.session (table.execute _ statement values)).bind fun row => ?_
          rcases row with fault | _ | row <;> exact .pure _
      | all =>
          refine .withBusy _ (.withConnection _ (serves.withEngine s values ?_))
          intro columns statement values
          exact serves.collect s.session _ (table.execute _ statement values)
      | iterate body =>
          refine .withIteration _ (.borrowing _ ?_)
          refine .action_bind (.withBusy _ (.explaining _ (serves.hold s.session s.text)))
            fun held => ?_
          refine (serves.boundSteps hands held values).bind fun (info, result) => ?_
          exact Logged.updateSession_bind (Serves.listing_keep s.text info) (.pure _)

theorem Serves.perform (call : Execution H E) (hands : table.Hands call) :
    table.Logged (call.perform C).run := by
  have checked : call.perform C = (do
      let w ← get
      let values ← ExceptT.mk (pure (call.admitted (w.status call.session)))
      call.engaged C values) := by
    funext w
    have follows : (call.perform C).run w = _ := call.perform_follows C w
    refine follows.trans (Eq.trans ?_ (Action.get_bind_run _ w).symm)
    cases call.admitted (w.status call.session) <;> rfl
  rw [checked]
  exact .action_get_bind fun w => .action_bind (.pure _) (serves.engaged call hands)

theorem Serves.prepare (id : Nat) (sql : String) :
    table.Logged (Session.prepare C id sql).run := by
  apply Logged.action_bind (.require id Status.requireOpen)
  intro _
  apply Logged.action_bind (.require id Status.requireNotBusy)
  intro _
  dsimp only
  split
  · exact .pure _
  · refine .withBusy id (.action_bind (.withConnection id (serves.hold id _)) fun held => ?_)
    refine .action_updateSession_bind (Serves.listing_keep _ held.info) ?_
    exact .action_get_bind fun w => .pure _

omit serves in
theorem registerTable (id : Nat) (name : String) (factory : H.Factory) (eponymous : Bool) :
    table.Logged (Session.registerTable (E := E) id name factory eponymous).run :=
  fun w => ⟨_, .call id name factory eponymous w, .call ⟨id, name, factory, eponymous, w⟩⟩

/-- What host code may do has a log, if the callbacks inside have one. -/
theorem Serves.hosted {action : Worldly H E α} (hosted : HostAction C action) :
    table.Logged action := by
  induction hosted with
  | pure value => exact .pure value
  | bind _ _ first second => exact first.bind second
  | look f => exact .look _
  | remember f => exact .of_accounts fun w => .of_same rfl rfl
  | openSession path options => exact .openSession path options
  | close id => exact .close id
  | drop id => exact .drop id
  | closeAll => exact .closeAll
  | inTransaction id => exact .inTransaction id
  | setIntegerMode id mode => exact .action_updateStatus id fun _ => rfl
  | setUnsafeMode id enabled => exact .setUnsafeMode id enabled
  | exec id sql => exact serves.perform (.exec id sql) trivial
  | prepare id sql => exact serves.prepare id sql
  | registerTable id name factory eponymous => exact registerTable id name factory eponymous
  | run s params => exact serves.perform (.run s params) trivial
  | first s params => exact serves.perform (.read s params .first) trivial
  | all s params => exact serves.perform (.read s params .all) trivial
  | iterate s params _ bodies => exact serves.perform (.read s params (.iterate _)) bodies

omit serves in
/-- The callbacks of an admissible host have logs, however deep they are nested. -/
theorem serves_callbacks {host : HostCode H E} (admissible : host.Admissible) (depth : Nat) :
    table.Serves (host.callbacks depth) := by
  induction depth with
  | zero => exact ⟨fun _ _ => .pure _, fun _ _ => .pure _, fun _ => .pure _⟩
  | succ depth inner =>
      have made := admissible (host.callbacks depth)
      exact ⟨fun factory args => inner.hosted (made.define factory args),
        fun generator args => inner.hosted (made.generate generator args),
        fun stream => inner.hosted (made.advance stream)⟩

end Engine.ModuleTable

end RowSource
