import RowSource.Proofs.Session.CallbackFailure
import RowSource.Proofs.Session.Course
import RowSource.Proofs.Session.Scene.Operations

/-!
# Marks are given back

Whatever host code does, and however deep the operations are nested in which it does so, all marks
are in the end as they were. An operation gives back what it takes if its callbacks and closures do,
and these are made of operations that are nested less deep.
-/

namespace RowSource

variable {H : Host} {E : Engine} {C : Callbacks H E} {α τ : Type}

namespace Evolution

variable {view : E.Store → τ} {later : World H E → World H E → Prop}
  (evolution : Evolution view later)
include evolution

theorem steady_openSession (path : String) (options : Options) :
    Steady later (Session.openSession (H := H) (E := E) path options).run := by
  intro w
  refine ⟨evolution.openSession path options w, ?_⟩
  rw [Session.openSession_run]
  cases E.openDatabase w.sessions.length path options w.store with
  | error fault => rfl
  | ok store => exact w.marks_opened path options store

theorem steady_close (id : Nat) : Steady later (Session.close (H := H) (E := E) id).run := by
  intro w
  refine ⟨evolution.close id w, ?_⟩
  rw [Session.close_run]
  split
  · split
    · exact (w.abandoned_abandon [id]).marks
    · rfl
  · rfl

theorem steady_drop (id : Nat) : Steady later (Session.drop (H := H) (E := E) id).run := by
  intro w
  refine ⟨evolution.drop id w, ?_⟩
  rw [Session.drop_run]
  exact (w.abandoned_abandon [id]).marks

theorem steady_closeAll : Steady later (Session.closeAll (H := H) (E := E)).run := by
  intro w
  refine ⟨evolution.closeAll w, ?_⟩
  rw [Session.closeAll_run]
  exact (w.abandoned_abandon w.registry).marks

variable (calm : C.Calm) (steady : C.Steady later) (engine : E.StatementsKeep view)
include calm steady engine

theorem steady_perform (operation : Operation H E) (bodyCalm : operation.Calm)
    (hosted : operation.Steady later) : Steady later (operation.perform C).run := by
  intro w
  obtain ⟨along, marks, _⟩ :=
    operation.thrown_along evolution steady engine hosted w
  rw [(operation.settles calm bodyCalm w trivial).same]
  exact ⟨along.since, marks⟩

/-- What host code may do leads to a later world and gives back all marks, if the callbacks inside
do so. -/
theorem steady_hosted {action : Worldly H E α} (hosted : HostAction C action) :
    Steady later action := by
  have performed (operation : Operation H E) (bodyCalm : operation.Calm)
      (bodySteady : operation.Steady later) : Steady later (operation.perform C).run :=
    evolution.steady_perform calm steady engine operation bodyCalm bodySteady
  induction hosted with
  | pure value => exact evolution.pure value
  | bind _ _ first second => exact evolution.bind first second
  | look f => exact fun w => ⟨evolution.refl w, rfl⟩
  | remember f => exact fun w => ⟨evolution.unmoved ⟨rfl, rfl, rfl⟩, rfl⟩
  | openSession path options => exact evolution.steady_openSession path options
  | close id => exact evolution.steady_close id
  | drop id => exact evolution.steady_drop id
  | closeAll => exact evolution.steady_closeAll
  | inTransaction id => exact evolution.inTransaction id
  | setIntegerMode id mode => exact evolution.updateStatus id fun _ => ⟨rfl, rfl⟩
  | setUnsafeMode id enabled => exact evolution.setUnsafeMode id enabled
  | exec id sql => exact performed (.execute (.exec id sql)) trivial trivial
  | prepare id sql => exact performed (.prepare id sql) trivial trivial
  | registerTable id name factory eponymous =>
      exact performed (.registerTable id name factory eponymous) trivial trivial
  | run s params => exact performed (.execute (.run s params)) trivial trivial
  | first s params => exact performed (.execute (.read s params .first)) trivial trivial
  | all s params => exact performed (.execute (.read s params .all)) trivial trivial
  | iterate s params hosted bodySteady =>
      exact performed (.execute (.read s params (.iterate _)))
        (fun row => (hosted row).calm calm) bodySteady

end Evolution

namespace HostCode.Admissible

variable {host : HostCode H E} (admissible : host.Admissible) {view : E.Store → τ}
  {later : World H E → World H E → Prop} (evolution : Evolution view later)
  (engine : E.StatementsKeep view)
include admissible evolution engine

/-- The callbacks of an admissible host give back all marks, however deep they are nested. -/
theorem steady (depth : Nat) : (host.callbacks depth).Steady later := by
  induction depth with
  | zero =>
      exact evolution.refused_steady
  | succ depth inner =>
      have made := admissible (host.callbacks depth)
      have calm := admissible.calm depth
      exact ⟨fun factory args =>
          evolution.steady_hosted calm inner engine (made.define factory args),
        fun generator args =>
          evolution.steady_hosted calm inner engine (made.generate generator args),
        fun stream => evolution.steady_hosted calm inner engine (made.advance stream)⟩

theorem steady_action {depth : Nat} {action : Worldly H E α}
    (hosted : HostAction (host.callbacks depth) action) : Steady later action :=
  evolution.steady_hosted (admissible.calm depth) (admissible.steady evolution engine depth)
    engine hosted

end HostCode.Admissible

/-- In every world and at every depth, every operation and every run of operations leaves each
session as busy as it was and with as many iterators. -/
theorem HostCode.Admissible.marks_restored {host : HostCode H E} (admissible : host.Admissible)
    {depth : Nat} {action : Worldly H E α} (hosted : HostAction (host.callbacks depth) action)
    (w : World H E) (id : Nat) :
    ((action w).2.status id).isBusy = (w.status id).isBusy ∧
      ((action w).2.status id).iterators = (w.status id).iterators := by
  have evolution : Evolution (fun _ => ()) (World.Leads fun _ : World H E => True) :=
    World.Leads.evolution lawless E.keeps_nothing
  obtain ⟨_, same⟩ := admissible.steady_action evolution E.keeps_nothing.toStatementsKeep hosted w
  have mark : (action w).2.marks id = w.marks id := congrFun same id
  exact ⟨congrArg Mark.isBusy mark, congrArg Mark.iterators mark⟩

/-! ### A host that calls back whatever it is called for -/

namespace Porter

/-- An engine that writes down which connections it has released. It has a statement that asks for a
table, and others that have a single row. -/
def engine : Engine where
  Store := List Nat
  Statement := String
  empty := []
  openDatabase _ _ _ store := .ok store
  release id store := id :: store
  inTransaction _ _ := false
  createModule _ _ _ store := .ok store
  schemaDefect? _ := none
  compile _ text := return (text, "")
  info _ := { isEmpty := false, columns := ["a"], readonly := true, parameters := 0 }
  isOutdated _ _ := false
  refresh _ store := store
  execute _ text _ store :=
    if text = "SELECT a FROM m" then
      .ask (.connect "m" []) store id fun _ store => .finish (.ok ()) store
    else
      .row [.integer 1] store id fun store => .finish (.ok ()) store
  changes _ _ := 0
  lastRowid _ _ := 0

/-- Host code remembers how its calls have failed. -/
abbrev host : Host where
  Memory := List (Option Failure)
  Factory := Unit
  Generator := Empty
  Stream := Empty

def failure? {α : Type} : Except Failure α → Option Failure
  | .ok _ => none
  | .error failure => some failure

def remember {α : Type} (action : Action host engine α) : Worldly host engine Unit := do
  let result ← action.run
  modify fun w => { w with memory := w.memory ++ [failure? result] }

/-- The factory executes a batch on the session that has asked for its table. -/
def code : HostCode host engine where
  above C :=
    { define := fun _ _ => do
        remember (Session.exec C 0 "SELECT 1")
        return .error (.message "no table today")
      generation :=
        { generate := fun generator _ => nomatch generator
          advance := fun stream => nomatch stream } }

theorem hosted_remember {C : Callbacks host engine} {α : Type} {action : Action host engine α}
    (hosted : HostAction C action.run) : HostAction C (remember action) :=
  .bind hosted fun result => .remember (· ++ [failure? result])

theorem admissible : code.Admissible := fun _ =>
  { define := fun _ _ => .bind (hosted_remember (.exec _ _)) fun _ => .pure _
    generate := fun generator _ => nomatch generator
    advance := fun stream => nomatch stream }

def beginning : World host engine :=
  { sessions := [{ path := ":memory:", readonly := false, status := {}, modules := [⟨"m", ()⟩] }]
    registry := [0]
    memory := [] }

def reading (sql : String) : Statement :=
  { session := 0, sql := sql, reader := true, readonly := true, integerMode := .loose }

/-- Closes the session of the iteration, reads the table on it, closes all sessions, and asks for
more. -/
def visit (_ : Row) : Action host engine Bool :=
  ExceptT.mk do
    remember (Session.close 0)
    remember ((reading "SELECT a FROM m").all (code.callbacks 1) [])
    remember Session.closeAll
    return .ok true

theorem hosted_visit (row : Row) : HostAction (code.callbacks 1) (visit row).run :=
  .bind (hosted_remember (.close 0)) fun _ => .bind (hosted_remember (.all _ _)) fun _ =>
    .bind (hosted_remember .closeAll) fun _ => .pure _

/-- Inside an iteration a close is refused, a read fails with a batch refused inside it, and all
sessions are closed. No mark is left of any of that. -/
theorem marks_restored_visit :
    let around := ((reading "SELECT 1").iterate (code.callbacks 1) [] visit).run beginning
    around.2.memory = [some (.refused (.iteratorsActive 1)), some (.refused .busy),
        some (.host (.message "no table today")), none] ∧
      (around.2.status 0).isBusy = (beginning.status 0).isBusy ∧
      (around.2.status 0).iterators = (beginning.status 0).iterators := by
  intro around
  have happened : around.2.memory = [some (.refused (.iteratorsActive 1)), some (.refused .busy),
      some (.host (.message "no table today")), none] := by
    decide +kernel
  exact ⟨happened, admissible.marks_restored (.iterate _ _ hosted_visit) beginning 0⟩

end Porter

end RowSource
