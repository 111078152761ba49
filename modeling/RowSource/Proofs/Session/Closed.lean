import RowSource.Proofs.Session.Precedence
import RowSource.Proofs.Session.Reentry

/-!
# Closed sessions

A session that is closed stays closed, and refuses whatever is asked of it. Whether it is busy, is
iterated over or still has its connection makes no difference.
-/

namespace RowSource

variable {H : Host} {E : Engine} {α : Type}

namespace Operation

variable {operation : Operation H E} {s : Session H}

theorem admitted_of_closed (fits : operation.Fits) (closed : s.status.isOpen = false) :
    operation.admitted s = .error (.refused .notOpen) := by
  obtain ⟨rest, checked⟩ := admitted_of_fits (s := s) fits
  rw [checked]
  unfold Status.requireOpen
  rw [closed]
  rfl

theorem admitted_of_unfit (unfit : ¬operation.Fits) :
    ∃ detail, operation.admitted s = .error (.invalidArgument detail) := by
  cases operation with
  | prepare id sql => exact absurd trivial unfit
  | registerTable id name factory eponymous => exact absurd trivial unfit
  | execute call =>
      rcases call with ⟨id, sql⟩ | ⟨statement, params⟩ | ⟨statement, params, fetch⟩
      · exact absurd trivial unfit
      · have reader : statement.reader = true := Bool.of_not_eq_false unfit
        refine ⟨"This statement returns data. Use get(), all(), or iterate() instead", ?_⟩
        change statement.runnable params s.status = _
        unfold Statement.runnable
        rw [reader]
        rfl
      · have runner : statement.reader = false := Bool.of_not_eq_true unfit
        refine ⟨"This statement does not return data. Use run() instead", ?_⟩
        change statement.readable params s.status = _
        unfold Statement.readable
        rw [runner]
        rfl

end Operation

namespace Session

variable {id : Nat} {w : World H E} (closed : (w.status id).isOpen = false)
include closed

theorem close_of_closed : (close id).run w = (.ok (), w) := by
  rw [close_run, closed]
  rfl

theorem setUnsafeMode_of_closed (enabled : Bool) :
    (setUnsafeMode id enabled).run w = (.error (.refused .notOpen), w) := by
  have refused : (require id Status.requireOpen : Action H E Unit).run w =
      (.error (.refused .notOpen), w) := by
    rw [require_run]
    unfold Status.requireOpen
    rw [closed]
    rfl
  exact Action.bind_of_error refused

theorem prepare_of_closed (C : Callbacks H E) (sql : String) :
    (prepare C id sql).run w = (.error (.refused .notOpen), w) := by
  let preparing : Operation H E := .prepare id sql
  have refused : preparing.admitted (w.session preparing.session) = _ :=
    Operation.admitted_of_closed trivial closed
  exact Operation.perform_of_refused (C := C) refused

theorem query_of_closed (C : Callbacks H E) (sql : String) (params : List HostValue) :
    (query C id sql params).run w = (.error (.refused .notOpen), w) :=
  Action.bind_of_error (prepare_of_closed closed C sql)

end Session

namespace HostCode.Admissible

variable {host : HostCode H E} (admissible : host.Admissible)
include admissible

/-- A session that is closed is never open again. From then on every operation on it is refused, as
not open or because its statement does not fit: that calls no host code and changes nothing. Closing
it does nothing either. An iteration whose closure asks for more then has no further turn, and is
refused as not open. -/
theorem closed_for_good {w v : World H E} {id : Nat} (present : id < w.sessions.length)
    (closed : (w.status id).isOpen = false) (precedes : host.Precedes w v) :
    (v.status id).isOpen = false ∧
    (∀ (C : Callbacks H E) (operation : Operation H E), operation.session = id →
      ((operation.thrown C).run v).events = [] ∧
      (operation.Fits → (operation.perform C).run v = (.error (.refused .notOpen), v)) ∧
      (¬operation.Fits → ∃ detail,
        (operation.perform C).run v = (.error (.invalidArgument detail), v))) ∧
    (∀ (C : Callbacks H E) (sql : String) (params : List HostValue),
      (Session.query C id sql params).run v = (.error (.refused .notOpen), v)) ∧
    (∀ enabled, (Session.setUnsafeMode id enabled).run v = (.error (.refused .notOpen), v)) ∧
    (Session.close id).run v = (.ok (), v) ∧
    ∀ (C : Callbacks H E) (s : Statement) (params : List HostValue) (body : Row → Action H E Bool)
      (u : World H E) (before after : List (Turn H E)) (turn : Turn H E) (row : Row),
      s.session = id → s.turns C body params u = before ++ turn :: after →
      turn.answer = some (row, .ok true) → host.Precedes w turn.left →
        after = [] ∧ ((s.iterate C params body).run u).1 = .error (.refused .notOpen) := by
  have stays {u : World H E} (later : host.Precedes w u) : (u.status id).isOpen = false :=
    (admissible.leads lawless E.keeps_nothing later).stays_closed present closed
  have closed := stays precedes
  refine ⟨closed, ?_, Session.query_of_closed closed, Session.setUnsafeMode_of_closed closed,
    Session.close_of_closed closed, ?_⟩
  · rintro C operation rfl
    by_cases fits : operation.Fits
    · have refused := Operation.admitted_of_closed fits closed
      rw [Operation.thrown_of_refused refused, Operation.perform_of_refused refused]
      exact ⟨rfl, fun _ => rfl, fun unfit => absurd fits unfit⟩
    · obtain ⟨detail, refused⟩ :=
        Operation.admitted_of_unfit (s := v.session operation.session) fits
      rw [Operation.thrown_of_refused refused, Operation.perform_of_refused refused]
      exact ⟨rfl, fun fitting => absurd fitting fits, fun _ => ⟨detail, rfl⟩⟩
  · rintro C s params body u before after turn row rfl turned more left
    exact Statement.iterate_last turned more (stays left)

end HostCode.Admissible

/-! ### All sessions are closed inside an iteration -/

namespace Porter

/-- The closure of an iteration closes all sessions and asks for more. -/
theorem closed_for_good_visit :
    let ended := ((reading "SELECT 1").iterate (code.callbacks 1) [] visit).run registered
    ended.1 = .error (.refused .notOpen) ∧
      (Session.exec (code.callbacks 1) 0 "SELECT 1").run ended.2 =
        (.error (.refused .notOpen), ended.2) := by
  intro ended
  have visited : ((reading "SELECT 1").turns (code.callbacks 1) visit [] registered).map
      (fun turn => (turn.answer, decide (0 < turn.left.sessions.length),
        (turn.left.status 0).isOpen)) =
      [(some (⟨["a"], [(SqlValue.integer 1).toHost .loose]⟩, .ok true), true, false)] := by
    decide +kernel
  obtain ⟨turn, turned, visited⟩ := List.map_eq_singleton_iff.mp visited
  obtain ⟨more, visited⟩ := Prod.mk.inj visited
  obtain ⟨present, closed⟩ := Prod.mk.inj visited
  have finish : code.Precedes turn.left ended.2 :=
    .finish hosted_visit (turned ▸ List.mem_singleton_self turn)
  obtain ⟨_, refuses, _, _, _, last⟩ :=
    admissible.closed_for_good (of_decide_eq_true present) closed finish
  obtain ⟨_, refused⟩ := last (code.callbacks 1) (reading "SELECT 1") [] visit registered [] [] turn
    _ rfl turned more (.refl turn.left)
  obtain ⟨_, fitting, _⟩ := refuses (code.callbacks 1) (.execute (.exec 0 "SELECT 1")) rfl
  exact ⟨refused, fitting trivial⟩

end Porter

end RowSource
