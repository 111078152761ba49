import RowSource.Proofs.Session.Moments
import RowSource.Proofs.Session.Turns.Order

/-!
# Precedence

The moments of a host come one after another. What host code does leads from one to the next, and
inside an operation come the demands that it makes, the rows that it hands over, and its end. When host
code is done with a demand or a row, the operation goes on from the world that it has left.
-/

namespace RowSource

variable {H : Host} {E : Engine} {τ : Type}

inductive HostCode.Precedes (host : HostCode H E) : World H E → World H E → Prop where
  | refl (w : World H E) : host.Precedes w w
  | trans {w v u : World H E} : host.Precedes w v → host.Precedes v u → host.Precedes w u
  | act {depth : Nat} {α : Type} {action : Worldly H E α} (w : World H E) :
      HostAction (host.callbacks depth) action → host.Precedes w (action w).2
  /-- An operation comes to a demand or a row. -/
  | enter {depth : Nat} {operation : Operation H E} {w : World H E} {event : Event H E} :
      operation.Made (host.callbacks depth) →
      event ∈ ((operation.thrown (host.callbacks depth)).run w).events →
      host.Precedes w event.world
  /-- A demand has been served, and another demand or a row comes. -/
  | resume {depth : Nat} {operation : Operation H E} {w : World H E} {event next : Event H E}
      {before after : List (Event H E)} :
      operation.Made (host.callbacks depth) →
      ((operation.thrown (host.callbacks depth)).run w).events = before ++ event :: after →
      next ∈ after → host.Precedes (event.left (host.callbacks depth)) next.world
  /-- A factory has answered, and its demand has been served. -/
  | define {depth : Nat} {operation : Operation H E} {w v : World H E} {id : Nat}
      {scans : Callbacks.Scans H} {module : String} {args : List String}
      {known : TableModule H.Factory} :
      operation.Made (host.callbacks depth) →
      .asked id scans (.connect module args) v ∈
        ((operation.thrown (host.callbacks depth)).run w).events →
      (v.session id).modules.find? (fun known => sameName known.name module) = some known →
      host.Precedes ((host.callbacks depth).define known.factory args v).2
        (Event.left (host.callbacks depth) (.asked id scans (.connect module args) v))
  | leave {depth : Nat} {operation : Operation H E} {w : World H E} {event : Event H E} :
      operation.Made (host.callbacks depth) →
      event ∈ ((operation.thrown (host.callbacks depth)).run w).events →
      host.Precedes (event.left (host.callbacks depth))
        ((operation.perform (host.callbacks depth)).run w).2
  /-- Host code is done with a row, or with a demand of an iteration, and has another turn. -/
  | turn {depth : Nat} {s : Statement} {params : List HostValue} {body : Row → Action H E Bool}
      {w : World H E} {turn next : Turn H E} {before after : List (Turn H E)} :
      (∀ row, HostAction (host.callbacks depth) (body row).run) →
      s.turns (host.callbacks depth) body params w = before ++ turn :: after →
      next ∈ after → host.Precedes turn.left next.entered
  | finish {depth : Nat} {s : Statement} {params : List HostValue} {body : Row → Action H E Bool}
      {w : World H E} {turn : Turn H E} :
      (∀ row, HostAction (host.callbacks depth) (body row).run) →
      turn ∈ s.turns (host.callbacks depth) body params w →
      host.Precedes turn.left ((s.iterate (host.callbacks depth) params body).run w).2

theorem pairwise_after {α : Type} {relation : α → α → Prop} {all before after : List α}
    {first next : α} (ordered : all.Pairwise relation) (split : all = before ++ first :: after)
    (member : next ∈ after) : relation first next := by
  rw [split] at ordered
  exact List.rel_of_pairwise_cons (List.pairwise_append.mp ordered).2.1 member

namespace Evolution

variable {view : E.Store → τ} {later : World H E → World H E → Prop}
  (evolution : Evolution view later)
include evolution

/-- Nothing but the new table comes between the answer of a factory and the end of its demand. -/
theorem later_connect (C : Callbacks H E) {id : Nat} {module : String} {args : List String}
    {w : World H E} {known : TableModule H.Factory}
    (found : (w.session id).modules.find? (fun known => sameName known.name module) = some known) :
    later (C.define known.factory args w).2 (C.connect id module args w).2 := by
  rcases defined : C.define known.factory args w with ⟨error | definition, v⟩
  · rw [Callbacks.connect_of_refused found defined]
    exact evolution.refl v
  · rcases Nat.lt_or_ge maxParameters definition.parameterNames.length with wide | narrow
    · rw [Callbacks.connect_of_tooWide found defined wide]
      exact evolution.refl v
    · cases declared : Callbacks.schemaDefect? E definition.schemaSql with
      | some detail =>
          rw [Callbacks.connect_of_defect found defined narrow declared]
          exact evolution.refl v
      | none =>
          obtain ⟨answer, table, connected⟩ :=
            Callbacks.connect_of_declared found defined narrow declared
          rw [connected]
          exact evolution.later_updateSession
            (f := fun s => { s with tables := s.tables ++ [table] }) (fun _ => rfl) id v

end Evolution

namespace HostCode.Admissible

variable {host : HostCode H E} (admissible : host.Admissible) {view : E.Store → τ}

section Evolution

variable {later : World H E → World H E → Prop} (evolution : Evolution view later)
  (engine : E.StatementsKeep view)
include admissible evolution engine

theorem later_of_precedes {w v : World H E} (precedes : host.Precedes w v) : later w v := by
  induction precedes with
  | refl w =>
      exact evolution.refl w
  | trans _ _ first second =>
      exact evolution.trans first second
  | act w hosted =>
      exact (admissible.steady_action evolution engine hosted w).1
  | enter made member =>
      obtain ⟨along, _⟩ := admissible.thrown_along evolution engine made _
      exact along.reached _ member
  | resume made split member =>
      obtain ⟨along, _⟩ := admissible.thrown_along evolution engine made _
      have after := pairwise_after along.ordered split member
      exact after
  | @define depth operation w v id scans module args known made member found =>
      exact evolution.later_connect (host.callbacks depth) found
  | @leave depth operation w event made member =>
      obtain ⟨along, _⟩ := admissible.thrown_along evolution engine made _
      have settled := operation.settles (admissible.calm depth) (made.calm (admissible.calm depth))
        w trivial
      rw [settled.same]
      exact along.left _ member
  | @turn depth s params body w turn next before after hosted split member =>
      have steady (row : Row) := admissible.steady_action evolution engine (hosted row)
      have turns := Statement.iterate_turns (s := s) evolution steady
        (admissible.steady evolution engine depth) engine params w
      have after := pairwise_after turns.2 split member
      exact after
  | @finish depth s params body w turn hosted member =>
      have steady (row : Row) := admissible.steady_action evolution engine (hosted row)
      have turns := Statement.iterate_turns (s := s) evolution steady
        (admissible.steady evolution engine depth) engine params w
      exact turns.1 turn member

end Evolution

include admissible in
theorem leads {law : World H E → Prop} (obeys : Law view law) (engine : E.Keeps view)
    {w v : World H E} (precedes : host.Precedes w v) : w.Leads law v :=
  admissible.later_of_precedes (World.Leads.evolution obeys engine) engine.toStatementsKeep precedes

end HostCode.Admissible

end RowSource
