import RowSource.Proofs.Session.Checks

/-!
# Writing while iterators are live

Outside unsafe mode nothing is to be written while an iterator is live. Batches and runs look at the
iterators before they reach the engine. The ways of reading a statement do not, although a statement
that returns rows may write them first. This module says which calls are turned away, and that the
others go to the engine as if no iterator were live.
-/

namespace RowSource

variable {H : Host} {E : Engine}

/-- Outside unsafe mode, with an iterator live. -/
structure Status.Shielded (status : Status) : Prop where
  safe : status.unsafeMode = false
  live : 0 < status.iterators

theorem Status.Shielded.refused {status : Status} (shielded : status.Shielded) :
    status.requireNoIteratorsUnlessUnsafe =
      .error (.refused (.iteratorsActive status.iterators)) := by
  have live : status.iterators ≠ 0 := Nat.pos_iff_ne_zero.mp shielded.live
  simp [requireNoIteratorsUnlessUnsafe, requireNoIterators, shielded.safe, live]

theorem Status.refused_of_last (status : Status) {α : Type} {last : Except Failure α}
    {failure : Failure} (refused : last = .error failure) :
    ∃ failure, (do status.requireOpen; status.requireNotBusy; last) = .error failure := by
  unfold Status.requireOpen Status.requireNotBusy
  cases status.isOpen with
  | false =>
      exact ⟨_, rfl⟩
  | true =>
      cases status.isBusy with
      | true =>
          exact ⟨_, rfl⟩
      | false =>
          exact ⟨failure, refused⟩

theorem Statement.runnable_refused {s : Statement} {status : Status} (shielded : status.Shielded)
    (writes : s.readonly = false) (params : List HostValue) :
    ∃ failure, s.runnable params status = .error failure := by
  unfold runnable
  cases s.reader with
  | true =>
      exact ⟨_, rfl⟩
  | false =>
      rw [writes]
      apply status.refused_of_last
      rw [if_neg Bool.false_ne_true, shielded.refused]
      rfl

/-- A read comes past its checks exactly when the statement is a reader, its session is open and not
busy, and the parameters have engine values. The iterators are not among the conditions. -/
theorem Statement.readable_eq_ok_iff (s : Statement) (params : List HostValue) (status : Status)
    (values : List SqlValue) :
    s.readable params status = .ok values ↔
      s.reader = true ∧ status.isOpen = true ∧ status.isBusy = false ∧
        engineValues 1 params = .ok values := by
  unfold readable Status.requireOpen Status.requireNotBusy
  cases s.reader with
  | false => simp
  | true =>
      cases status.isOpen with
      | false => simp [Bind.bind, Except.bind]
      | true =>
          cases status.isBusy with
          | true => simp [Bind.bind, Except.bind]
          | false => simp [Bind.bind, Except.bind]

namespace Execution

/-- Batches count as writing, and so do the statements that the engine did not report as leaving
the database as it is. -/
def Writes : Execution H E → Prop
  | .exec _ _ => True
  | .run s _ => s.readonly = false
  | .read s _ _ => s.readonly = false

/-- The calls that no look at the iterators stands before: a statement that returns rows is read in
a session that is open and not busy, with parameters that have engine values. -/
def Unguarded (status : Status) (values : List SqlValue) : Execution H E → Prop
  | .exec _ _ => False
  | .run _ _ => False
  | .read s params _ =>
      s.reader = true ∧ status.isOpen = true ∧ status.isBusy = false ∧
        Statement.engineValues 1 params = .ok values

/-- In a shielded status the checks let a writing call come exactly when it is unguarded. -/
theorem admitted_eq_ok_iff {status : Status} (shielded : status.Shielded)
    {call : Execution H E} (writes : call.Writes) (values : List SqlValue) :
    call.admitted status = .ok values ↔ call.Unguarded status values := by
  cases call with
  | exec id sql =>
      have last : (do status.requireNoIteratorsUnlessUnsafe; return [] :
          Except Failure (List SqlValue)) =
            .error (.refused (.iteratorsActive status.iterators)) := by
        rw [shielded.refused]
        rfl
      obtain ⟨failure, refused⟩ := status.refused_of_last last
      constructor
      · intro admitted
        exact absurd (admitted.symm.trans refused) (by simp)
      · intro unguarded
        exact unguarded.elim
  | run s params =>
      obtain ⟨failure, refused⟩ := Statement.runnable_refused shielded writes params
      constructor
      · intro admitted
        exact absurd (admitted.symm.trans refused) (by simp)
      · intro unguarded
        exact unguarded.elim
  | read s params fetch =>
      exact s.readable_eq_ok_iff params status values

/-- Outside unsafe mode and under a live iterator, a call that writes is refused with nothing
changed, unless it is unguarded. An unguarded call is the engine's part and nothing else. -/
theorem refused_unless_unguarded (C : Callbacks H E) (call : Execution H E) (w : World H E)
    (shielded : (w.status call.session).Shielded) (writes : call.Writes) :
    ((∀ values, ¬ call.Unguarded (w.status call.session) values) →
        ∃ failure, (call.perform C).run w = (.error failure, w)) ∧
      ∀ values, call.Unguarded (w.status call.session) values →
        (call.perform C).run w = (call.engaged C values).run w := by
  have performed : (call.perform C).run w = _ := call.perform_follows C w
  have admits := admitted_eq_ok_iff shielded writes
  constructor
  · intro stopped
    cases admitted : call.admitted (w.status call.session) with
    | error failure =>
        rw [admitted] at performed
        exact ⟨failure, performed⟩
    | ok values =>
        exact absurd ((admits values).mp admitted) (stopped values)
  · intro values unguarded
    rw [(admits values).mpr unguarded] at performed
    exact performed

end Execution

/-! ### A statement that writes the rows it returns -/

namespace Ledger

/-- An engine with a single table, a statement that reads it, and one that adds a row and returns
it. -/
def engine : Engine where
  Store := List Int64
  /- Whether a statement is the one that adds a row. -/
  Statement := Bool
  empty := [1]
  openDatabase _ _ _ store := .ok store
  release _ store := store
  inTransaction _ _ := false
  createModule _ _ _ store := .ok store
  schemaDefect? _ := none
  compile _ text := return (text == "INSERT INTO t VALUES (2) RETURNING a", "")
  info adds := { isEmpty := false, columns := ["a"], readonly := !adds, parameters := 0 }
  isOutdated _ _ := false
  refresh _ store := store
  execute _ adds _ store :=
    if adds then
      .row [.integer 2] (store ++ [2]) id fun store => .finish (.ok ()) store
    else
      store.foldr (fun value rest => .row [.integer value] store id fun _ => rest)
        (.finish (.ok ()) store)
  changes _ _ := 1
  lastRowid _ store := store.length.toInt64

/-- What is seen of a call inside an iteration. -/
structure Sighting where
  unsafeMode : Bool
  iterators : Nat
  reader : Bool
  readonly : Bool
  before : List Int64
  /-- The values of the rows that the call returns, unless it fails. -/
  rows : Option (List (List HostValue))
  after : List Int64
  deriving DecidableEq

abbrev host : Host where
  Memory := List Sighting
  Factory := Empty
  Generator := Empty
  Stream := Empty

def iterating : World host engine :=
  { sessions :=
      [{ path := ":memory:", readonly := false
         status := { integerMode := .strict, iterators := 1 } }]
    registry := [0]
    memory := [] }

def adding : Statement :=
  { session := 0, sql := "INSERT INTO t VALUES (2) RETURNING a", reader := true, readonly := false
    integerMode := .strict }

/-- In the same status a batch is refused and the reader that writes is engaged. -/
theorem batch_refused_and_reader_engaged :
    let batch : Execution host engine := .exec 0 "DELETE FROM t"
    let reader : Execution host engine := .read adding [] .all
    (iterating.status 0).Shielded ∧
      (∃ failure, (batch.perform .refused).run iterating = (.error failure, iterating)) ∧
      (reader.perform .refused).run iterating = (reader.engaged .refused []).run iterating := by
  have shielded : (iterating.status 0).Shielded := ⟨rfl, Nat.one_pos⟩
  have refused := (Execution.refused_unless_unguarded .refused
    (.exec 0 "DELETE FROM t") iterating shielded trivial).1
  have engaged := (Execution.refused_unless_unguarded .refused
    (.read adding [] .all) iterating shielded rfl).2
  exact ⟨shielded, refused (fun _ unguarded => unguarded), engaged [] ⟨rfl, rfl, rfl, rfl⟩⟩

/-- Calls a statement for all its rows, remembers what is seen of that, and asks for no more. -/
def watch (writer : Statement) (_ : Row) : Action host engine Bool :=
  ExceptT.mk do
    let before ← get
    let result ← (writer.all Callbacks.refused []).run
    let after ← get
    let sighting : Sighting :=
      { unsafeMode := (before.status writer.session).unsafeMode
        iterators := (before.status writer.session).iterators
        reader := writer.reader
        readonly := writer.readonly
        before := before.store
        rows := result.toOption.map fun rows => rows.map Row.values
        after := after.store }
    modify fun w => { w with memory := w.memory ++ [sighting] }
    return .ok false

def nested : Action host engine Unit := do
  let id ← Session.openSession ":memory:" { integerMode := .strict }
  let outer ← Session.prepare Callbacks.refused id "SELECT a FROM t"
  let writer ← Session.prepare Callbacks.refused id "INSERT INTO t VALUES (2) RETURNING a"
  outer.iterate Callbacks.refused [] (watch writer)

/-- Outside unsafe mode and under the iterator around it, a statement that the engine reports as a
reader but not as leaving the database as it is returns its row and has written it. -/
theorem nested_writes :
    (nested.run { memory := [] }).2.memory =
      [{ unsafeMode := false, iterators := 1, reader := true, readonly := false
         before := [1], rows := some [[.bigint 2]], after := [1, 2] }] := by
  decide +kernel

end Ledger

end RowSource
