import RowSource.Proofs.Session.Lifecycle

/-!
# Transactions of closed sessions

Whether a session has a transaction is asked of its connection, and not of the session. A session that
is closed while none of its calls is running lets go of its connection, and has no transaction from
then on. A session that is closed inside one of its own calls keeps the connection, and goes on to
report the transaction of that.
-/

namespace RowSource

variable {H : Host} {E : Engine}

namespace Session

variable {id : Nat} {w : World H E}

theorem inTransaction_of_disconnected (disconnected : (w.session id).connected = false) :
    (inTransaction id).run w = (.ok false, w) := by
  have refused : (withConnection id (return .ok (E.inTransaction id (← get).store)) :
      Action H E Bool).run w = (.error (.refused .notOpen), w) :=
    borrowing_of_disconnected disconnected
  change ExceptT.run (tryCatch (withConnection id _ >>= fun _ => _) _ >>= _) w = _
  rw [Action.bind_run, ExceptT.run_tryCatch, Worldly.bind_apply, Action.bind_of_error refused]
  rfl

theorem inTransaction_of_connected (connected : (w.session id).connected = true) :
    ((inTransaction id).run w).1 = .ok (E.inTransaction id w.store) := by
  let asking : Action H E Bool := explaining id (return .ok (E.inTransaction id (← get).store))
  have asked : (borrowing id asking).run w = _ := borrowing_of_connected connected
  change (ExceptT.run (tryCatch (borrowing id asking >>= fun _ => _) _ >>= _) w).1 = _
  rw [Action.bind_run, ExceptT.run_tryCatch, Worldly.bind_apply, Action.bind_run, asked]
  rfl

theorem unused_of_closable {s : Session H} (passed : s.closable = .ok ()) : s.borrowers = 0 := by
  unfold closable at passed
  by_contra used
  rw [if_pos used] at passed
  cases notBusy : s.status.requireNotBusy with
  | error failure =>
      rw [notBusy] at passed
      cases passed
  | ok idle =>
      cases none : s.status.requireNoIterators with
      | error failure =>
          rw [notBusy, none] at passed
          cases passed
      | ok free =>
          rw [notBusy, none] at passed
          cases passed

end Session

/-- From this world on, a session is closed and says that it has no transaction. -/
def HostCode.Silent (host : HostCode H E) (id : Nat) (w : World H E) : Prop :=
  ∀ v, host.Precedes w v →
    (v.status id).isOpen = false ∧ (Session.inTransaction id).run v = (.ok false, v)

namespace HostCode.Admissible

variable {host : HostCode H E} (admissible : host.Admissible) {w : World H E} {id : Nat}

include admissible

theorem silent_of_forsake {ids : List Nat} (present : id < w.sessions.length) (member : id ∈ ids)
    (unused : (w.session id).borrowers = 0) : host.Silent id (w.forsake ids) := by
  intro v precedes
  have leads := admissible.leads lawless E.keeps_nothing precedes
  have stays : id < (w.forsake ids).sessions.length :=
    (w.abandoned_abandon ids).length ▸ present
  have closed := leads.stays_closed stays (World.not_open_of_forsake member)
  have parted := leads.stays_parted stays (World.parted_of_forsake member unused)
  exact ⟨closed, Session.inTransaction_of_disconnected parted⟩

/-- Wherever host code runs, a session that is closed by itself has no transaction from then on, and
neither has one that is dropped, or closed with all others, while none of its calls is running. One
that is closed with all others inside one of its calls is not open, but goes by what the engine says
of its connection. -/
theorem silent_unless_borrowed {memory : H.Memory} {depth : Nat} {frames : List Frame}
    (reaches : host.Reaches { memory := memory } depth frames w)
    (opened : (w.status id).isOpen = true) :
    (∀ v, (Session.close id).run w = (.ok (), v) → host.Silent id v) ∧
    ((∀ frame ∈ frames, frame.session ≠ id) →
      host.Silent id ((Session.drop id).run w).2 ∧ host.Silent id (Session.closeAll.run w).2) ∧
    ((∃ frame ∈ frames, frame.session = id) →
      let closed := (Session.closeAll.run w).2
      (closed.status id).isOpen = false ∧
        ((Session.inTransaction id).run closed).1 = .ok (E.inTransaction id closed.store)) := by
  obtain ⟨since, tell⟩ := admissible.moments World.lawful E.keeps_nothing (fun _ => rfl) reaches
  have lawful : w.Lawful := since.lawful (.initial memory)
  have present := World.present_of_open opened
  have registered : id ∈ w.registry := (lawful.registered id).mpr opened
  refine ⟨?_, ?_, ?_⟩
  · intro v closing
    rw [Session.close_run, if_pos opened] at closing
    cases closable : (w.session id).closable with
    | error failure =>
        rw [closable] at closing
        cases closing
    | ok passed =>
        rw [closable] at closing
        have left : w.forsake [id] = v := congrArg Prod.snd closing
        rw [← left]
        exact admissible.silent_of_forsake present (List.mem_singleton_self id)
          (Session.unused_of_closable closable)
  · intro apart
    have unused := (World.unused_iff tell).mpr apart
    rw [Session.drop_run, Session.closeAll_run]
    exact ⟨admissible.silent_of_forsake present (List.mem_singleton_self id) unused,
      admissible.silent_of_forsake present registered unused⟩
  · rintro ⟨frame, inside, rfl⟩
    have used : (w.session frame.session).borrowers ≠ 0 := fun unused =>
      (World.unused_iff tell).mp unused frame inside rfl
    rw [Session.closeAll_run]
    refine ⟨World.not_open_of_forsake registered, Session.inTransaction_of_connected ?_⟩
    have left : ((w.forsake w.registry).session frame.session).connected = _ :=
      (w.abandoned_abandon w.registry).connected frame.session
    rw [left, lawful.connected frame.session opened]
    simp [used]

end HostCode.Admissible

/-! ### All sessions are closed inside an iteration of one -/

def Event.isHanded : Event H E → Bool
  | .handed _ => true
  | _ => false

theorem Event.handed_of_head {events : List (Event H E)} {w : World H E}
    (first : events.head?.any isHanded = true) :
    .handed ((events.head?.map world).getD w) ∈ events := by
  cases events with
  | nil => cases first
  | cons event rest =>
      cases event with
      | handed v => exact List.mem_cons_self
      | asked id scans demand v => cases first

namespace Teller

/-- An engine that knows which connections are in a transaction. It has a statement that begins one,
and others that have a single row. -/
def engine : Engine where
  Store := List Nat
  /- Whether a statement begins a transaction. -/
  Statement := Bool
  empty := []
  openDatabase _ _ _ store := .ok store
  release id store := store.filter (· != id)
  inTransaction id store := store.contains id
  createModule _ _ _ store := .ok store
  schemaDefect? _ := none
  compile _ text := return (text == "BEGIN", "")
  info begins :=
    { isEmpty := false, columns := if begins then [] else ["1"], readonly := true, parameters := 0 }
  isOutdated _ _ := false
  refresh _ store := store
  execute connection begins _ store :=
    if begins then .finish (.ok ()) (connection :: store)
    else .row [.integer 1] store id fun store => .finish (.ok ()) store
  changes _ _ := 0
  lastRowid _ _ := 0

abbrev host : Host where
  Memory := Unit
  Factory := Empty
  Generator := Empty
  Stream := Empty

def code : HostCode host engine := ⟨fun _ => .refused⟩

theorem admissible : code.Admissible := fun C => C.made_refused

def begin (id : Nat) : Action host engine Unit := Session.exec (code.callbacks 0) id "BEGIN"

def iterating : Operation host engine :=
  .execute (.read ⟨0, "SELECT 1", true, true, .loose⟩ [] (.iterate fun _ => return false))

/-- Two sessions, each in a transaction. -/
def begun : World host engine :=
  let opened (w : World host engine) := ((Session.openSession ":memory:" {}).run w).2
  ((begin 1).run ((begin 0).run (opened (opened { memory := () }))).2).2

/-- The world in which the row is handed over. -/
def visited : World host engine :=
  (((iterating.thrown (code.callbacks 0)).run begun).events.head?.map Event.world).getD begun

theorem reaches_visited : code.Reaches { memory := () } 0 [.iterating 0] visited := by
  have opening : HostAction (code.callbacks 0) (Session.openSession ":memory:" {}).run :=
    .openSession ":memory:" {}
  have beginning (id : Nat) : HostAction (code.callbacks 0) (begin id).run := .exec id "BEGIN"
  have start : code.Reaches { memory := () } 0 [] { memory := () } := .start 0
  have there := (((start.act opening).act opening).act (beginning 0)).act (beginning 1)
  have made : iterating.Made (code.callbacks 0) := fun _ => .pure _
  have handed : .handed visited ∈ ((iterating.thrown (code.callbacks 0)).run begun).events :=
    Event.handed_of_head (by decide +kernel)
  exact .handed there made handed

theorem forced_close_keeps_transaction :
    ∃ w : World host engine, code.Reaches { memory := () } 0 [.iterating 0] w ∧
      (w.status 0).isOpen = false ∧ ((Session.inTransaction 0).run w).1 = .ok true := by
  have closing : HostAction (code.callbacks 0) (Session.closeAll (H := host) (E := engine)).run :=
    .closeAll
  exact ⟨_, reaches_visited.act closing, by decide +kernel, by decide +kernel⟩

/-- Inside the iteration all sessions are closed. The one without a running call has no transaction
from then on, and the other one still has. -/
theorem silent_unless_borrowed_visit :
    let closed := (Session.closeAll.run visited).2
    (visited.status 0).isOpen = true ∧ (visited.status 1).isOpen = true ∧
      code.Silent 1 closed ∧ ((Session.inTransaction 0).run closed).1 = .ok true := by
  intro closed
  have openedZero : (visited.status 0).isOpen = true := by decide +kernel
  have openedOne : (visited.status 1).isOpen = true := by decide +kernel
  obtain ⟨_, apart, _⟩ := admissible.silent_unless_borrowed reaches_visited openedOne
  obtain ⟨_, _, inside⟩ := admissible.silent_unless_borrowed reaches_visited openedZero
  obtain ⟨_, silent⟩ := apart (by decide)
  obtain ⟨_, told⟩ := inside ⟨.iterating 0, by decide, rfl⟩
  have begunStill : engine.inTransaction 0 closed.store = true := by decide +kernel
  rw [begunStill] at told
  exact ⟨openedZero, openedOne, silent, told⟩

end Teller

end RowSource
