import RowSource.Proofs.Engine.Views
import RowSource.Proofs.Session.Pending

/-!
# Marks

A session is marked by what is running on it: an operation that keeps it busy, live iterators,
operations that use its connection. What host code does may change a session in many ways, but it
gives back every mark that it took. Serving a demand does so as well, up to the scan that it may have
opened.
-/

namespace RowSource

variable {H : Host} {E : Engine} {α β τ : Type}

structure Mark where
  isBusy : Bool
  iterators : Nat
  borrowers : Nat

/-- The marks of all sessions. -/
abbrev Marks := Nat → Mark

namespace Mark

def busy (mark : Mark) : Mark := { mark with isBusy := true }

def idle (mark : Mark) : Mark := { mark with isBusy := false }

/-- With some more scans open. -/
def scanning (opened : Nat) (mark : Mark) : Mark :=
  { mark with iterators := mark.iterators + opened }

def lent (mark : Mark) : Mark := { mark with borrowers := mark.borrowers + 1 }

end Mark

namespace Marks

variable {marks : Marks} {id : Nat} {f g : Mark → Mark}

def change (marks : Marks) (id : Nat) (f : Mark → Mark) : Marks :=
  fun other => if other = id then f (marks other) else marks other

theorem change_same : marks.change id f id = f (marks id) := if_pos rfl

theorem change_other {other : Nat} (different : other ≠ id) :
    marks.change id f other = marks other := if_neg different

theorem change_change :
    (marks.change id f).change id g = marks.change id fun mark => g (f mark) := by
  funext other
  unfold change
  by_cases same : other = id
  · simp only [if_pos same]
  · simp only [if_neg same]

theorem change_of_fixed (fixed : f (marks id) = marks id) : marks.change id f = marks := by
  funext other
  by_cases same : other = id
  · rw [same, change_same, fixed]
  · rw [change_other same]

end Marks

def Session.mark (s : Session H) : Mark := ⟨s.status.isBusy, s.status.iterators, s.borrowers⟩

/-- Whether a session is open, and whether it holds its connection. -/
def Session.standing (s : Session H) : Bool × Bool := (s.status.isOpen, s.connected)

/-- The standing of a session, with the tables it has on record. -/
structure Listing (F : Type) where
  isOpen : Bool
  connected : Bool
  names : List String
  modules : List (TableModule F)

def Listing.standing {F : Type} (listing : Listing F) : Bool × Bool :=
  (listing.isOpen, listing.connected)

def Session.listing (s : Session H) : Listing H.Factory :=
  ⟨s.status.isOpen, s.connected, s.moduleNames, s.modules⟩

theorem map_modify_of_same {f : α → α} {g : α → β} (same : ∀ value, g (f value) = g value)
    (place : Nat) (values : List α) : (values.modify place f).map g = values.map g := by
  apply List.ext_getElem?
  intro other
  rw [List.getElem?_map, List.getElem?_map, List.getElem?_modify]
  cases values[other]? with
  | none =>
      rfl
  | some value =>
      by_cases here : place = other
      · simp [here, same]
      · simp [here]

namespace World

def listings (w : World H E) : List (Listing H.Factory) := w.sessions.map Session.listing

def marks (w : World H E) : Marks := fun id => (w.session id).mark

theorem map_updateSession {f : Session H → Session H} {g : Session H → β}
    (same : ∀ s, g (f s) = g s) (id : Nat) (w : World H E) :
    (w.updateSession id f).sessions.map g = w.sessions.map g :=
  map_modify_of_same same id w.sessions

/-- What all sessions have in common in two worlds, absent ones have as well. -/
theorem session_of_map {w v : World H E} {g : Session H → β}
    (same : v.sessions.map g = w.sessions.map g) (id : Nat) :
    g (v.session id) = g (w.session id) := by
  have read (u : World H E) :
      g (u.session id) = (u.sessions.map g)[id]?.getD (g (Session.absent H)) := by
    unfold session
    rw [List.getD_eq_getElem?_getD, List.getElem?_map]
    cases u.sessions[id]? <;> rfl
  rw [read, read, same]

theorem marks_of_map {w v : World H E}
    (same : v.sessions.map Session.mark = w.sessions.map Session.mark) : v.marks = w.marks :=
  funext fun id => session_of_map same id

theorem marks_updateSession {w : World H E} {id : Nat} (present : id < w.sessions.length)
    {f : Session H → Session H} {g : Mark → Mark} (changes : ∀ s, (f s).mark = g s.mark) :
    (w.updateSession id f).marks = w.marks.change id g := by
  funext other
  unfold marks
  rw [session_updateSession]
  by_cases same : id = other
  · subst same
    rw [if_pos ⟨rfl, present⟩, Marks.change_same, changes]
  · rw [if_neg fun both => same both.1, Marks.change_other fun back => same back.symm]

theorem marks_updateStatus {w : World H E} {id : Nat} (present : id < w.sessions.length)
    {f : Status → Status} {g : Mark → Mark}
    (changes : ∀ s : Session H, Session.mark { s with status := f s.status } = g s.mark) :
    (w.updateStatus id f).marks = w.marks.change id g :=
  marks_updateSession present changes

theorem present_of_connected {w : World H E} {id : Nat}
    (connected : (w.session id).connected = true) : id < w.sessions.length := by
  rcases Nat.lt_or_ge id w.sessions.length with present | beyond
  · exact present
  · rw [session, List.getD_eq_getElem?_getD, List.getElem?_eq_none beyond] at connected
    cases connected

/-- A session is of no more use: it is closed, or has lost its connection. -/
def Lost (id : Nat) (w : World H E) : Prop :=
  (w.status id).isOpen = false ∨ (w.session id).connected = false

/-- The same sessions are open, registered and connected, and the same is seen of the store. -/
structure Alike (view : E.Store → τ) (w v : World H E) : Prop where
  registry : v.registry = w.registry
  standings : v.sessions.map Session.standing = w.sessions.map Session.standing
  seen : view v.store = view w.store

theorem alike_updateSession {view : E.Store → τ} {f : Session H → Session H}
    (same : ∀ s, (f s).standing = s.standing) (id : Nat) (w : World H E) :
    w.Alike view (w.updateSession id f) where
  registry := rfl
  standings := map_updateSession same id w
  seen := rfl

theorem standings_of_listings (w : World H E) :
    w.sessions.map Session.standing = w.listings.map Listing.standing := by
  unfold listings
  rw [List.map_map]
  rfl

/-- Worlds that are alike and have the same tables on record. -/
structure Unmoved (view : E.Store → τ) (w v : World H E) : Prop where
  registry : v.registry = w.registry
  listings : v.listings = w.listings
  seen : view v.store = view w.store

theorem Unmoved.alike {view : E.Store → τ} {w v : World H E} (unmoved : w.Unmoved view v) :
    w.Alike view v where
  registry := unmoved.registry
  standings := by rw [standings_of_listings, standings_of_listings, unmoved.listings]
  seen := unmoved.seen

end World

namespace Session

variable {id : Nat} {action : Action H E α} {w : World H E}

theorem borrowing_of_disconnected (disconnected : (w.session id).connected = false) :
    (borrowing id action).run w = (.error (.refused .notOpen), w) := by
  unfold borrowing
  rw [ExceptT.run_mk, Worldly.get_bind_apply, disconnected]
  rfl

theorem withConnection_of_disconnected (disconnected : (w.session id).connected = false)
    (call : Worldly H E (Except EngineFault α)) :
    (withConnection id call).run w = (.error (.refused .notOpen), w) :=
  borrowing_of_disconnected disconnected

theorem borrowing_of_connected (connected : (w.session id).connected = true) :
    (borrowing id action).run w =
      let lent := (w.updateSession id fun s => { s with borrowers := s.borrowers + 1 }).updateStatus
        id Status.discardStale
      ((action.run lent).1,
        (action.run lent).2.updateSession id fun s => { s with borrowers := s.borrowers - 1 }) := by
  unfold borrowing
  rw [ExceptT.run_mk, Worldly.get_bind_apply, connected]
  rfl

end Session

/-- An order in which worlds may follow each other. Worlds between which nothing has moved may do so,
and those between which sessions are opened or closed, or tables registered. -/
structure Evolution (view : E.Store → τ) (later : World H E → World H E → Prop) : Prop where
  refl (w : World H E) : later w w
  trans {w v u : World H E} : later w v → later v u → later w u
  grows {w v : World H E} : later w v → w.sessions.length ≤ v.sessions.length
  lost {w v : World H E} {id : Nat} : later w v → id < w.sessions.length → w.Lost id → v.Lost id
  unmoved {w v : World H E} : w.Unmoved view v → later w v
  openSession (path : String) (options : Options) (w : World H E) :
    later w ((Session.openSession path options).run w).2
  close (id : Nat) (w : World H E) : later w ((Session.close id).run w).2
  drop (id : Nat) (w : World H E) : later w ((Session.drop id).run w).2
  closeAll (w : World H E) : later w (Session.closeAll.run w).2
  registerTable (id : Nat) (name : String) (factory : H.Factory) (eponymous : Bool)
    (w : World H E) : later w ((Session.registerTable id name factory eponymous).run w).2

/-- An action that leads to a later world and leaves all marks as they were. -/
def Steady (later : World H E → World H E → Prop) (action : Worldly H E α) : Prop :=
  ∀ w : World H E, later w (action w).2 ∧ (action w).2.marks = w.marks

structure Callbacks.Steady (later : World H E → World H E → Prop) (C : Callbacks H E) : Prop where
  define (factory : H.Factory) (args : List String) :
    RowSource.Steady later (C.define factory args)
  generate (generator : H.Generator) (args : List HostValue) :
    RowSource.Steady later (C.generation.generate generator args)
  advance (stream : H.Stream) : RowSource.Steady later (C.generation.advance stream)

namespace Evolution

variable {view : E.Store → τ} {later : World H E → World H E → Prop}
  (evolution : Evolution view later)
include evolution

theorem later_updateSession {f : Session H → Session H} (same : ∀ s, (f s).listing = s.listing)
    (id : Nat) (w : World H E) : later w (w.updateSession id f) :=
  evolution.unmoved ⟨rfl, World.map_updateSession same id w, rfl⟩

theorem later_updateStatus {f : Status → Status}
    (same : ∀ status, (f status).isOpen = status.isOpen) (id : Nat) (w : World H E) :
    later w (w.updateStatus id f) := by
  have listing (s : Session H) : Session.listing { s with status := f s.status } = s.listing :=
    congrArg (Listing.mk · s.connected s.moduleNames s.modules) (same s.status)
  exact evolution.later_updateSession listing id w

theorem later_updateStore {f : E.Store → E.Store} {w : World H E}
    (same : view (f w.store) = view w.store) : later w (w.updateStore f) :=
  evolution.unmoved ⟨rfl, rfl, same⟩

theorem pure (value : α) : Steady later (Pure.pure value : Worldly H E α) :=
  fun w => ⟨evolution.refl w, rfl⟩

theorem bind {action : Worldly H E α} {rest : α → Worldly H E β} (first : Steady later action)
    (second : ∀ value, Steady later (rest value)) : Steady later (action >>= rest) := by
  intro w
  obtain ⟨since, same⟩ := first w
  obtain ⟨sinceThen, sameThen⟩ := second (action w).1 (action w).2
  exact ⟨evolution.trans since sinceThen, sameThen.trans same⟩

omit evolution in
theorem get_bind {rest : World H E → Worldly H E α} (next : ∀ w, Steady later (rest w)) :
    Steady later (get >>= rest) :=
  fun w => next w w

theorem updateSession {f : Session H → Session H} (id : Nat)
    (same : ∀ s, (f s).listing = s.listing ∧ (f s).mark = s.mark) :
    Steady later (modify (World.updateSession id f)) :=
  fun w => ⟨evolution.later_updateSession (fun s => (same s).1) id w,
    World.marks_of_map (World.map_updateSession (fun s => (same s).2) id w)⟩

theorem updateStatus {f : Status → Status} (id : Nat)
    (same : ∀ s : Session H, Session.listing { s with status := f s.status } = s.listing ∧
      Session.mark { s with status := f s.status } = s.mark) :
    Steady later (modify (World.updateStatus id f)) :=
  evolution.updateSession id same

theorem updateSession_bind {f : Session H → Session H} {id : Nat} {rest : Unit → Worldly H E α}
    (same : ∀ s, (f s).listing = s.listing ∧ (f s).mark = s.mark)
    (next : Steady later (rest ())) :
    Steady later (modify (World.updateSession id f) >>= rest) :=
  evolution.bind (evolution.updateSession id same) fun _ => next

theorem action_bind {action : Action H E α} {rest : α → Action H E β}
    (first : Steady later action.run) (second : ∀ value, Steady later (rest value).run) :
    Steady later (action >>= rest).run := by
  change Steady later (action.run >>= ExceptT.bindCont rest)
  apply evolution.bind first
  intro result
  cases result with
  | error failure =>
      exact evolution.pure _
  | ok value =>
      exact second value

theorem action_tryCatch {action : Action H E α} {handler : Failure → Action H E α}
    (tried : Steady later action.run) (handled : ∀ failure, Steady later (handler failure).run) :
    Steady later (tryCatch action handler).run := by
  rw [ExceptT.run_tryCatch]
  apply evolution.bind tried
  intro result
  cases result with
  | error failure =>
      exact handled failure
  | ok value =>
      exact evolution.pure _

/-! ### Operations that need no host code -/

theorem require (id : Nat) (check : Status → Except Failure Unit) :
    Steady later (Session.require (H := H) (E := E) id check).run := by
  intro w
  rw [Session.require_run]
  exact ⟨evolution.refl w, rfl⟩

/-- The connection that was borrowed is given back. -/
theorem borrowing (id : Nat) {action : Action H E α} (steady : Steady later action.run) :
    Steady later (Session.borrowing id action).run := by
  intro w
  cases connected : (w.session id).connected with
  | false =>
      rw [Session.borrowing_of_disconnected connected]
      exact ⟨evolution.refl w, rfl⟩
  | true =>
      let borrow (s : Session H) : Session H := { s with borrowers := s.borrowers + 1 }
      let giveBack (s : Session H) : Session H := { s with borrowers := s.borrowers - 1 }
      let borrowed := w.updateSession id borrow
      let lent := borrowed.updateStatus id Status.discardStale
      have ran : (Session.borrowing id action).run w = ((action.run lent).1,
          (action.run lent).2.updateSession id giveBack) :=
        Session.borrowing_of_connected connected
      have present := World.present_of_connected connected
      have counted : borrowed.marks = w.marks.change id Mark.lent :=
        World.marks_updateSession present fun _ => rfl
      have taken : later w borrowed :=
        evolution.later_updateSession (f := borrow) (fun _ => rfl) id w
      obtain ⟨forgotten, kept⟩ :=
        evolution.updateStatus (f := Status.discardStale) id (fun _ => ⟨rfl, rfl⟩) borrowed
      obtain ⟨acted, same⟩ := steady lent
      have since := evolution.trans taken (evolution.trans forgotten acted)
      have presentThen := Nat.lt_of_lt_of_le present (evolution.grows since)
      have returned : later (action.run lent).2 ((action.run lent).2.updateSession id giveBack) :=
        evolution.later_updateSession (f := giveBack) (fun _ => rfl) id _
      rw [ran]
      refine ⟨evolution.trans since returned, ?_⟩
      calc ((action.run lent).2.updateSession id giveBack).marks
        _ = (action.run lent).2.marks.change id _ :=
            World.marks_updateSession presentThen
              (g := fun mark => { mark with borrowers := mark.borrowers - 1 }) fun _ => rfl
        _ = (w.marks.change id Mark.lent).change id _ := by
            rw [same, ← counted, ← kept]
            rfl
        _ = w.marks := by
            rw [Marks.change_change]
            exact Marks.change_of_fixed rfl

theorem inTransaction (id : Nat) :
    Steady later (Session.inTransaction (H := H) (E := E) id).run := by
  have looked : Steady later (Session.withConnection id
      (return .ok (E.inTransaction id (← get).store)) : Action H E Bool).run :=
    evolution.borrowing id fun w => ⟨evolution.refl w, rfl⟩
  apply evolution.action_bind (evolution.action_tryCatch
    (evolution.action_bind looked fun _ => evolution.pure _) fun _ => evolution.pure _)
  intro result
  cases result with
  | error early =>
      exact evolution.pure _
  | ok answer =>
      exact evolution.pure _

theorem setUnsafeMode (id : Nat) (enabled : Bool) :
    Steady later (Session.setUnsafeMode (H := H) (E := E) id enabled).run := by
  apply evolution.action_bind (evolution.require id Status.requireOpen)
  intro _
  have configured : Steady later (Session.withConnection id
      (return .ok ()) : Action H E Unit).run :=
    evolution.borrowing id fun w => ⟨evolution.refl w, rfl⟩
  apply evolution.action_bind configured
  intro _
  exact evolution.updateStatus id fun _ => ⟨rfl, rfl⟩

/-! ### Demands -/

section Demands

variable {C : Callbacks H E} (steady : C.Steady later)
include steady

theorem next (scan : Scan H.Generator H.Stream) : Steady later (scan.next C.generation) := by
  unfold Scan.next
  cases scan.stream with
  | none =>
      exact evolution.pure _
  | some stream =>
      exact evolution.bind (steady.advance stream) fun _ => evolution.pure _

theorem start (scan : Scan H.Generator H.Stream) (number : Int32) (values : List SqlValue) :
    Steady later (scan.start C.generation number values) := by
  unfold Scan.start
  dsimp only
  cases Plan.arguments number.toUInt32 scan.rewound.table.parameterNames.length values with
  | error failure =>
      exact evolution.pure _
  | ok bound =>
      dsimp only
      split
      · exact evolution.pure _
      · apply evolution.bind (steady.generate _ _)
        intro result
        cases result with
        | error error =>
            exact evolution.pure _
        | ok stream =>
            exact evolution.next steady _

theorem connect (id : Nat) (module : String) (args : List String) :
    Steady later (C.connect id module args) := by
  apply get_bind
  intro w
  cases (w.session id).modules.find? fun known => sameName known.name module with
  | none =>
      exact evolution.pure _
  | some known =>
      have accepted : Steady later (known.connect C.define
          (return ((← get).status id).integerMode) args) := by
        apply evolution.bind (steady.define _ _)
        intro answer
        cases answer with
        | error error =>
            exact evolution.pure _
        | ok definition =>
            exact get_bind fun w => evolution.pure _
      apply evolution.bind accepted
      intro result
      cases result with
      | error failure =>
          exact evolution.pure _
      | ok connected =>
          dsimp only
          cases Callbacks.schemaDefect? E connected.schemaSql with
          | some detail =>
              exact evolution.pure _
          | none =>
              apply get_bind
              intro w
              exact evolution.updateSession_bind (fun _ => ⟨rfl, rfl⟩) (evolution.pure _)

omit steady in
theorem plan (id : Nat) (table : ConnectedTable H.Generator) (constraints : List Constraint) :
    Steady (E := E) later (Callbacks.plan id table constraints) := by
  unfold Callbacks.plan
  split
  · exact evolution.pure _
  · exact evolution.updateSession_bind (fun _ => ⟨rfl, rfl⟩) (evolution.pure _)
  · exact evolution.pure _

/-- Serving a demand leads to a later world, and leaves all marks but for the scan that it may have
opened. -/
theorem serve (id : Nat) (scans : Callbacks.Scans H) (demand : Demand) (w : World H E) :
    later w (C.serve id scans demand w).2 ∧
      ∃ opened, (C.serve id scans demand w).1.2.length = scans.length + opened ∧
        (id < w.sessions.length →
          (C.serve id scans demand w).2.marks = w.marks.change id (Mark.scanning opened)) := by
  have unopened {served : (Except Failure demand.Reply × Callbacks.Scans H) × World H E}
      (since : later w served.2 ∧ served.2.marks = w.marks)
      (same : served.1.2.length = scans.length) :
      later w served.2 ∧ ∃ opened, served.1.2.length = scans.length + opened ∧
        (id < w.sessions.length →
          served.2.marks = w.marks.change id (Mark.scanning opened)) := by
    refine ⟨since.1, 0, same, fun _ => ?_⟩
    rw [since.2]
    exact (Marks.change_of_fixed rfl).symm
  have unmoved : later w w ∧ w.marks = w.marks := ⟨evolution.refl w, rfl⟩
  cases demand with
  | connect module args =>
      exact unopened (evolution.connect steady id module args w) rfl
  | plan table constraints =>
      dsimp only [Callbacks.serve]
      rw [Worldly.get_bind_apply]
      cases (w.session id).tables[table]? with
      | none =>
          exact unopened unmoved rfl
      | some connected =>
          exact unopened (evolution.plan id connected constraints w) rfl
  | openScan table =>
      dsimp only [Callbacks.serve]
      rw [Worldly.get_bind_apply]
      cases (w.session id).tables[table]? with
      | none =>
          exact unopened unmoved rfl
      | some connected =>
          have entered : later w (w.updateStatus id Status.enterIteration) :=
            evolution.later_updateStatus (f := Status.enterIteration) (fun _ => rfl) id w
          exact ⟨entered, 1, List.length_append,
            fun present => World.marks_updateStatus present fun _ => rfl⟩
  | start number index values =>
      dsimp only [Callbacks.serve]
      cases scans[number]? with
      | none =>
          exact unopened unmoved rfl
      | some scan =>
          exact unopened (evolution.start steady scan index values w) (List.length_set ..)
  | next number =>
      dsimp only [Callbacks.serve]
      cases scans[number]? with
      | none =>
          exact unopened unmoved rfl
      | some scan =>
          exact unopened (evolution.next steady scan w) (List.length_set ..)
  | isEnded number =>
      dsimp only [Callbacks.serve]
      cases scans[number]? <;> exact unopened unmoved rfl
  | column number position =>
      dsimp only [Callbacks.serve]
      cases scans[number]? <;> exact unopened unmoved rfl
  | rowid number =>
      dsimp only [Callbacks.serve]
      cases scans[number]? <;> exact unopened unmoved rfl

end Demands

end Evolution

end RowSource
