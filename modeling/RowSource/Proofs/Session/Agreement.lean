import RowSource.Proofs.Session.Explained
import RowSource.Proofs.Session.Marks

/-!
# Worlds that agree on a session

What a session finds depends on the store and on the session itself, but not on its marks: whether it
is busy, how many iterators there are and who uses its connection. Host code that answers by its
arguments alone, and leaves store and session as they are, does not make a difference either. So every
call of the engine finds the same in worlds that differ in nothing else.
-/

namespace RowSource

variable {H : Host} {E : Engine} {S α β : Type} {id : Nat}

/-- A session without its marks. -/
def Session.bare (s : Session H) : Session H :=
  { s with borrowers := 0, status := { s.status with isBusy := false, iterators := 0 } }

namespace World

/-- Two worlds with the same store, in which a session is open and the same but for its marks. -/
structure Agree (id : Nat) (w v : World H E) : Prop where
  store : w.store = v.store
  session : (w.session id).bare = (v.session id).bare
  opened : (w.status id).isOpen = true

/-- The store and a session are left as they were. -/
structure Leaves (id : Nat) (w v : World H E) : Prop where
  store : v.store = w.store
  session : v.session id = w.session id

namespace Agree

variable {w v u : World H E}

theorem refl (opened : (w.status id).isOpen = true) : w.Agree id w := ⟨rfl, rfl, opened⟩

/-- What does not look at the marks of the session sees the same. -/
theorem sees (agree : w.Agree id v) (see : Session H → α) (bare : ∀ s, see s.bare = see s) :
    see (w.session id) = see (v.session id) := by
  rw [← bare (w.session id), agree.session, bare]

theorem symm (agree : w.Agree id v) : v.Agree id w where
  store := agree.store.symm
  session := agree.session.symm
  opened := by
    have same := agree.sees (fun s => s.status.isOpen) fun _ => rfl
    exact same.symm.trans agree.opened

theorem trans (first : w.Agree id v) (second : v.Agree id u) : w.Agree id u where
  store := first.store.trans second.store
  session := first.session.trans second.session
  opened := first.opened

theorem leaves (agree : w.Agree id v) (leaves : w.Leaves id u) : u.Agree id v where
  store := leaves.store.trans agree.store
  session := by rw [leaves.session, agree.session]
  opened := by
    unfold status
    rw [leaves.session]
    exact agree.opened

theorem updateStore (agree : w.Agree id v) (f : E.Store → E.Store) :
    (w.updateStore f).Agree id (v.updateStore f) where
  store := congrArg f agree.store
  session := agree.session
  opened := agree.opened

theorem session_updateSession_of_open (opened : (w.status id).isOpen = true)
    (f : Session H → Session H) : (w.updateSession id f).session id = f (w.session id) := by
  rw [session_updateSession, if_pos ⟨rfl, present_of_open opened⟩]

theorem updateSession (agree : w.Agree id v) {f : Session H → Session H}
    (bare : ∀ s, (f s).bare = (f s.bare).bare)
    (opens : ∀ s, (f s).status.isOpen = s.status.isOpen) :
    (w.updateSession id f).Agree id (v.updateSession id f) where
  store := agree.store
  session := by
    rw [session_updateSession_of_open agree.opened, session_updateSession_of_open agree.symm.opened,
      bare, agree.session, ← bare]
  opened := by
    unfold status
    rw [session_updateSession_of_open agree.opened, opens]
    exact agree.opened

/-- Marks may be set in one of the worlds alone. -/
theorem marked (agree : w.Agree id v) {f : Session H → Session H} (bare : ∀ s, (f s).bare = s.bare) :
    (w.updateSession id f).Agree id v where
  store := agree.store
  session := by rw [session_updateSession_of_open agree.opened, bare, agree.session]
  opened := by
    have same : (f (w.session id)).bare.status.isOpen = (w.session id).bare.status.isOpen := by
      rw [bare]
    unfold status
    rw [session_updateSession_of_open agree.opened]
    exact same.trans agree.opened

theorem explain (agree : w.Agree id v) (fault : EngineFault) :
    ((w.status id).explain fault).1 = ((v.status id).explain fault).1 :=
  agree.sees (fun s => (s.status.explain fault).1) fun _ => rfl

end Agree

end World

/-- An action that answers in one way and leaves the store and a session as they are. -/
def Plain (id : Nat) (action : Worldly H E α) : Prop :=
  ∃ answer, ∀ w, (action w).1 = answer ∧ w.Leaves id (action w).2

/-- Callbacks whose answers depend on what they are given, and which leave the store and a session as
they are. -/
structure Callbacks.Plain (C : Callbacks H E) (id : Nat) : Prop where
  define (factory : H.Factory) (args : List String) : RowSource.Plain id (C.define factory args)
  generate (generator : H.Generator) (args : List HostValue) :
    RowSource.Plain id (C.generation.generate generator args)
  advance (stream : H.Stream) : RowSource.Plain id (C.generation.advance stream)

/-- An action that comes to the same in worlds that agree, and leaves them in agreement. -/
def Respects (id : Nat) (action : Worldly H E α) : Prop :=
  ∀ w v : World H E, w.Agree id v →
    (action w).1 = (action v).1 ∧ (action w).2.Agree id (action v).2

theorem Plain.respects {action : Worldly H E α} (plain : Plain id action) : Respects id action := by
  obtain ⟨answer, answers⟩ := plain
  intro w v agree
  obtain ⟨here, left⟩ := answers w
  obtain ⟨there, leaves⟩ := answers v
  exact ⟨here.trans there.symm, ((agree.leaves left).symm.leaves leaves).symm⟩

namespace Respects

theorem pure (value : α) : Respects id (Pure.pure value : Worldly H E α) :=
  fun _ _ agree => ⟨rfl, agree⟩

theorem bind {action : Worldly H E α} {rest : α → Worldly H E β} (first : Respects id action)
    (second : ∀ value, Respects id (rest value)) : Respects id (action >>= rest) := by
  intro w v agree
  obtain ⟨same, left⟩ := first w v agree
  rw [Worldly.bind_apply, Worldly.bind_apply, same]
  exact second _ _ _ left

theorem look {next : World H E → Worldly H E α} (same : ∀ w v, w.Agree id v → next w = next v)
    (later : ∀ w, Respects id (next w)) : Respects id (get >>= next) := by
  intro w v agree
  rw [Worldly.get_bind_apply, Worldly.get_bind_apply, same w v agree]
  exact later v w v agree

theorem updateStore (f : E.Store → E.Store) :
    Respects (H := H) id (modify (World.updateStore f)) :=
  fun _ _ agree => ⟨rfl, agree.updateStore f⟩

theorem updateSession {f : Session H → Session H} (bare : ∀ s, (f s).bare = (f s.bare).bare)
    (opens : ∀ s, (f s).status.isOpen = s.status.isOpen) :
    Respects (E := E) id (modify (World.updateSession id f)) :=
  fun _ _ agree => ⟨rfl, agree.updateSession bare opens⟩

end Respects

/-! ### Demands -/

namespace Callbacks

variable {C : Callbacks H E} (plain : C.Plain id)
include plain

theorem Plain.next (scan : Scan H.Generator H.Stream) : Respects id (scan.next C.generation) := by
  unfold Scan.next
  cases scan.stream with
  | none => exact .pure _
  | some stream => exact (plain.advance stream).respects.bind fun _ => .pure _

theorem Plain.start (scan : Scan H.Generator H.Stream) (number : Int32) (values : List SqlValue) :
    Respects id (scan.start C.generation number values) := by
  unfold Scan.start
  dsimp only
  cases Plan.arguments number.toUInt32 scan.rewound.table.parameterNames.length values with
  | error failure => exact .pure _
  | ok bound =>
      dsimp only
      split
      · exact .pure _
      · refine (plain.generate _ _).respects.bind fun result => ?_
        cases result with
        | error error => exact .pure _
        | ok stream => exact plain.next _

theorem Plain.connect (module : String) (args : List String) :
    Respects id (C.connect id module args) := by
  refine .look (fun w v agree => ?_) fun w => ?_
  · have same : (w.session id).modules = (v.session id).modules :=
      agree.sees Session.modules fun _ => rfl
    dsimp only
    rw [same]
  · cases (w.session id).modules.find? fun known => sameName known.name module with
    | none => exact .pure _
    | some known =>
        have connects : Respects id
            (known.connect C.define (return ((← get).status id).integerMode) args) := by
          refine (plain.define _ _).respects.bind fun answer => ?_
          cases answer with
          | error error => exact .pure _
          | ok definition =>
              refine .look (fun w v agree => ?_) fun w => .pure _
              have same : (w.status id).integerMode = (v.status id).integerMode :=
                agree.sees (fun s => s.status.integerMode) fun _ => rfl
              rw [same]
        refine connects.bind fun result => ?_
        cases result with
        | error failure => exact .pure _
        | ok connected =>
            dsimp only
            cases schemaDefect? E connected.schemaSql with
            | some detail => exact .pure _
            | none =>
                refine .look (fun w v agree => ?_) fun w => ?_
                · have same : (w.session id).tables = (v.session id).tables :=
                    agree.sees Session.tables fun _ => rfl
                  rw [same]
                · exact Respects.bind (.updateSession (fun _ => rfl) fun _ => rfl) fun _ => .pure _

omit plain in
theorem plan_respects (table : ConnectedTable H.Generator) (constraints : List Constraint) :
    Respects (E := E) id (plan id table constraints) := by
  unfold plan
  split
  · exact .pure _
  · exact Respects.bind (.updateSession (fun _ => rfl) fun _ => rfl) fun _ => .pure _
  · exact .pure _

theorem Plain.serve (scans : Scans H) (demand : Demand) :
    Respects id (C.serve id scans demand) := by
  have tables {w v : World H E} (agree : w.Agree id v) :
      (w.session id).tables = (v.session id).tables :=
    agree.sees Session.tables fun _ => rfl
  cases demand with
  | connect module args => exact (plain.connect module args).bind fun _ => .pure _
  | plan table constraints =>
      refine .look (fun w v agree => ?_) fun w => ?_
      · rw [tables agree]
      · cases (w.session id).tables[table]? with
        | none => exact .pure _
        | some table => exact (plan_respects table constraints).bind fun _ => .pure _
  | openScan table =>
      refine .look (fun w v agree => ?_) fun w => ?_
      · rw [tables agree]
      · cases (w.session id).tables[table]? with
        | none => exact .pure _
        | some table =>
            exact Respects.bind (.updateSession (fun _ => rfl) fun _ => rfl) fun _ => .pure _
  | start number index values =>
      dsimp only [Callbacks.serve]
      cases scans[number]? with
      | none => exact .pure _
      | some scan => exact (plain.start scan index values).bind fun _ => .pure _
  | next number =>
      dsimp only [Callbacks.serve]
      cases scans[number]? with
      | none => exact .pure _
      | some scan => exact (plain.next scan).bind fun _ => .pure _
  | isEnded number =>
      dsimp only [Callbacks.serve]
      cases scans[number]? <;> exact .pure _
  | column number position =>
      dsimp only [Callbacks.serve]
      cases scans[number]? <;> exact .pure _
  | rowid number =>
      dsimp only [Callbacks.serve]
      cases scans[number]? <;> exact .pure _

/-! ### Programs -/

omit plain in
theorem deferred_respects (failure : Failure) :
    Respects (H := H) (E := E) id
      (modify (World.updateStatus id fun status => status.deferFailure failure)) := by
  refine .updateSession (fun s => ?_) fun s => ?_
  · rcases s with ⟨_, _, ⟨_, _, _, _, _, _, pending⟩, _⟩
    cases pending <;> rfl
  · rcases s with ⟨_, _, ⟨_, _, _, _, _, _, pending⟩, _⟩
    cases pending <;> rfl

theorem Plain.drive {offer : S → List SqlValue → Worldly H E (S ⊕ β)}
    (offers : ∀ state values, Respects id (offer state values)) (program : Program E.Store α)
    (state : S) (scans : Scans H) : Respects id (C.drive id offer state scans program) := by
  have resumed {next : E.Store → Program E.Store α} {state : S} {scans : Scans H}
      (later : ∀ store, Respects id (C.drive id offer state scans (next store))) :
      Respects id (do C.drive id offer state scans (next (← get).store)) :=
    .look (fun w v agree => by rw [agree.store]) fun w => later w.store
  induction program generalizing state scans with
  | finish result store => exact (Respects.updateStore _).bind fun _ => .pure _
  | ask demand store abandon resume ih =>
      unfold Callbacks.drive
      refine (Respects.updateStore _).bind fun _ => (plain.serve scans demand).bind fun served => ?_
      rcases served with ⟨failure | reply, scans⟩
      · exact (deferred_respects failure).bind fun _ => (Respects.updateStore _).bind fun _ => .pure _
      · exact resumed fun store => ih reply store state scans
  | row values store abandon resume ih =>
      unfold Callbacks.drive
      refine (Respects.updateStore _).bind fun _ => (offers state values).bind fun offered => ?_
      cases offered with
      | inl state => exact resumed fun store => ih store state scans
      | inr exit => exact (Respects.updateStore _).bind fun _ => .pure _

omit plain in
theorem closeScans_respects (scans : Scans H) :
    Respects (H := H) (E := E) id (closeScans id scans) := by
  induction scans with
  | nil => exact .pure _
  | cons scan rest closes =>
      exact Respects.bind (.updateSession (fun _ => rfl) fun _ => rfl) fun _ => closes

theorem Plain.settle (routine : Routine E.Store α) : Respects id (C.settle id routine) := by
  have ran : Respects id (C.run (S := Unit) (β := Empty) id (fun _ _ => return .inl ()) ()
      routine) := by
    refine .look (fun w v agree => ?_) fun w => ?_
    · rw [agree.store]
    · refine (plain.drive (fun _ _ => .pure _) (routine w.store) () []).bind fun (_, scans) => ?_
      exact (closeScans_respects scans).bind fun _ => .pure _
  refine ran.bind fun outcome => ?_
  cases outcome with
  | ended state result => exact .pure _
  | left impossible => cases impossible

/-! ### Statements -/

theorem Plain.hold (text : String) : Respects id (C.hold id text) := by
  refine .look (fun w v agree => ?_) fun w => ?_
  · have same : (w.session id).kept? text = (v.session id).kept? text :=
      agree.sees (fun s => s.kept? text) fun _ => rfl
    rw [same]
  · cases (w.session id).kept? text with
    | some info => exact Respects.bind (.updateSession (fun _ => rfl) fun _ => rfl) fun _ => .pure _
    | none =>
        refine (plain.settle _).bind fun result => ?_
        cases result <;> exact .pure _

omit plain in
theorem refresh_respects (info : StatementInfo) :
    Respects (H := H) (E := E) id (refresh id info) := by
  refine .look (fun w v agree => ?_) fun w => ?_
  · rw [agree.store]
  · split
    · exact (Respects.updateStore _).bind fun _ => .pure _
    · exact .pure _

theorem Plain.renew (text : String) (held : HeldStatement E) :
    Respects id (C.renew id text held) := by
  refine (refresh_respects held.info).bind fun isOutdated => ?_
  split
  · exact .pure _
  · exact (plain.settle _).bind fun _ => .pure _

end Callbacks

/-! ### Explained faults -/

/-- What comes of a call of the engine: its fault is explained by the status that it leaves. -/
def explained (id : Nat) (outcome : Except EngineFault α × World H E) : Except Failure α :=
  outcome.1.mapError fun fault => ((outcome.2.status id).explain fault).1

theorem World.Agree.explained {w v : World H E} (agree : w.Agree id v)
    (result : Except EngineFault α) :
    RowSource.explained id (result, w) = RowSource.explained id (result, v) := by
  cases result with
  | ok value => rfl
  | error fault => exact congrArg Except.error (agree.explain fault)

theorem explained_map (f : α → β) (result : Except EngineFault α) (w : World H E) :
    explained id (result.map f, w) = (explained id (result, w)).map f := by
  cases result <;> rfl

/-- A change that leaves alone what callbacks left behind does not change the explanation. -/
theorem explained_updateSession {f : Session H → Session H}
    (same : ∀ s fault, ((f s).status.explain fault).1 = (s.status.explain fault).1)
    (result : Except EngineFault α) (w : World H E) :
    explained id (result, w.updateSession id f) = explained id (result, w) := by
  cases result with
  | ok value => rfl
  | error fault =>
      unfold explained World.status
      rw [World.session_updateSession]
      split
      · exact congrArg Except.error (same _ fault)
      · rfl

theorem explained_closeScans (result : Except EngineFault α) (scans : Callbacks.Scans H)
    (w : World H E) :
    explained id (result, (Callbacks.closeScans id scans w).2) = explained id (result, w) := by
  induction scans generalizing w with
  | nil => rfl
  | cons scan rest closed =>
      exact (closed _).trans (explained_updateSession
        (f := fun s => { s with status := s.status.exitIteration }) (fun _ _ => rfl) result w)

theorem explained_keep (text : String) (info : StatementInfo) (result : Except EngineFault α)
    (w : World H E) :
    explained id (result, w.updateSession id (Session.keep text info)) =
      explained id (result, w) := by
  refine explained_updateSession (fun s fault => ?_) result w
  unfold Session.keep
  split <;> rfl

namespace Session

theorem explaining_result (call : Worldly H E (Except EngineFault α)) (w : World H E) :
    ((explaining id call).run w).1 = explained id (call w) := by
  unfold explaining
  rw [ExceptT.run_mk, Worldly.bind_apply]
  rcases call w with ⟨_ | _, v⟩ <;> rfl

theorem withConnection_result {w : World H E} (connected : (w.session id).connected = true)
    (call : Worldly H E (Except EngineFault α)) :
    ((withConnection id call).run w).1 =
      explained id (call ((w.updateSession id fun s => { s with borrowers := s.borrowers + 1 }
        ).updateStatus id Status.discardStale)) := by
  unfold withConnection
  rw [borrowing_of_connected connected]
  exact explaining_result call _

end Session

theorem World.isBusy_updateSession {w : World H E} {f : Session H → Session H}
    (same : ∀ s, (f s).status.isBusy = s.status.isBusy) :
    ((w.updateSession id f).status id).isBusy = (w.status id).isBusy := by
  unfold World.status
  rw [World.session_updateSession]
  split
  · exact same _
  · rfl

namespace World.Agree

variable {w v : World H E}

theorem cleared (agree : w.Agree id v) :
    w.Agree id (v.updateStatus id Status.clearBusy) ∧
      ((v.updateStatus id Status.clearBusy).status id).isBusy = false := by
  refine ⟨(agree.symm.marked (f := fun s => { s with status := s.status.clearBusy })
    fun _ => rfl).symm, ?_⟩
  rw [status_updateStatus (present_of_open agree.symm.opened)]
  rfl

theorem busied (agree : w.Agree id v) :
    w.Agree id (v.updateStatus id fun status => { status with isBusy := true }) :=
  (agree.symm.marked (f := fun s => { s with status := { s.status with isBusy := true } })
    fun _ => rfl).symm

/-- An iteration that begins finds what a busy period finds that begins instead. -/
theorem entered (opened : (w.status id).isOpen = true) (idle : (w.status id).isBusy = false) :
    let entered := w.updateStatus id Status.enterIteration
    (w.updateStatus id fun status => { status with isBusy := true }).Agree id entered ∧
      (entered.status id).isBusy = false := by
  let enter (s : Session H) : Session H := { s with status := s.status.enterIteration }
  have entering : (w.updateSession id enter).Agree id w := (refl opened).marked fun _ => rfl
  have same : ((w.updateSession id enter).status id).isBusy = (w.status id).isBusy :=
    isBusy_updateSession fun _ => rfl
  exact ⟨(refl opened).busied.symm.trans entering.symm, same.trans idle⟩

theorem lent (agree : w.Agree id v) (idle : (v.status id).isBusy = false) :
    let lend (w : World H E) :=
      (w.updateSession id fun s => { s with borrowers := s.borrowers + 1 }).updateStatus id
        Status.discardStale
    (lend w).Agree id (lend v) ∧ ((lend v).status id).isBusy = false := by
  let borrow (s : Session H) : Session H := { s with borrowers := s.borrowers + 1 }
  let forget (s : Session H) : Session H := { s with status := s.status.discardStale }
  have borrowed : (w.updateSession id borrow).Agree id (v.updateSession id borrow) :=
    agree.updateSession (fun _ => rfl) fun _ => rfl
  have same : ((v.updateSession id borrow).status id).isBusy = (v.status id).isBusy :=
    isBusy_updateSession fun _ => rfl
  have sameThen : (((v.updateSession id borrow).updateSession id forget).status id).isBusy =
      ((v.updateSession id borrow).status id).isBusy := isBusy_updateSession fun _ => rfl
  exact ⟨borrowed.updateSession (f := forget) (fun _ => rfl) fun _ => rfl,
    (sameThen.trans same).trans idle⟩

end World.Agree

namespace Respects

variable {call : Worldly H E (Except EngineFault α)} (respects : Respects id call) {w v : World H E}
  (agree : w.Agree id v)
include respects agree

/-- A call of the engine fails in both worlds, and its fault has the same explanation, or it comes to
the same value in both. -/
theorem explaining :
    (∃ fault u u', call w = (.error fault, u) ∧
      (Session.explaining id call).run v = (.error ((u.status id).explain fault).1, u')) ∨
    ∃ value u u', call w = (.ok value, u) ∧ u.Agree id u' ∧
      (Session.explaining id call).run v = (.ok value, u') := by
  obtain ⟨same, left⟩ := respects w v agree
  unfold Session.explaining
  rw [ExceptT.run_mk, Worldly.bind_apply]
  generalize call w = here at same left
  generalize call v = there at same left
  obtain ⟨result, u⟩ := here
  obtain ⟨_, u'⟩ := there
  cases same
  cases result with
  | error fault =>
      have same := left.explain fault
      exact .inl ⟨fault, u, _, rfl, congrArg (fun failure => (Except.error failure, _)) same.symm⟩
  | ok value => exact .inr ⟨value, u, u', rfl, left, rfl⟩

theorem withBusy_explaining (idle : (v.status id).isBusy = false) :
    (∃ fault u u', call w = (.error fault, u) ∧
      (Session.withBusy id (Session.explaining id call)).run v =
        (.error ((u.status id).explain fault).1, u')) ∨
    ∃ value u u', call w = (.ok value, u) ∧ u.Agree id u' ∧ (u'.status id).isBusy = false ∧
      (Session.withBusy id (Session.explaining id call)).run v = (.ok value, u') := by
  rw [Session.withBusy_of_idle idle]
  rcases respects.explaining agree.busied with ⟨fault, u, u', called, explained⟩ |
    ⟨value, u, u', called, left, explained⟩
  · rw [explained]
    exact .inl ⟨fault, u, _, called, rfl⟩
  · rw [explained]
    exact .inr ⟨value, u, _, called, left.cleared.1, left.cleared.2, rfl⟩

end Respects

end RowSource
