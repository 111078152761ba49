import RowSource.Proofs.Session.Admission
import RowSource.Proofs.Session.Explained
import RowSource.Proofs.Session.Marks

/-!
# Calls that register tables

A call that registers a table either fails, and then nothing is recorded of it, or is recorded twice: by
the session, without regard to letter case, and by the engine, with the kind of the table.
-/

namespace RowSource

variable {H : Host} {E : Engine} {τ : Type}

def Listing.add {F : Type} (name : String) (factory : F) (listing : Listing F) : Listing F :=
  { listing with
    names := listing.names ++ [foldCase name]
    modules := listing.modules ++ [⟨name, factory⟩] }

namespace World

theorem listing_of_listings {w v : World H E} (same : v.listings = w.listings) (id : Nat) :
    (v.session id).listing = (w.session id).listing :=
  session_of_map same id

theorem listings_updateSession {f : Session H → Session H}
    {g : Listing H.Factory → Listing H.Factory} (changes : ∀ s, (f s).listing = g s.listing)
    (id : Nat) (w : World H E) : (w.updateSession id f).listings = w.listings.modify id g := by
  apply List.ext_getElem?
  intro other
  unfold listings updateSession
  rw [List.getElem?_map, List.getElem?_modify, List.getElem?_modify, List.getElem?_map]
  by_cases here : id = other
  · cases w.sessions[other]? with
    | none => rfl
    | some s => simp [here, changes]
  · cases w.sessions[other]? with
    | none => rfl
    | some s => simp [here]

theorem listings_unmoved {f : Session H → Session H} (same : ∀ s, (f s).listing = s.listing)
    (id : Nat) (w : World H E) : (w.updateSession id f).listings = w.listings :=
  map_updateSession same id w

theorem listings_updateStatus {id : Nat} {f : Status → Status} {w : World H E}
    (same : (f (w.status id)).isOpen = (w.status id).isOpen) :
    (w.updateStatus id f).listings = w.listings := by
  let g (status : Status) : Status := { f status with isOpen := status.isOpen }
  have agree : f (w.status id) = g (w.status id) := by
    dsimp only [g]
    rw [← same]
  rw [← w.updateStatus_known, agree, w.updateStatus_known]
  exact listings_unmoved (f := fun s => { s with status := g s.status }) (fun _ => rfl) id w

theorem listings_borrowers (id : Nat) (f : Nat → Nat) (w : World H E) :
    (w.updateSession id fun s => { s with borrowers := f s.borrowers }).listings = w.listings :=
  listings_unmoved (f := fun s => { s with borrowers := f s.borrowers }) (fun _ => rfl) id w

end World

/-- A call that registers a table, with the world in which it is made. -/
structure Registration (H : Host) (E : Engine) where
  session : Nat
  name : String
  factory : H.Factory
  eponymous : Bool
  world : World H E

namespace Registration

def key (call : Registration H E) : String := foldCase call.name

def module (call : Registration H E) : TableModule H.Factory := ⟨call.name, call.factory⟩

def outcome (call : Registration H E) : Except Failure Unit × World H E :=
  (Session.registerTable call.session call.name call.factory call.eponymous).run call.world

def succeeds (call : Registration H E) : Bool := call.outcome.1.isOk

/-- The status lets a table be registered. -/
def Allowed (call : Registration H E) : Prop :=
  let status := call.world.status call.session
  status.isOpen = true ∧ status.isBusy = false ∧ status.iterators = 0

def operation (call : Registration H E) : Operation H E :=
  .registerTable call.session call.name call.factory call.eponymous

/-- The checks of a call, by what they see of its session. -/
def admitted (call : Registration H E) : Except Failure (List SqlValue) :=
  call.operation.admitted (call.world.session call.session)

/-- The engine's part of a call. -/
def creating (call : Registration H E) : Action H E Unit :=
  Session.withConnection call.session do
    match E.createModule call.session call.name call.eponymous (← get).store with
    | .error fault => return .error fault
    | .ok store =>
        modify (World.updateStore fun _ => store)
        return .ok ()

/-- Puts a call on the record of its session. -/
def record (call : Registration H E) : World H E → World H E :=
  World.updateSession call.session fun s =>
    { s with
      moduleNames := s.moduleNames ++ [foldCase call.name]
      modules := s.modules ++ [⟨call.name, call.factory⟩] }

variable {call : Registration H E}

theorem outcome_follows : (Session.registerTable call.session call.name call.factory
    call.eponymous).Follows call.world call.admitted fun _ =>
      Session.withBusy call.session (call.creating >>= fun _ => modify call.record) :=
  .require (.require (.require (.look (.refusing (.admitted _ _ _)))))

theorem outcome_of_refused {failure : Failure} (refused : call.admitted = .error failure) :
    call.outcome = (.error failure, call.world) := by
  have follows : call.outcome = _ := call.outcome_follows
  rwa [refused] at follows

/-- A call that fails has recorded nothing. -/
structure Unrecorded (call : Registration H E) : Prop where
  failed : ∃ failure, call.outcome.1 = .error failure
  registry : call.outcome.2.registry = call.world.registry
  store : call.outcome.2.store = call.world.store
  listings : call.outcome.2.listings = call.world.listings

/-- A call that succeeds is recorded, and the engine has made the module. -/
structure Recorded (call : Registration H E) : Prop where
  admitted : ∃ values, call.admitted = .ok values
  connected : (call.world.session call.session).connected = true
  succeeded : call.outcome.1 = .ok ()
  created : E.createModule call.session call.name call.eponymous call.world.store =
    .ok call.outcome.2.store
  registry : call.outcome.2.registry = call.world.registry
  listings : call.outcome.2.listings =
    call.world.listings.modify call.session (Listing.add call.name call.factory)

/-- The world of a call within its busy period. -/
def busy (call : Registration H E) : World H E :=
  call.world.updateStatus call.session fun status => { status with isBusy := true }

/-- The world of a call when the engine is called. -/
def lent (call : Registration H E) : World H E :=
  (call.busy.updateSession call.session fun s => { s with borrowers := s.borrowers + 1 }
    ).updateStatus call.session Status.discardStale

theorem listings_busy : call.busy.listings = call.world.listings :=
  World.listings_updateStatus rfl

theorem connected_busy :
    (call.busy.session call.session).connected = (call.world.session call.session).connected :=
  congrArg Listing.connected (World.listing_of_listings call.listings_busy call.session)

theorem listings_record (w : World H E) : (call.record w).listings =
    w.listings.modify call.session (Listing.add call.name call.factory) :=
  World.listings_updateSession (fun _ => rfl) _ _

theorem listings_lent : call.lent.listings = call.world.listings := by
  unfold lent
  rw [World.listings_updateStatus, World.listings_borrowers _ (· + 1), listings_busy]
  rfl

theorem creating_of_disconnected
    (disconnected : (call.busy.session call.session).connected = false) :
    call.creating.run call.busy = (.error (.refused .notOpen), call.busy) :=
  Session.withConnection_of_disconnected disconnected _

theorem creating_of_connected (connected : (call.busy.session call.session).connected = true) :
    call.creating.run call.busy =
      match E.createModule call.session call.name call.eponymous call.world.store with
      | .error fault =>
          let explained := (call.lent.status call.session).explain fault
          (.error explained.1, (call.lent.updateStatus call.session fun _ => explained.2
            ).updateSession call.session fun s => { s with borrowers := s.borrowers - 1 })
      | .ok created =>
          (.ok (), (call.lent.updateStore fun _ => created).updateSession call.session fun s =>
            { s with borrowers := s.borrowers - 1 }) := by
  unfold creating Session.withConnection
  rw [Session.borrowing_of_connected connected]
  change ((Session.explaining call.session _).run call.lent |>.1,
    (Session.explaining call.session _).run call.lent |>.2.updateSession call.session _) = _
  unfold Session.explaining
  rw [ExceptT.run_mk, Worldly.bind_apply, Worldly.get_bind_apply]
  have same : call.lent.store = call.world.store := rfl
  rw [same]
  cases E.createModule call.session call.name call.eponymous call.world.store with
  | error fault => rfl
  | ok created => rfl

theorem unrecorded_of_refused {failure : Failure} (refused : call.admitted = .error failure) :
    call.Unrecorded := by
  have outcome := outcome_of_refused refused
  exact ⟨⟨failure, congrArg Prod.fst outcome⟩, by rw [outcome], by rw [outcome], by rw [outcome]⟩

section Admitted

variable {values : List SqlValue} (admitted : call.admitted = .ok values)
include admitted

theorem outcome_of_failed {failure : Failure} {w : World H E}
    (failed : call.creating.run call.busy = (.error failure, w)) :
    call.outcome = (.error failure, w.updateStatus call.session Status.clearBusy) := by
  have follows : call.outcome = _ := call.outcome_follows
  rw [admitted] at follows
  dsimp only at follows
  rw [follows, Session.withBusy_of_idle (Operation.available_of_admitted admitted).2]
  exact congrArg (fun done : Except Failure Unit × World H E =>
    (done.1, done.2.updateStatus call.session Status.clearBusy))
    (Action.bind_of_error failed)

theorem outcome_of_made {w : World H E} (made : call.creating.run call.busy = (.ok (), w)) :
    call.outcome = (.ok (), (call.record w).updateStatus call.session Status.clearBusy) := by
  have follows : call.outcome = _ := call.outcome_follows
  rw [admitted] at follows
  dsimp only at follows
  rw [follows, Session.withBusy_of_idle (Operation.available_of_admitted admitted).2]
  exact congrArg (fun done : Except Failure Unit × World H E =>
    (done.1, done.2.updateStatus call.session Status.clearBusy))
    (Action.bind_of_ok made)

theorem unrecorded_of_disconnected
    (disconnected : (call.world.session call.session).connected = false) : call.Unrecorded := by
  have failed := call.creating_of_disconnected (call.connected_busy.trans disconnected)
  have outcome := outcome_of_failed admitted failed
  refine ⟨⟨_, congrArg Prod.fst outcome⟩, by rw [outcome]; rfl, by rw [outcome]; rfl, ?_⟩
  rw [outcome, World.listings_updateStatus, listings_busy]
  rfl

variable (connected : (call.world.session call.session).connected = true)
include connected

theorem unrecorded_of_fault {fault : EngineFault}
    (refused : E.createModule call.session call.name call.eponymous call.world.store =
      .error fault) : call.Unrecorded := by
  have failed := call.creating_of_connected (call.connected_busy.trans connected)
  rw [refused] at failed
  have outcome := outcome_of_failed admitted failed
  refine ⟨⟨_, congrArg Prod.fst outcome⟩, by rw [outcome]; rfl, by rw [outcome]; rfl, ?_⟩
  rw [outcome, World.listings_updateStatus, World.listings_borrowers _ (· - 1),
    World.listings_updateStatus, listings_lent]
  · rfl
  · rfl

theorem recorded_of_created {created : E.Store}
    (accepted : E.createModule call.session call.name call.eponymous call.world.store =
      .ok created) : call.Recorded := by
  have made := call.creating_of_connected (call.connected_busy.trans connected)
  rw [accepted] at made
  have outcome := outcome_of_made admitted made
  refine ⟨⟨values, admitted⟩, connected, congrArg Prod.fst outcome, ?_, ?_, ?_⟩
  · rw [outcome, accepted]
    rfl
  · rw [outcome]
    rfl
  · rw [outcome, World.listings_updateStatus, listings_record, World.listings_borrowers _ (· - 1)]
    · exact congrArg (List.modify · call.session _) call.listings_lent
    · rfl

end Admitted

/-- Every call is recorded or not, and succeeds just if it is. -/
theorem recorded_or_unrecorded (call : Registration H E) : call.Recorded ∨ call.Unrecorded := by
  cases admitted : call.admitted with
  | error failure => exact .inr (unrecorded_of_refused admitted)
  | ok values =>
      cases connected : (call.world.session call.session).connected with
      | false => exact .inr (unrecorded_of_disconnected admitted connected)
      | true =>
          cases made : E.createModule call.session call.name call.eponymous call.world.store with
          | error fault => exact .inr (unrecorded_of_fault admitted connected made)
          | ok created => exact .inl (recorded_of_created admitted connected made)

theorem Recorded.succeeds (recorded : call.Recorded) : call.succeeds = true := by
  unfold Registration.succeeds
  rw [recorded.succeeded]
  rfl

theorem Unrecorded.fails (unrecorded : call.Unrecorded) : call.succeeds = false := by
  obtain ⟨failure, failed⟩ := unrecorded.failed
  unfold Registration.succeeds
  rw [failed]
  rfl

/-- A call opens and closes no session, and the engine may keep from showing it. -/
theorem alike {view : E.Store → τ} (engine : E.Keeps view) (call : Registration H E) :
    call.world.Alike view call.outcome.2 := by
  rcases call.recorded_or_unrecorded with recorded | unrecorded
  · refine ⟨recorded.registry, ?_, engine.createModule recorded.created⟩
    rw [World.standings_of_listings, World.standings_of_listings, recorded.listings]
    exact map_modify_of_same (f := Listing.add call.name call.factory) (fun _ => rfl) _ _
  · refine ⟨unrecorded.registry, ?_, congrArg view unrecorded.store⟩
    rw [World.standings_of_listings, World.standings_of_listings, unrecorded.listings]

end Registration

end RowSource
