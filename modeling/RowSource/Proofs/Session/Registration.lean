import RowSource.Proofs.Session.Course

/-!
# Logs and records

What the sessions have on record, and what the engine knows, comes of the calls that registered a
table. A log of such calls accounts for the records of a later world if they are those of the calls that
succeeded.
-/

namespace RowSource

variable {H : Host} {E : Engine} {τ : Type}

/-! ### What sessions record -/

/-- What becomes of a listing when nothing is registered. -/
structure Listing.Keeps {F : Type} (before after : Listing F) : Prop where
  names : after.names = before.names
  modules : after.modules = before.modules
  connected : after.connected = true → before.connected = true
  held : (before.isOpen = true → before.connected = true) →
    after.isOpen = true → after.connected = true

theorem Listing.Keeps.refl {F : Type} (listing : Listing F) : listing.Keeps listing :=
  ⟨rfl, rfl, id, id⟩

namespace World

theorem length_of_listings {w v : World H E} (same : v.listings = w.listings) :
    v.sessions.length = w.sessions.length := by
  have lengths := congrArg List.length same
  rwa [listings, listings, List.length_map, List.length_map] at lengths

theorem listing_of_modify {w v : World H E} {id : Nat} {g : Listing H.Factory → Listing H.Factory}
    (changed : v.listings = w.listings.modify id g) (present : id < w.sessions.length)
    (other : Nat) : (v.session other).listing =
      if id = other then g (w.session other).listing else (w.session other).listing := by
  have read (u : World H E) :
      (u.session other).listing = u.listings[other]?.getD (Session.absent H).listing := by
    unfold session listings
    rw [List.getD_eq_getElem?_getD, List.getElem?_map]
    cases u.sessions[other]? <;> rfl
  rw [read, read, changed, List.getElem?_modify]
  by_cases here : id = other
  · have there : w.listings[other]? = some (w.sessions[id].listing) := by
      rw [listings, List.getElem?_map, ← here, List.getElem?_eq_getElem present]
      rfl
    simp [here, there]
  · cases w.listings[other]? <;> simp [here]

theorem session_of_beyond {w : World H E} {id : Nat} (beyond : w.sessions.length ≤ id) :
    w.session id = Session.absent H := by
  rw [session, List.getD_eq_getElem?_getD, List.getElem?_eq_none beyond]
  rfl

/-- Open sessions have their connections. -/
def Held (w : World H E) : Prop :=
  ∀ id, (w.status id).isOpen = true → (w.session id).connected = true

end World

namespace Registration

variable {call : Registration H E}

/-- The calls of a log that have succeeded on a session. -/
def accepted (id : Nat) (log : List (Registration H E)) : List (Registration H E) :=
  log.filter fun call => call.session = id ∧ call.succeeds

theorem accepted_append (id : Nat) (first second : List (Registration H E)) :
    accepted id (first ++ second) = accepted id first ++ accepted id second :=
  List.filter_append ..

theorem Recorded.accepted (recorded : call.Recorded) (id : Nat) :
    accepted id [call] = if call.session = id then [call] else [] := by
  unfold Registration.accepted
  rw [List.filter_singleton, recorded.succeeds]
  by_cases here : call.session = id <;> simp [here]

theorem Unrecorded.accepted (unrecorded : call.Unrecorded) (id : Nat) : accepted id [call] = [] := by
  unfold Registration.accepted
  rw [List.filter_singleton, unrecorded.fails]
  simp

end Registration

/-! ### What the engine knows -/

/-- What an engine knows of the modules of each connection. It is told of a module when that is made,
begins anew when a connection is opened, and may forget what it knows of one that is released. -/
structure Engine.ModuleTable (E : Engine) (τ : Type) where
  known : E.Store → Nat → τ
  fresh : τ
  told : String → Bool → τ → τ
  openDatabase {id : Nat} {path : String} {options : Options} {store opened : E.Store} :
    E.openDatabase id path options store = .ok opened →
      ∀ other, known opened other = if other = id then fresh else known store other
  createModule {id : Nat} {name : String} {eponymous : Bool} {store created : E.Store} :
    E.createModule id name eponymous store = .ok created →
      ∀ other, known created other =
        if other = id then told name eponymous (known store other) else known store other
  release {id other : Nat} (different : other ≠ id) (store : E.Store) :
    known (E.release id store) other = known store other
  compile (id : Nat) (text : String) : (E.compile id text).Keeps known
  refresh (id : Nat) (store : E.Store) : known (E.refresh id store) = known store
  execute (id : Nat) (statement : E.Statement) (values : List SqlValue) :
    (E.execute id statement values).Keeps known

namespace Engine.ModuleTable

variable (table : E.ModuleTable τ)

theorem statementsKeep : E.StatementsKeep table.known :=
  ⟨table.compile, table.refresh, table.execute⟩

/-- What is known when there has been told of some calls. -/
def after (known : τ) (calls : List (Registration H E)) : τ :=
  calls.foldl (fun known call => table.told call.name call.eponymous known) known

open Registration

/-- The successful calls of a log are what a later world has on record beyond an earlier one. -/
structure Accounts (log : List (Registration H E)) (w v : World H E) : Prop where
  grows : w.sessions.length ≤ v.sessions.length
  held : w.Held → v.Held
  names (id : Nat) : (v.session id).moduleNames =
    (w.session id).moduleNames ++ (accepted id log).map key
  modules (id : Nat) : (v.session id).modules =
    (w.session id).modules ++ (accepted id log).map module
  /-- What the engine knows of a connection it knew before, or has learnt since it was opened. -/
  known (id : Nat) : (v.session id).connected = true →
    ((w.session id).connected = true ∧
      table.known v.store id = table.after (table.known w.store id) (accepted id log)) ∨
    (w.sessions.length ≤ id ∧
      table.known v.store id = table.after table.fresh (accepted id log))

namespace Accounts

variable {table} {w v u : World H E} {first second : List (Registration H E)}

theorem of_kept (grows : w.sessions.length ≤ v.sessions.length)
    (kept : ∀ id, (w.session id).listing.Keeps (v.session id).listing)
    (known : ∀ id, (v.session id).connected = true →
      table.known v.store id = table.known w.store id) : table.Accounts [] w v where
  grows := grows
  held held id := (kept id).held (held id)
  names id := (kept id).names.trans (List.append_nil _).symm
  modules id := (kept id).modules.trans (List.append_nil _).symm
  known id connected := .inl ⟨(kept id).connected connected, known id connected⟩

theorem of_same (listings : v.listings = w.listings)
    (known : table.known v.store = table.known w.store) : table.Accounts [] w v := by
  have lengths := World.length_of_listings listings
  refine of_kept (Nat.le_of_eq lengths.symm) (fun id => ?_) fun id _ => congrFun known id
  rw [World.listing_of_listings listings id]
  exact .refl _

theorem refl (w : World H E) : table.Accounts [] w w := of_same rfl rfl

/-- No call has succeeded on a session that is not there. -/
theorem accepted_of_absent (accounts : table.Accounts first w v) {id : Nat}
    (absent : v.sessions.length ≤ id) : accepted id first = [] := by
  have names := accounts.names id
  rw [World.session_of_beyond absent] at names
  have nil := List.append_eq_nil_iff.mp names.symm
  exact List.map_eq_nil_iff.mp nil.2

theorem trans (before : table.Accounts first w v) (after : table.Accounts second v u) :
    table.Accounts (first ++ second) w u where
  grows := Nat.le_trans before.grows after.grows
  held held := after.held (before.held held)
  names id := by
    rw [after.names, before.names, accepted_append, List.map_append, List.append_assoc]
  modules id := by
    rw [after.modules, before.modules, accepted_append, List.map_append, List.append_assoc]
  known id connected := by
    rw [accepted_append]
    rcases after.known id connected with ⟨connected, learnt⟩ | ⟨absent, learnt⟩
    · rcases before.known id connected with ⟨connected, earlier⟩ | ⟨absent, earlier⟩
      · refine .inl ⟨connected, ?_⟩
        rw [learnt, earlier, ModuleTable.after, ModuleTable.after, ModuleTable.after,
          List.foldl_append]
      · refine .inr ⟨absent, ?_⟩
        rw [learnt, earlier, ModuleTable.after, ModuleTable.after, ModuleTable.after,
          List.foldl_append]
    · refine .inr ⟨Nat.le_trans before.grows absent, ?_⟩
      rw [learnt, before.accepted_of_absent absent, List.nil_append]

theorem opened {path : String} {options : Options} {store : E.Store}
    (opened : E.openDatabase w.sessions.length path options w.store = .ok store) :
    table.Accounts [] w (w.opened path options store) := by
  have session (id : Nat) := w.session_opened path options store id
  have blank (id : Nat) :
      ((w.opened path options store).session id).moduleNames = (w.session id).moduleNames ∧
        ((w.opened path options store).session id).modules = (w.session id).modules := by
    rw [session]
    by_cases new : id = w.sessions.length
    · rw [if_pos new, World.session_of_beyond (Nat.le_of_eq new.symm)]
      exact ⟨rfl, rfl⟩
    · rw [if_neg new]
      exact ⟨rfl, rfl⟩
  refine ⟨?_, fun held id opened => ?_, fun id => (blank id).1.trans (List.append_nil _).symm,
    fun id => (blank id).2.trans (List.append_nil _).symm, fun id connected => ?_⟩
  · unfold World.opened
    rw [List.length_append]
    exact Nat.le_add_right _ _
  · rw [World.status, session] at opened
    rw [session]
    by_cases new : id = w.sessions.length
    · rw [if_pos new]
      rfl
    · rw [if_neg new] at opened ⊢
      exact held id opened
  · have known : table.known (w.opened path options store).store id = _ :=
      table.openDatabase opened id
    rw [session] at connected
    by_cases new : id = w.sessions.length
    · rw [if_pos new] at known
      exact .inr ⟨Nat.le_of_eq new.symm, known⟩
    · rw [if_neg new] at connected known
      exact .inl ⟨connected, known⟩

theorem shut (id : Nat) (w : World H E) : table.Accounts [] w (w.shut id) := by
  refine of_kept (Nat.le_of_eq (List.length_modify ..).symm) (fun other => ?_) fun _ _ => rfl
  unfold World.shut World.updateStatus
  rw [World.session_updateSession]
  split
  · exact ⟨rfl, rfl, fun connected => connected, fun _ opened => nomatch opened⟩
  · exact .refl _

theorem letGo {id : Nat} (closed : (w.status id).isOpen = false) :
    table.Accounts [] w (w.letGo id) := by
  unfold World.letGo
  split
  · refine of_kept (Nat.le_of_eq (List.length_modify ..).symm) (fun other => ?_)
      fun other connected => ?_
    · rw [World.session_updateSession]
      split
      · rename_i here
        obtain ⟨rfl, _⟩ := here
        refine ⟨rfl, rfl, fun connected => (nomatch connected), fun _ opened => ?_⟩
        exact absurd opened (Bool.eq_false_iff.mp closed)
      · exact .refl _
    · have parted := World.session_updateSession_of_absent (g := Session.connected)
        (f := fun s => { s with connected := false, kept := [] }) rfl
        (w.updateStore (E.release id)) id other
      rw [parted] at connected
      by_cases same : other = id
      · rw [if_pos same] at connected
        cases connected
      · exact table.release same w.store
  · exact .refl w

theorem forsake (ids : List Nat) (w : World H E) : table.Accounts [] w (w.forsake ids) := by
  have abandoned : table.Accounts [] w (w.abandon ids) := by
    induction ids generalizing w with
    | nil => exact .refl w
    | cons id rest ih =>
        have closed : ((w.shut id).status id).isOpen = false := by
          have left := ((w.abandoned_shut id).2 id).1
          simpa using left
        exact ((shut id w).trans (letGo closed)).trans (ih _)
  have same : table.Accounts [] (w.abandon ids) (w.forsake ids) := of_same rfl rfl
  exact abandoned.trans same

theorem of_unrecorded {call : Registration H E} (unrecorded : call.Unrecorded) :
    table.Accounts [call] call.world call.outcome.2 := by
  have same : table.Accounts [] call.world call.outcome.2 :=
    of_same unrecorded.listings (congrArg table.known unrecorded.store)
  refine ⟨same.grows, same.held, fun id => ?_, fun id => ?_, fun id connected => ?_⟩
  · rw [unrecorded.accepted]
    exact same.names id
  · rw [unrecorded.accepted]
    exact same.modules id
  · rw [unrecorded.accepted]
    exact same.known id connected

theorem of_recorded {call : Registration H E} (recorded : call.Recorded) :
    table.Accounts [call] call.world call.outcome.2 := by
  have present := World.present_of_connected recorded.connected
  have listing (id : Nat) := World.listing_of_modify recorded.listings present id
  have known := table.createModule recorded.created
  have isOpen (id : Nat) : (call.outcome.2.status id).isOpen = (call.world.status id).isOpen :=
    (congrArg Listing.isOpen (listing id)).trans (by split <;> rfl)
  have connected (id : Nat) :
      (call.outcome.2.session id).connected = (call.world.session id).connected :=
    (congrArg Listing.connected (listing id)).trans (by split <;> rfl)
  refine ⟨?_, fun held id opened => ?_, fun id => ?_, fun id => ?_, fun id still => ?_⟩
  · have lengths := congrArg List.length recorded.listings
    rw [List.length_modify, World.listings, World.listings, List.length_map, List.length_map]
      at lengths
    exact Nat.le_of_eq lengths.symm
  · rw [isOpen] at opened
    exact (connected id).trans (held id opened)
  · refine (congrArg Listing.names (listing id)).trans ?_
    rw [recorded.accepted]
    split
    · rfl
    · exact (List.append_nil _).symm
  · refine (congrArg Listing.modules (listing id)).trans ?_
    rw [recorded.accepted]
    split
    · rfl
    · exact (List.append_nil _).symm
  · refine .inl ⟨(connected id).symm.trans still, ?_⟩
    rw [recorded.accepted, known id]
    by_cases here : call.session = id
    · rw [if_pos here, if_pos here.symm]
      rfl
    · rw [if_neg here, if_neg (Ne.symm here)]
      rfl

theorem call (call : Registration H E) : table.Accounts [call] call.world call.outcome.2 := by
  rcases call.recorded_or_unrecorded with recorded | unrecorded
  · exact of_recorded recorded
  · exact of_unrecorded unrecorded

/-! ### Sessions come and go -/

theorem openSession (path : String) (options : Options) (w : World H E) :
    table.Accounts [] w ((Session.openSession path options).run w).2 := by
  rw [Session.openSession_run]
  cases made : E.openDatabase w.sessions.length path options w.store with
  | error fault => exact .refl w
  | ok store => exact opened made

theorem close (id : Nat) (w : World H E) :
    table.Accounts [] w ((Session.close id).run w).2 := by
  rw [Session.close_run]
  split
  · split
    · exact forsake [id] w
    · exact .refl w
  · exact .refl w

theorem drop (id : Nat) (w : World H E) : table.Accounts [] w ((Session.drop id).run w).2 := by
  rw [Session.drop_run]
  exact forsake [id] w

theorem closeAll (w : World H E) : table.Accounts [] w (Session.closeAll.run w).2 := by
  rw [Session.closeAll_run]
  exact forsake w.registry w

end Accounts

/-! ### Chronicles -/

/-- A log that accounts for the records of a later world, and at each of its calls for those there. -/
structure Chronicle (log : List (Registration H E)) (w v : World H E) : Prop where
  accounts : table.Accounts log w v
  calls : ∀ before call after, log = before ++ call :: after → table.Accounts before w call.world

namespace Chronicle

variable {table} {w v u : World H E} {first second : List (Registration H E)}

theorem of_accounts (accounts : table.Accounts [] w v) : table.Chronicle [] w v :=
  ⟨accounts, fun _ _ _ split => absurd split.symm (by simp)⟩

theorem call (call : Registration H E) : table.Chronicle [call] call.world call.outcome.2 := by
  refine ⟨.call call, fun before made after split => ?_⟩
  cases before with
  | nil =>
      cases split
      exact .refl _
  | cons head before =>
      exact absurd (congrArg List.length split) (by simp)

theorem trans (before : table.Chronicle first w v) (after : table.Chronicle second v u) :
    table.Chronicle (first ++ second) w u := by
  refine ⟨before.accounts.trans after.accounts, fun earlier made later split => ?_⟩
  rcases List.append_eq_append_iff.mp split with ⟨more, rfl, rest⟩ | ⟨more, rfl, rest⟩
  · exact before.accounts.trans (after.calls more made later rest)
  · cases more with
    | nil =>
        have here := before.accounts.trans (after.calls [] made later rest.symm)
        rwa [List.append_nil, List.append_nil] at here
    | cons head more =>
        cases rest
        exact before.calls earlier made more rfl

end Chronicle

/-- A world comes after another one, with the calls on the way. -/
structure Recounts (w v : World H E) : Prop where
  leads : w.Leads (fun _ => True) v
  chronicle : ∃ log, table.Chronicle log w v

/-- Whatever comes after a world recounts the calls that were made since. -/
theorem evolution : Evolution table.known (table.Recounts (H := H)) := by
  have leads : Evolution _ (World.Leads fun _ : World H E => True) :=
    World.Leads.evolution lawless E.keeps_nothing
  have still {w v : World H E} (since : w.Leads (fun _ => True) v)
      (accounts : table.Accounts [] w v) : table.Recounts w v :=
    ⟨since, [], .of_accounts accounts⟩
  exact
    { refl := fun w => still (leads.refl w) (.refl w)
      trans := fun {w v u} first second => by
        obtain ⟨early, before⟩ := first.chronicle
        obtain ⟨late, after⟩ := second.chronicle
        exact ⟨first.leads.trans second.leads, early ++ late, before.trans after⟩
      grows := fun recounts => recounts.leads.grows
      lost := fun recounts => leads.lost recounts.leads
      unmoved := fun unmoved => still (leads.unmoved ⟨unmoved.registry, unmoved.listings, rfl⟩)
        (.of_same unmoved.listings unmoved.seen)
      openSession := fun path options w => still (leads.openSession path options w)
        (.openSession path options w)
      close := fun id w => still (leads.close id w) (.close id w)
      drop := fun id w => still (leads.drop id w) (.drop id w)
      closeAll := fun w => still (leads.closeAll w) (.closeAll w)
      registerTable := fun id name factory eponymous w =>
        ⟨leads.registerTable id name factory eponymous w, _,
          .call ⟨id, name, factory, eponymous, w⟩⟩ }

end Engine.ModuleTable

end RowSource
