import Mathlib.Data.List.Induction
import Mathlib.Data.List.Nodup
import RowSource.Proofs.Session.Precedence
import RowSource.Proofs.Session.Registration.Logs

/-!
# Names are registered once

After every run of host code a session has on record just the calls that succeeded, in their order and
under names that differ in more than letter case; and the engine has been told of the same. A call that
fails leaves no trace of itself there, so a name that was turned down can be registered later.
-/

namespace RowSource

variable {H : Host} {E : Engine} {α τ : Type}

theorem World.Held.initial (memory : H.Memory) : ({ memory := memory } : World H E).Held :=
  fun _ opened => nomatch opened

namespace Registration

variable {call : Registration H E} {log : List (Registration H E)} {id : Nat}

/-- What a call comes to after some calls have succeeded on its session. -/
structure Answers (call : Registration H E) (earlier : List (Registration H E)) : Prop where
  /-- A name that is on record is refused, and its record stays in force as it is. -/
  repeated : call.Allowed → call.key ∈ earlier.map key →
    call.outcome = (.error (.invalidArgument ("A virtual table module named \"" ++ call.name ++
      "\" is already registered")), call.world)
  failed : ∀ failure, call.outcome.1 = .error failure →
    call.outcome.2.store = call.world.store ∧ call.outcome.2.listings = call.world.listings
  fresh : call.Allowed → call.key ∉ earlier.map key → ∀ created,
    E.createModule call.session call.name call.eponymous call.world.store = .ok created →
      call.outcome.1 = .ok () ∧ call.outcome.2.store = created

theorem admitted_of_available
    (opened : (call.world.status call.session).isOpen = true)
    (idle : (call.world.status call.session).isBusy = false) :
    call.admitted = (do
      (call.world.status call.session).requireNoIterators
      if (call.world.session call.session).moduleNames.contains call.key then
        throw (.invalidArgument
          ("A virtual table module named \"" ++ call.name ++ "\" is already registered"))
      else return []) := by
  have opens : (call.world.session call.session).status.requireOpen = .ok () := if_pos opened
  have rests : (call.world.session call.session).status.requireNotBusy = .ok () :=
    if_neg (Bool.eq_false_iff.mp idle)
  unfold admitted operation Operation.admitted
  dsimp only [Operation.session]
  rw [opens, rests]
  rfl

theorem admitted_of_allowed (allowed : call.Allowed) :
    call.admitted =
      if (call.world.session call.session).moduleNames.contains call.key then
        .error (.invalidArgument
          ("A virtual table module named \"" ++ call.name ++ "\" is already registered"))
      else .ok [] := by
  obtain ⟨opened, idle, quiet⟩ := allowed
  have ends : (call.world.status call.session).requireNoIterators = .ok () := if_pos quiet
  rw [admitted_of_available opened idle, ends]
  rfl

theorem allowed_of_admitted {values : List SqlValue} (admitted : call.admitted = .ok values) :
    call.Allowed := by
  obtain ⟨opened, idle⟩ := Operation.available_of_admitted admitted
  refine ⟨opened, idle, Decidable.byContradiction fun active => ?_⟩
  have stops : (call.world.status call.session).requireNoIterators = .error _ := if_neg active
  rw [admitted_of_available opened idle, stops] at admitted
  cases admitted

theorem answers {earlier : List (Registration H E)} (held : call.world.Held)
    (names : (call.world.session call.session).moduleNames = earlier.map key) :
    call.Answers earlier where
  repeated allowed known := by
    have refused := admitted_of_allowed allowed
    rw [names, if_pos (List.contains_iff_mem.mpr known)] at refused
    exact outcome_of_refused refused
  failed failure failed := by
    rcases call.recorded_or_unrecorded with recorded | unrecorded
    · rw [recorded.succeeded] at failed
      cases failed
    · exact ⟨unrecorded.store, unrecorded.listings⟩
  fresh allowed unknown created made := by
    have admitted := admitted_of_allowed allowed
    rw [names, if_neg (mt List.contains_iff_mem.mp unknown)] at admitted
    have recorded := recorded_of_created admitted (held _ allowed.1) made
    have same := recorded.created
    rw [made] at same
    exact ⟨recorded.succeeded, (Except.ok.inj same).symm⟩

theorem Recorded.fresh (recorded : call.Recorded) :
    call.key ∉ (call.world.session call.session).moduleNames := by
  intro known
  obtain ⟨values, admitted⟩ := recorded.admitted
  rw [admitted_of_allowed (allowed_of_admitted admitted),
    if_pos (List.contains_iff_mem.mpr known)] at admitted
  cases admitted

theorem fresh_of_succeeds (succeeds : call.succeeds = true) :
    call.key ∉ (call.world.session call.session).moduleNames := by
  rcases call.recorded_or_unrecorded with recorded | unrecorded
  · exact recorded.fresh
  · rw [unrecorded.fails] at succeeds
    cases succeeds

/-- The names of a log differ if each was new when it was accepted. -/
theorem nodup_accepted (id : Nat) (fresh : ∀ before call after, log = before ++ call :: after →
      call.succeeds = true → call.key ∉ (accepted call.session before).map key) :
    ((accepted id log).map key).Nodup := by
  induction log using List.reverseRecOn with
  | nil => exact List.nodup_nil
  | append_singleton earlier last ih =>
      have distinct := ih fun before call after split =>
        fresh before call (after ++ [last]) (by rw [split, List.append_assoc, List.cons_append])
      rw [accepted_append, List.map_append]
      by_cases counts : last.session = id ∧ last.succeeds = true
      · have new := fresh earlier last [] rfl counts.2
        rw [counts.1] at new
        have only : accepted id [last] = [last] := List.filter_cons_of_pos (decide_eq_true counts)
        rw [only, List.map_singleton]
        exact List.concat_eq_append ▸ distinct.concat new
      · have none : accepted id [last] = [] := List.filter_cons_of_neg (by simpa using counts)
        rw [none, List.map_nil, List.append_nil]
        exact distinct

theorem find?_module {calls : List (Registration H E)} (distinct : (calls.map key).Nodup)
    (member : call ∈ calls) :
    (calls.map module).find? (fun known => sameName known.name call.name) = some call.module := by
  induction calls with
  | nil => exact absurd member List.not_mem_nil
  | cons first rest ih =>
      rw [List.map_cons, List.nodup_cons] at distinct
      rw [List.map_cons, List.find?_cons]
      rcases List.mem_cons.mp member with rfl | later
      · have same : sameName call.module.name call.name = true := beq_self_eq_true _
        rw [same]
      · have other : sameName first.module.name call.name = false := by
          refine beq_eq_false_iff_ne.mpr fun same => ?_
          have twice : call.key = first.key := Eq.symm same
          exact distinct.1 (twice ▸ List.mem_map_of_mem later)
        rw [other]
        exact ih distinct.2 later

end Registration

namespace Engine.ModuleTable

open Registration

/-- What there is on record of a session when some calls have succeeded on it. -/
structure Records (table : E.ModuleTable τ) (id : Nat) (calls : List (Registration H E))
    (w : World H E) : Prop where
  distinct : (calls.map key).Nodup
  names : (w.session id).moduleNames = calls.map key
  modules : (w.session id).modules = calls.map module
  inForce : ∀ call ∈ calls,
    (w.session id).modules.find? (fun known => sameName known.name call.name) = some call.module
  known : (w.session id).connected = true →
    table.known w.store id = table.after table.fresh calls

/-- A log tells of the records in a world, of those at each of its calls, and of what these calls
came to; and it foretells what a call that is made now comes to. -/
structure Tells (table : E.ModuleTable τ) (log : List (Registration H E)) (w : World H E) :
    Prop where
  records (id : Nat) : table.Records id (accepted id log) w
  calls : ∀ before call after, log = before ++ call :: after →
    (∀ id, table.Records id (accepted id before) call.world) ∧
      call.Answers (accepted call.session before)
  next : ∀ call : Registration H E, call.world = w → call.Answers (accepted call.session log)

variable {table : E.ModuleTable τ} {memory : H.Memory} {log : List (Registration H E)}

theorem Accounts.records {w : World H E} (accounts : table.Accounts log { memory := memory } w)
    {id : Nat} (distinct : ((accepted id log).map key).Nodup) :
    table.Records id (accepted id log) w where
  distinct := distinct
  names := accounts.names id
  modules := accounts.modules id
  inForce call member := by
    rw [accounts.modules id]
    exact find?_module distinct member
  known connected := by
    rcases accounts.known id connected with ⟨before, _⟩ | ⟨_, learnt⟩
    · cases before
    · exact learnt

namespace Chronicle

variable {w : World H E} (chronicle : table.Chronicle log { memory := memory } w)
include chronicle

/-- No call of a log is accepted under a name that is on record. -/
theorem distinct (id : Nat) : ((accepted id log).map key).Nodup := by
  refine nodup_accepted id fun before call after split succeeds => ?_
  have names : (call.world.session call.session).moduleNames = _ :=
    (chronicle.calls before call after split).names call.session
  have fresh := fresh_of_succeeds succeeds
  rw [names] at fresh
  exact fresh

theorem tells : table.Tells log w where
  records id := chronicle.accounts.records (chronicle.distinct id)
  calls before call after split := by
    have accounts := chronicle.calls before call after split
    have earlier (id : Nat) : table.Records id (accepted id before) call.world := by
      have whole := chronicle.distinct id
      rw [split, accepted_append, List.map_append] at whole
      exact accounts.records whole.of_append_left
    exact ⟨earlier, answers (accounts.held (.initial memory)) (earlier _).names⟩
  next call here := by
    have recorded := chronicle.accounts.records (chronicle.distinct call.session)
    exact answers (here ▸ chronicle.accounts.held (.initial memory)) (here ▸ recorded.names)

end Chronicle

end Engine.ModuleTable

namespace HostCode.Admissible

variable {host : HostCode H E} (admissible : host.Admissible)
include admissible

/-- After every run, and whenever a call to register a table is made in it, however deep, the sessions
and the engine have on record just the calls that have succeeded, under different names. What a call
comes to depends on these records only, and not on the calls that have failed. So it is at every
moment from the beginning on at which host code runs: a call that is made then is the next that there
is to tell of, and what has been told goes on to be told, with the calls on the way, of every moment
that comes after. -/
theorem registered_once (table : E.ModuleTable τ) {depth : Nat} {action : Worldly H E α}
    (hosted : HostAction (host.callbacks depth) action) (memory : H.Memory) :
    let start : World H E := { memory := memory }
    (∃ log, Logs action start log ∧ table.Tells log (action start).2) ∧
      ∀ {inner : Nat} {frames : List Frame} {w : World H E}, host.Reaches start inner frames w →
        ∃ log, table.Tells log w ∧
          (∀ call : Registration H E, call.world = w →
            table.Tells (log ++ [call]) call.outcome.2) ∧
          ∀ v, host.Precedes w v → ∃ more, table.Tells (log ++ more) v := by
  intro start
  have served : table.Serves (host.callbacks depth) :=
    Engine.ModuleTable.serves_callbacks admissible depth
  obtain ⟨log, logs, chronicle⟩ := served.hosted hosted start
  refine ⟨⟨log, logs, chronicle.tells⟩, fun {inner frames w} reaches => ?_⟩
  have evolution : Evolution table.known (table.Recounts (H := H)) := table.evolution
  obtain ⟨recounts, _⟩ :=
    admissible.moments_along evolution table.statementsKeep (fun _ => rfl) reaches
  obtain ⟨earlier, told⟩ := recounts.chronicle
  refine ⟨earlier, told.tells, ?_, fun v precedes => ?_⟩
  · rintro call rfl
    exact (told.trans (.call call)).tells
  · have after := admissible.later_of_precedes evolution table.statementsKeep precedes
    obtain ⟨more, since⟩ := after.chronicle
    exact ⟨more, (told.trans since).tells⟩

end HostCode.Admissible

/-! ### A host that registers tables again and again -/

namespace Registrar

/-- An engine that remembers the modules of each connection. It makes no eponymous module for a
connection that has no other. -/
def engine : Engine where
  Store := Nat → List (String × Bool)
  Statement := String
  empty _ := []
  openDatabase id _ _ store := .ok fun other => if other = id then [] else store other
  release id store other := if other = id then [] else store other
  inTransaction _ _ := false
  createModule id name eponymous store :=
    if eponymous && (store id).isEmpty then .error (.failed 1 (some "too early"))
    else .ok fun other => if other = id then store other ++ [(name, eponymous)] else store other
  schemaDefect? _ := none
  compile _ text := return (text, "")
  info _ := { isEmpty := false, columns := [], readonly := true, parameters := 0 }
  isOutdated _ _ := false
  refresh _ store := store
  execute _ _ _ store := .ask (.connect "m" []) store id fun _ store => .finish (.ok ()) store
  changes _ _ := 0
  lastRowid _ _ := 0

def table : engine.ModuleTable (List (String × Bool)) where
  known store := store
  fresh := []
  told name eponymous modules := modules ++ [(name, eponymous)]
  openDatabase {id path options store opened} made other := by
    cases made
    rfl
  createModule {id name eponymous store created} made other := by
    by_cases refused : (eponymous && (store id).isEmpty) = true
    · exact nomatch made.symm.trans (if_pos refused)
    · cases made.symm.trans (if_neg refused)
      rfl
  release different store := if_neg different
  compile _ _ _ := rfl
  refresh _ _ := rfl
  execute _ _ _ _ := ⟨rfl, fun _ => rfl, fun _ _ => rfl⟩

/-- Host code remembers how its calls have failed. Its factories go by numbers. -/
abbrev host : Host where
  Memory := List (Option Failure)
  Factory := Nat
  Generator := Empty
  Stream := Empty

def remember {α : Type} (action : Action host engine α) : Worldly host engine Unit := do
  let result ← action.run
  modify fun w => { w with memory := w.memory ++ [Porter.failure? result] }

/-- The factories register tables on the session that asks for theirs, and on the next one. -/
def code : HostCode host engine where
  above _ :=
    { define := fun _ _ => do
        remember (Session.registerTable 0 "n" 5 false)
        remember (Session.registerTable 1 "n" 6 false)
        return .error (.message "no table today")
      generation :=
        { generate := fun generator _ => nomatch generator
          advance := fun stream => nomatch stream } }

theorem hosted_remember {C : Callbacks host engine} {α : Type} {action : Action host engine α}
    (hosted : HostAction C action.run) : HostAction C (remember action) :=
  .bind hosted fun result => .remember (· ++ [Porter.failure? result])

theorem admissible : code.Admissible := fun _ =>
  { define := fun _ _ => .bind (hosted_remember (.registerTable ..)) fun _ =>
      .bind (hosted_remember (.registerTable ..)) fun _ => .pure _
    generate := fun generator _ => nomatch generator
    advance := fun stream => nomatch stream }

/-- Opens two sessions, registers tables on one of them, and executes a batch that asks for one. -/
def visit : Worldly host engine Unit := do
  let _ ← (Session.openSession ":memory:" {}).run
  let _ ← (Session.openSession ":memory:" {}).run
  remember (Session.registerTable 0 "Series" 1 true)
  remember (Session.registerTable 0 "m" 2 false)
  remember (Session.registerTable 0 "series" 3 true)
  remember (Session.registerTable 0 "SERIES" 4 false)
  let _ ← (Session.exec (code.callbacks 1) 0 "SELECT * FROM m").run
  return ()

theorem hosted_visit : HostAction (code.callbacks 1) visit :=
  .bind (.openSession _ _) fun _ => .bind (.openSession _ _) fun _ =>
    .bind (hosted_remember (.registerTable ..)) fun _ =>
      .bind (hosted_remember (.registerTable ..)) fun _ =>
        .bind (hosted_remember (.registerTable ..)) fun _ =>
          .bind (hosted_remember (.registerTable ..)) fun _ => .bind (.exec _ _) fun _ => .pure _

/-- A name is free again after the engine has refused it, and taken when it is registered, in
whatever letters. Within the batch its session is busy, and another session is not. -/
theorem registered_once_visit :
    let ended := (visit { memory := [] }).2
    ended.memory = [some (.engine ⟨1, "too early"⟩), none, none,
        some (.invalidArgument "A virtual table module named \"SERIES\" is already registered"),
        some (.refused .busy), none] ∧
      ∃ log, Logs visit { memory := [] } log ∧
        (Registration.accepted 0 log).map Registration.key = ["m", "series"] ∧
        (Registration.accepted 1 log).map Registration.key = ["n"] := by
  intro ended
  have happened : ended.memory = [some (.engine ⟨1, "too early"⟩), none, none,
      some (.invalidArgument "A virtual table module named \"SERIES\" is already registered"),
      some (.refused .busy), none] := by
    decide +kernel
  obtain ⟨⟨log, logs, told⟩, _⟩ := admissible.registered_once table hosted_visit []
  refine ⟨happened, log, logs, (told.records 0).names.symm.trans ?_,
    (told.records 1).names.symm.trans ?_⟩
  · decide +kernel
  · decide +kernel

end Registrar

end RowSource
