import RowSource.Proofs.Plan.Bindings
import RowSource.Proofs.Scan.Recorded
import RowSource.Proofs.Session.Checks

/-!
# How a demand is failed

`Callbacks.Fails` lists the ways: host code throws, or what it supplied cannot be used. That list
is exact. The engine's own faults and the refusals of a session are not on it, and a plan that is turned
down fails no demand.
-/

namespace RowSource

variable {H : Host} {E : Engine}

/-- A demand for a table or a scan that there is none of. -/
def Demand.IsUnknown (tables scans : Nat) : Demand → Prop
  | .connect _ _ => False
  | .plan table _ | .openScan table => tables ≤ table
  | .start scan _ _ | .next scan | .isEnded scan | .column scan _ | .rowid scan => scans ≤ scan

namespace Callbacks

/-- The ways in which a demand fails, with the failure of each. -/
inductive Fails (C : Callbacks H E) (id : Nat) (scans : Scans H) (w : World H E) :
    Demand → Failure → Prop where
  | noModule {module : String} {args : List String} :
      (w.session id).modules.find? (fun known => sameName known.name module) = none →
      C.Fails id scans w (.connect module args)
        (.internal "virtual table module has no factory")
  | define {module : String} {args : List String} {known : TableModule H.Factory}
      {error : HostError} :
      (w.session id).modules.find? (fun known => sameName known.name module) = some known →
      (C.define known.factory args w).1 = .error error →
      C.Fails id scans w (.connect module args) (.host error)
  | tooWide {module : String} {args : List String} {known : TableModule H.Factory}
      {definition : Definition H.Generator} :
      (w.session id).modules.find? (fun known => sameName known.name module) = some known →
      (C.define known.factory args w).1 = .ok definition →
      maxParameters < definition.parameterNames.length →
      C.Fails id scans w (.connect module args)
        (.invalidDefinition known.name
          ("declares " ++ toString definition.parameterNames.length ++
            " parameters but at most " ++ toString maxParameters ++ " are supported"))
  | schema {module : String} {args : List String} {known : TableModule H.Factory}
      {definition : Definition H.Generator} {detail : String} :
      (w.session id).modules.find? (fun known => sameName known.name module) = some known →
      (C.define known.factory args w).1 = .ok definition →
      definition.parameterNames.length ≤ maxParameters →
      schemaDefect? E definition.schemaSql = some detail →
      C.Fails id scans w (.connect module args) (.declareSchema (known.tableName args) detail)
  | plan {table : Nat} {connected : ConnectedTable H.Generator} {constraints : List Constraint}
      {failure : Failure} :
      (w.session id).tables[table]? = some connected →
      Plan.make connected.parameterNames constraints = .error failure →
      failure ≠ .unusableConstraint →
      C.Fails id scans w (.plan table constraints) failure
  | arguments {number : Nat} {index : Int32} {values : List SqlValue}
      {scan : Scan H.Generator H.Stream} {failure : Failure} :
      scans[number]? = some scan →
      Plan.arguments index.toUInt32 scan.table.parameterNames.length values = .error failure →
      C.Fails id scans w (.start number index values) failure
  | generate {number : Nat} {index : Int32} {values : List SqlValue}
      {scan : Scan H.Generator H.Stream} {bound : List (Option SqlValue)} {error : HostError} :
      scans[number]? = some scan →
      Plan.arguments index.toUInt32 scan.table.parameterNames.length values = .ok bound →
      bound.any (fun value => value.any SqlValue.isNull) = false →
      (C.generation.generate scan.table.generator
        (Scan.hostArguments scan.table.integerMode bound) w).1 = .error error →
      C.Fails id scans w (.start number index values) (.host error)
  | firstAdvance {number : Nat} {index : Int32} {values : List SqlValue}
      {scan : Scan H.Generator H.Stream} {bound : List (Option SqlValue)} {stream : H.Stream}
      {after : World H E} {error : HostError} :
      scans[number]? = some scan →
      Plan.arguments index.toUInt32 scan.table.parameterNames.length values = .ok bound →
      bound.any (fun value => value.any SqlValue.isNull) = false →
      C.generation.generate scan.table.generator
        (Scan.hostArguments scan.table.integerMode bound) w = (.ok stream, after) →
      (C.generation.advance stream after).1.1 = .error error →
      C.Fails id scans w (.start number index values) (.host error)
  | advance {number : Nat} {scan : Scan H.Generator H.Stream} {stream : H.Stream}
      {error : HostError} :
      scans[number]? = some scan → scan.stream = some stream →
      (C.generation.advance stream w).1.1 = .error error →
      C.Fails id scans w (.next number) (.host error)
  | column {number position : Nat} {scan : Scan H.Generator H.Stream} {failure : Failure} :
      scans[number]? = some scan → scan.column position = .error failure →
      C.Fails id scans w (.column number position) failure
  | unknown {demand : Demand} :
      demand.IsUnknown (w.session id).tables.length scans.length →
      C.Fails id scans w demand (.internal "no such table or scan")

variable (C : Callbacks H E)

theorem next_error_iff (scan : Scan H.Generator H.Stream) (w : World H E) (failure : Failure) :
    ((scan.next C.generation) w).1.1 = .error failure ↔
      ∃ stream error, scan.stream = some stream ∧
        (C.generation.advance stream w).1.1 = .error error ∧ failure = .host error := by
  cases held : scan.stream with
  | none =>
      rw [Scan.next_of_no_stream _ held]
      constructor
      · intro failed
        cases failed
      · rintro ⟨stream, error, same, _⟩
        cases same
  | some stream =>
      rw [Scan.next_of_stream _ held]
      constructor
      · intro failed
        refine ⟨stream, ?_⟩
        rcases answered : C.generation.advance stream w with ⟨⟨advance, rest⟩, after⟩
        rw [answered] at failed
        rcases advance with error | (values | _)
        · cases failed
          exact ⟨error, rfl, rfl, rfl⟩
        · cases failed
        · cases failed
      · rintro ⟨other, error, same, failed, rfl⟩
        cases same
        rcases answered : C.generation.advance stream w with ⟨⟨advance, rest⟩, after⟩
        rw [answered] at failed
        cases failed
        rfl

/-! ### Connecting -/

section Connecting

variable {C} {id : Nat} {module : String} {args : List String} {w after : World H E}
  {known : TableModule H.Factory} {definition : Definition H.Generator}

theorem connect_of_noModule
    (found : (w.session id).modules.find? (fun known => sameName known.name module) = none) :
    C.connect id module args w = (.error (.internal "virtual table module has no factory"), w) := by
  unfold connect
  rw [Worldly.get_bind_apply, found]
  rfl

variable (found :
  (w.session id).modules.find? (fun known => sameName known.name module) = some known)
include found

theorem connect_of_refused {error : HostError}
    (refused : C.define known.factory args w = (.error error, after)) :
    C.connect id module args w = (.error (.host error), after) := by
  unfold connect
  rw [Worldly.get_bind_apply, found]
  dsimp only
  rw [Worldly.bind_apply, TableModule.connect_of_refused refused]
  rfl

variable (defined : C.define known.factory args w = (.ok definition, after))
include defined

theorem connect_of_tooWide (wide : maxParameters < definition.parameterNames.length) :
    C.connect id module args w =
      (.error (.invalidDefinition known.name
        ("declares " ++ toString definition.parameterNames.length ++
          " parameters but at most " ++ toString maxParameters ++ " are supported")), after) := by
  unfold connect
  rw [Worldly.get_bind_apply, found]
  dsimp only
  rw [Worldly.bind_apply, TableModule.connect_of_defined defined]
  unfold TableModule.accept
  rw [if_pos wide]
  rfl

variable (narrow : definition.parameterNames.length ≤ maxParameters)
include narrow

theorem connect_of_defect {detail : String}
    (defect : schemaDefect? E definition.schemaSql = some detail) :
    C.connect id module args w =
      (.error (.declareSchema (known.tableName args) detail), after) := by
  unfold connect
  rw [Worldly.get_bind_apply, found]
  dsimp only
  rw [Worldly.bind_apply, TableModule.connect_of_defined defined]
  unfold TableModule.accept
  rw [if_neg (Nat.not_lt.mpr narrow)]
  dsimp only
  rw [defect]
  rfl

theorem connect_of_declared (declared : schemaDefect? E definition.schemaSql = none) :
    ∃ answer table, C.connect id module args w = (.ok answer,
      after.updateSession id fun s => { s with tables := s.tables ++ [table] }) := by
  unfold connect
  rw [Worldly.get_bind_apply, found]
  dsimp only
  rw [Worldly.bind_apply, TableModule.connect_of_defined defined]
  unfold TableModule.accept
  rw [if_neg (Nat.not_lt.mpr narrow)]
  dsimp only
  rw [declared]
  exact ⟨_, _, rfl⟩

end Connecting

theorem connect_error_iff (id : Nat) (scans : Scans H) (module : String) (args : List String)
    (w : World H E) (failure : Failure) :
    (C.connect id module args w).1 = .error failure ↔
      C.Fails id scans w (.connect module args) failure := by
  constructor
  · intro failed
    cases found : (w.session id).modules.find? fun known => sameName known.name module with
    | none =>
        rw [connect_of_noModule found] at failed
        cases failed
        exact .noModule found
    | some known =>
        rcases defined : C.define known.factory args w with ⟨answer, after⟩
        cases answer with
        | error error =>
            rw [connect_of_refused found defined] at failed
            cases failed
            exact .define found (congrArg (·.1) defined)
        | ok definition =>
            rcases Nat.lt_or_ge maxParameters definition.parameterNames.length with wide | narrow
            · rw [connect_of_tooWide found defined wide] at failed
              cases failed
              exact .tooWide found (congrArg (·.1) defined) wide
            · cases declared : schemaDefect? E definition.schemaSql with
              | some detail =>
                  rw [connect_of_defect found defined narrow declared] at failed
                  cases failed
                  exact .schema found (congrArg (·.1) defined) narrow declared
              | none =>
                  obtain ⟨answer, table, connected⟩ :=
                    connect_of_declared found defined narrow declared
                  rw [connected] at failed
                  cases failed
  · intro fails
    cases fails with
    | noModule found =>
        rw [connect_of_noModule found]
    | define found refused =>
        rw [connect_of_refused found (Prod.ext refused rfl)]
    | tooWide found defined wide =>
        rw [connect_of_tooWide found (Prod.ext defined rfl) wide]
    | schema found defined narrow defect =>
        rw [connect_of_defect found (Prod.ext defined rfl) narrow defect]
    | unknown impossible =>
        exact impossible.elim

/-! ### Starting -/

theorem start_error_iff {scans : Scans H} {number : Nat} {scan : Scan H.Generator H.Stream}
    (listed : scans[number]? = some scan) (id : Nat) (index : Int32) (values : List SqlValue)
    (w : World H E) (failure : Failure) :
    ((scan.start C.generation index values) w).1.1 = .error failure ↔
      C.Fails id scans w (.start number index values) failure := by
  constructor
  · intro failed
    cases placed : Plan.arguments index.toUInt32 scan.table.parameterNames.length values with
    | error misplaced =>
        rw [Scan.start_of_misplaced _ placed] at failed
        cases failed
        exact .arguments listed placed
    | ok bound =>
        cases null : bound.any fun value => value.any SqlValue.isNull with
        | true =>
            rw [Scan.start_of_null _ placed null] at failed
            cases failed
        | false =>
            rcases generated : C.generation.generate scan.table.generator
              (Scan.hostArguments scan.table.integerMode bound) w with ⟨answer, after⟩
            cases answer with
            | error error =>
                rw [Scan.start_of_refused _ placed null generated] at failed
                cases failed
                exact .generate listed placed null (congrArg (·.1) generated)
            | ok stream =>
                rw [Scan.start_of_generated _ placed null generated, next_error_iff] at failed
                obtain ⟨held, error, same, refused, rfl⟩ := failed
                cases same
                exact .firstAdvance listed placed null generated refused
  · intro fails
    cases fails with
    | arguments found placed =>
        cases listed.symm.trans found
        rw [Scan.start_of_misplaced _ placed]
    | generate found placed full refused =>
        cases listed.symm.trans found
        rw [Scan.start_of_refused _ placed full (Prod.ext refused rfl)]
    | firstAdvance found placed full generated refused =>
        cases listed.symm.trans found
        rw [Scan.start_of_generated _ placed full generated, next_error_iff]
        exact ⟨_, _, rfl, refused, rfl⟩
    | unknown beyond =>
        rw [List.getElem?_eq_none beyond] at listed
        cases listed

/-! ### Planning -/

theorem plan_of_made {table : ConnectedTable H.Generator} {constraints : List Constraint}
    {made : Plan} (planned : Plan.make table.parameterNames constraints = .ok made) (id : Nat)
    (w : World H E) :
    (plan id table constraints w).1 = .ok (some (made.apply (IndexInfo.fresh constraints))) := by
  change Plan.make table.parameterNames (IndexInfo.fresh constraints).constraints = _ at planned
  unfold plan
  rw [Plan.answer_of_made planned]
  rfl

theorem plan_of_unusable {table : ConnectedTable H.Generator} {constraints : List Constraint}
    (unusable : Plan.make table.parameterNames constraints = .error .unusableConstraint) (id : Nat)
    (w : World H E) : (plan id table constraints w).1 = .ok none := by
  change Plan.make table.parameterNames (IndexInfo.fresh constraints).constraints = _ at unusable
  unfold plan
  rw [Plan.answer_of_failed unusable]
  rfl

theorem plan_of_failed {table : ConnectedTable H.Generator} {constraints : List Constraint}
    {failure : Failure} (failed : Plan.make table.parameterNames constraints = .error failure)
    (usable : failure ≠ .unusableConstraint) (id : Nat) (w : World H E) :
    (plan id table constraints w).1 = .error failure := by
  change Plan.make table.parameterNames (IndexInfo.fresh constraints).constraints = _ at failed
  unfold plan
  rw [Plan.answer_of_failed failed]
  cases failure with
  | unusableConstraint => exact absurd rfl usable
  | _ => rfl

theorem plan_error_iff (table : ConnectedTable H.Generator) (constraints : List Constraint)
    (id : Nat) (w : World H E) (failure : Failure) :
    (plan id table constraints w).1 = .error failure ↔
      Plan.make table.parameterNames constraints = .error failure ∧
        failure ≠ .unusableConstraint := by
  cases made : Plan.make table.parameterNames constraints with
  | ok made =>
      rw [plan_of_made (by assumption) id w]
      simp
  | error given =>
      by_cases unusable : given = .unusableConstraint
      · subst unusable
        rw [plan_of_unusable made id w]
        simp [eq_comm]
      · rw [plan_of_failed made unusable id w]
        simp only [Except.error.injEq]
        constructor
        · rintro rfl
          exact ⟨rfl, unusable⟩
        · exact fun given => given.1

/-! ### Serving -/

/-- A demand for something that there is none of fails for that reason alone. -/
theorem unknown_error_iff (id : Nat) (scans : Scans H) (demand : Demand) (w : World H E)
    (beyond : demand.IsUnknown (w.session id).tables.length scans.length) (failure : Failure) :
    (unknown : Except Failure demand.Reply) = .error failure ↔
      C.Fails id scans w demand failure := by
  constructor
  · intro failed
    cases failed
    exact .unknown beyond
  · intro fails
    cases fails with
    | unknown _ => rfl
    | noModule _ => exact beyond.elim
    | define _ _ => exact beyond.elim
    | tooWide _ _ _ => exact beyond.elim
    | schema _ _ _ _ => exact beyond.elim
    | plan found _ _ => cases (List.getElem?_eq_none beyond).symm.trans found
    | arguments found _ => cases (List.getElem?_eq_none beyond).symm.trans found
    | generate found _ _ _ => cases (List.getElem?_eq_none beyond).symm.trans found
    | firstAdvance found _ _ _ _ => cases (List.getElem?_eq_none beyond).symm.trans found
    | advance found _ _ => cases (List.getElem?_eq_none beyond).symm.trans found
    | column found _ => cases (List.getElem?_eq_none beyond).symm.trans found

/-- A demand is failed in the listed ways and in no other. -/
theorem serve_error_iff (id : Nat) (scans : Scans H) (demand : Demand) (w : World H E)
    (failure : Failure) :
    (C.serve id scans demand w).1.1 = .error failure ↔ C.Fails id scans w demand failure := by
  cases demand with
  | connect module args =>
      exact C.connect_error_iff id scans module args w failure
  | plan table constraints =>
      dsimp only [serve]
      rw [Worldly.get_bind_apply]
      cases found : (w.session id).tables[table]? with
      | none =>
          exact C.unknown_error_iff id scans (.plan table constraints) w
            (List.getElem?_eq_none_iff.mp found) failure
      | some connected =>
          refine (plan_error_iff connected constraints id w failure).trans ?_
          constructor
          · rintro ⟨failed, usable⟩
            exact .plan found failed usable
          · intro fails
            cases fails with
            | plan same failed usable =>
                cases found.symm.trans same
                exact ⟨failed, usable⟩
            | unknown beyond =>
                cases (List.getElem?_eq_none beyond).symm.trans found
  | openScan table =>
      dsimp only [serve]
      rw [Worldly.get_bind_apply]
      cases found : (w.session id).tables[table]? with
      | none =>
          exact C.unknown_error_iff id scans (.openScan table) w
            (List.getElem?_eq_none_iff.mp found) failure
      | some connected =>
          constructor
          · intro failed
            cases failed
          · intro fails
            cases fails with
            | unknown beyond =>
                cases (List.getElem?_eq_none beyond).symm.trans found
  | start number index values =>
      dsimp only [serve]
      cases found : scans[number]? with
      | none =>
          exact C.unknown_error_iff id scans (.start number index values) w
            (List.getElem?_eq_none_iff.mp found) failure
      | some scan =>
          exact C.start_error_iff found id index values w failure
  | next number =>
      dsimp only [serve]
      cases found : scans[number]? with
      | none =>
          exact C.unknown_error_iff id scans (.next number) w
            (List.getElem?_eq_none_iff.mp found) failure
      | some scan =>
          refine (C.next_error_iff scan w failure).trans ?_
          constructor
          · rintro ⟨stream, error, held, refused, rfl⟩
            exact .advance found held refused
          · intro fails
            cases fails with
            | advance same held refused =>
                cases found.symm.trans same
                exact ⟨_, _, held, refused, rfl⟩
            | unknown beyond =>
                cases (List.getElem?_eq_none beyond).symm.trans found
  | isEnded number =>
      dsimp only [serve]
      cases found : scans[number]? with
      | none =>
          exact C.unknown_error_iff id scans (.isEnded number) w
            (List.getElem?_eq_none_iff.mp found) failure
      | some scan =>
          constructor
          · intro failed
            cases failed
          · intro fails
            cases fails with
            | unknown beyond =>
                cases (List.getElem?_eq_none beyond).symm.trans found
  | column number position =>
      dsimp only [serve]
      cases found : scans[number]? with
      | none =>
          exact C.unknown_error_iff id scans (.column number position) w
            (List.getElem?_eq_none_iff.mp found) failure
      | some scan =>
          constructor
          · intro failed
            exact .column found failed
          · intro fails
            cases fails with
            | column same failed =>
                cases found.symm.trans same
                exact failed
            | unknown beyond =>
                cases (List.getElem?_eq_none beyond).symm.trans found
  | rowid number =>
      dsimp only [serve]
      cases found : scans[number]? with
      | none =>
          exact C.unknown_error_iff id scans (.rowid number) w
            (List.getElem?_eq_none_iff.mp found) failure
      | some scan =>
          constructor
          · intro failed
            cases failed
          · intro fails
            cases fails with
            | unknown beyond =>
                cases (List.getElem?_eq_none beyond).symm.trans found

end Callbacks

end RowSource
