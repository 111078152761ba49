import Mathlib.Data.List.Induction
import Mathlib.Data.List.Nodup
import RowSource.Proofs.Scan.Recorded
import RowSource.Table.Blueprint

/-!
# Blueprints that are accepted

A blueprint is defined for a connection if it meets four requirements, and is refused for the first of
them that it does not meet. A table that is defined always connects.
-/

namespace RowSource

namespace Blueprint

variable {G τ : Type}

/-- The names that a blueprint declares, in the order of their columns. -/
def names (b : Blueprint G) : List String := b.parameters ++ b.columns

/-! ### Repeated names -/

/-- A name is the first that equals one before it. -/
def FirstRepeat (names : List String) (name : String) : Prop :=
  ∃ before after, names = before ++ name :: after ∧ before.Nodup ∧ name ∈ before

theorem exists_firstRepeat {names : List String} (repeated : ¬names.Nodup) :
    ∃ name, FirstRepeat names name := by
  induction names using List.reverseRecOn with
  | nil => exact absurd List.nodup_nil repeated
  | append_singleton names last ih =>
      by_cases distinct : names.Nodup
      · have known : last ∈ names := by
          by_contra fresh
          exact repeated
            (distinct.append (List.nodup_singleton last) (List.disjoint_singleton.mpr fresh))
        exact ⟨last, names, [], rfl, distinct, known⟩
      · obtain ⟨name, before, after, rfl, earlier, known⟩ := ih distinct
        refine ⟨name, before, after ++ [last], ?_, earlier, known⟩
        rw [List.append_assoc, List.cons_append]

theorem firstRepeated_append {seen before : List String} (rest : List String)
    (distinct : (seen.reverse ++ before).Nodup) :
    firstRepeated seen (before ++ rest) = firstRepeated (before.reverse ++ seen) rest := by
  induction before generalizing seen with
  | nil => rfl
  | cons name before ih =>
      have fresh : ¬seen.contains name = true := by
        intro known
        have member := List.mem_reverse.mpr (List.contains_iff_mem.mp known)
        exact (List.nodup_append.mp distinct).2.2 name member name (List.mem_cons_self ..) rfl
      rw [List.cons_append, firstRepeated, if_neg fresh, List.reverse_cons, List.append_assoc]
      apply ih
      rw [List.reverse_cons, List.append_assoc]
      exact distinct

theorem firstRepeated_of_nodup {names : List String} (distinct : names.Nodup) :
    firstRepeated [] names = none := by
  have skipped : firstRepeated [] (names ++ []) = none := firstRepeated_append [] distinct
  rwa [List.append_nil] at skipped

theorem firstRepeated_of_firstRepeat {names : List String} {name : String}
    (first : FirstRepeat names name) : firstRepeated [] names = some name := by
  obtain ⟨before, after, rfl, distinct, known⟩ := first
  have skipped : firstRepeated [] (before ++ name :: after) =
      firstRepeated (before.reverse ++ []) (name :: after) := firstRepeated_append _ distinct
  rw [skipped, List.append_nil, firstRepeated]
  exact if_pos (List.contains_iff_mem.mpr (List.mem_reverse.mpr known))

theorem firstRepeated_eq_none_iff (names : List String) :
    firstRepeated [] names = none ↔ names.Nodup := by
  constructor
  · intro unfound
    by_contra repeated
    obtain ⟨name, first⟩ := exists_firstRepeat repeated
    rw [firstRepeated_of_firstRepeat first] at unfound
    cases unfound
  · exact firstRepeated_of_nodup

theorem firstRepeated_eq_some_iff (names : List String) (name : String) :
    firstRepeated [] names = some name ↔ FirstRepeat names name := by
  constructor
  · intro found
    have repeated : ¬names.Nodup := by
      intro distinct
      rw [firstRepeated_of_nodup distinct] at found
      cases found
    obtain ⟨other, first⟩ := exists_firstRepeat repeated
    rw [firstRepeated_of_firstRepeat first] at found
    cases found
    exact first
  · exact firstRepeated_of_firstRepeat

/-! ### Requirements -/

/-- What is asked of a blueprint, whatever it is connected as. -/
structure Sound (b : Blueprint G) : Prop where
  columns : b.columns ≠ []
  parameters : b.parameters.length ≤ 32
  names : b.names.Nodup

/-- The first of these that a blueprint does not meet, as it is told. -/
inductive Defect (b : Blueprint G) : String → Prop where
  | columns : b.columns = [] → Defect b "must declare at least one column"
  | parameters : b.columns ≠ [] → 32 < b.parameters.length →
      Defect b "declares more than 32 parameters"
  | names {name : String} : b.columns ≠ [] → b.parameters.length ≤ 32 →
      FirstRepeat b.names name → Defect b ("has multiple columns named \"" ++ name ++ "\"")

theorem defect?_of_columnless {b : Blueprint G} (columnless : b.columns = []) :
    b.defect? = some "must declare at least one column" := by
  unfold defect?
  rw [columnless]
  rfl

theorem defect?_of_crowded {b : Blueprint G} (columns : b.columns ≠ [])
    (crowded : 32 < b.parameters.length) :
    b.defect? = some "declares more than 32 parameters" := by
  unfold defect? maxParameters
  rw [if_neg (mt List.isEmpty_iff.mp columns), if_pos crowded]
  rfl

theorem defect?_of_few {b : Blueprint G} (columns : b.columns ≠ [])
    (few : b.parameters.length ≤ 32) :
    b.defect? = (firstRepeated [] b.names).map fun name =>
      "has multiple columns named \"" ++ name ++ "\"" := by
  unfold defect? maxParameters
  rw [if_neg (mt List.isEmpty_iff.mp columns), if_neg (Nat.not_lt.mpr few)]
  rfl

theorem defect?_eq_none_iff (b : Blueprint G) : b.defect? = none ↔ b.Sound := by
  constructor
  · intro sound
    have columns : b.columns ≠ [] := by
      intro columnless
      rw [defect?_of_columnless columnless] at sound
      cases sound
    have few : b.parameters.length ≤ 32 := by
      refine Nat.le_of_not_lt fun crowded => ?_
      rw [defect?_of_crowded columns crowded] at sound
      cases sound
    rw [defect?_of_few columns few, Option.map_eq_none_iff, firstRepeated_eq_none_iff] at sound
    exact ⟨columns, few, sound⟩
  · rintro ⟨columns, few, distinct⟩
    rw [defect?_of_few columns few, firstRepeated_of_nodup distinct]
    rfl

theorem defect?_eq_some_iff (b : Blueprint G) (reason : String) :
    b.defect? = some reason ↔ b.Defect reason := by
  constructor
  · intro unsound
    by_cases columns : b.columns = []
    · rw [defect?_of_columnless columns] at unsound
      cases unsound
      exact .columns columns
    · by_cases crowded : 32 < b.parameters.length
      · rw [defect?_of_crowded columns crowded] at unsound
        cases unsound
        exact .parameters columns crowded
      · have few := Nat.le_of_not_lt crowded
        rw [defect?_of_few columns few] at unsound
        obtain ⟨name, found, rfl⟩ := Option.map_eq_some_iff.mp unsound
        exact .names columns few ((firstRepeated_eq_some_iff _ _).mp found)
  · rintro (columnless | ⟨columns, crowded⟩ | ⟨columns, few, first⟩)
    · exact defect?_of_columnless columnless
    · exact defect?_of_crowded columns crowded
    · rw [defect?_of_few columns few, firstRepeated_of_firstRepeat first]
      rfl

/-! ### Connections -/

/-- The definition of a blueprint that is connected under the name of a module. -/
def definition (b : Blueprint G) (module : String) : Definition (PrefixedRows G) where
  schemaSql := b.schemaSql
  generator := ⟨module, b.columns.length, b.generator⟩
  parameterNames := b.parameters
  integerMode := b.integerMode
  directOnly := b.directOnly

/-- The errors that a connection is refused with. -/
inductive Refused (b : Blueprint G) : List String → HostError → Prop where
  | unnamed {args : List String} : args.length < 3 →
      Refused b args (.message "virtual table connected without a name")
  | arguments {module : String} {rest : List String} : 3 < (module :: rest).length →
      Refused b (module :: rest)
        (.failure (.invalidDefinition module "does not accept module arguments"))
  | unsound {module reason : String} {rest : List String} : (module :: rest).length = 3 →
      b.Defect reason →
      Refused b (module :: rest) (.failure (.invalidDefinition module reason))

theorem define_of_short (b : Blueprint G) {args : List String} (short : args.length < 3) :
    b.define args = .error (.message "virtual table connected without a name") := by
  match args, short with
  | [], _ => rfl
  | [_], _ => rfl
  | [_, _], _ => rfl

theorem define_of_more (b : Blueprint G) {module : String} {rest : List String}
    (more : 3 < (module :: rest).length) :
    b.define (module :: rest) =
      .error (.failure (.invalidDefinition module "does not accept module arguments")) := by
  match rest, more with
  | _ :: _ :: _ :: _, _ => rfl

theorem define_of_three (b : Blueprint G) {module : String} {rest : List String}
    (three : (module :: rest).length = 3) :
    b.define (module :: rest) =
      match b.defect? with
      | some reason => .error (.failure (.invalidDefinition module reason))
      | none => .ok (b.definition module) := by
  match rest, three with
  | [_, _], _ => rfl

theorem define_of_sound {b : Blueprint G} (sound : b.Sound) {module : String}
    {rest : List String} (three : (module :: rest).length = 3) :
    b.define (module :: rest) = .ok (b.definition module) := by
  rw [define_of_three b three, (defect?_eq_none_iff b).mpr sound]

theorem define_of_defect {b : Blueprint G} {reason : String} (defect : b.Defect reason)
    {module : String} {rest : List String} (three : (module :: rest).length = 3) :
    b.define (module :: rest) = .error (.failure (.invalidDefinition module reason)) := by
  rw [define_of_three b three, (defect?_eq_some_iff b reason).mpr defect]

/-- Every connection is answered in one of the two ways. -/
theorem define_answers (b : Blueprint G) (args : List String) :
    (∃ module, args.length = 3 ∧ b.Sound ∧ args.head? = some module ∧
      b.define args = .ok (b.definition module)) ∨
    ∃ error, b.Refused args error ∧ b.define args = .error error := by
  by_cases short : args.length < 3
  · exact .inr ⟨_, .unnamed short, define_of_short b short⟩
  · cases args with
    | nil => exact absurd (by decide) short
    | cons module rest =>
        by_cases more : 3 < (module :: rest).length
        · exact .inr ⟨_, .arguments more, define_of_more b more⟩
        · have three : (module :: rest).length = 3 := by omega
          cases judged : b.defect? with
          | none =>
              have sound := (defect?_eq_none_iff b).mp judged
              exact .inl ⟨module, three, sound, rfl, define_of_sound sound three⟩
          | some reason =>
              have defect := (defect?_eq_some_iff b reason).mp judged
              exact .inr ⟨_, .unsound three defect, define_of_defect defect three⟩

theorem Refused.define {b : Blueprint G} {args : List String} {error : HostError}
    (refused : b.Refused args error) : b.define args = .error error := by
  cases refused with
  | unnamed short => exact define_of_short b short
  | arguments more => exact define_of_more b more
  | unsound three defect => exact define_of_defect defect three

theorem define_eq_ok_iff (b : Blueprint G) (args : List String)
    (result : Definition (PrefixedRows G)) :
    b.define args = .ok result ↔ args.length = 3 ∧ b.Sound ∧
      ∃ module, args.head? = some module ∧ result = b.definition module := by
  constructor
  · intro defined
    rcases define_answers b args with ⟨module, three, sound, named, answered⟩ | ⟨error, _, failed⟩
    · rw [answered] at defined
      cases defined
      exact ⟨three, sound, module, named, rfl⟩
    · rw [failed] at defined
      cases defined
  · rintro ⟨three, sound, module, named, rfl⟩
    obtain ⟨rest, rfl⟩ := List.head?_eq_some_iff.mp named
    exact define_of_sound sound three

theorem define_eq_error_iff (b : Blueprint G) (args : List String) (error : HostError) :
    b.define args = .error error ↔ b.Refused args error := by
  constructor
  · intro failed
    rcases define_answers b args with ⟨module, _, _, _, answered⟩ | ⟨other, refused, failed'⟩
    · rw [answered] at failed
      cases failed
    · rw [failed'] at failed
      cases failed
      exact refused
  · exact Refused.define

/-- Host code that answers with blueprints. -/
def answer (b : Blueprint G) (args : List String) :
    StateM τ (Except HostError (Definition (PrefixedRows G))) :=
  pure (b.define args)

/-- A blueprint that is defined connects, in its own mode or the one that it finds. -/
theorem connects {module : TableModule (Blueprint G)} {args : List String}
    {definition : Definition (PrefixedRows G)} (defined : module.factory.define args = .ok definition)
    (mode : StateM τ IntegerMode) (before : τ) :
    ∃ connected after declared,
      module.connect answer mode args before = (.ok connected, after) ∧
      args.head? = some declared ∧
      connected.table = ⟨module.name, ⟨declared, module.factory.columns.length,
        module.factory.generator⟩, module.factory.parameters,
        IntegerMode.resolve module.factory.integerMode (mode before).1⟩ := by
  obtain ⟨_three, sound, declared, named, rfl⟩ := (define_eq_ok_iff _ args definition).mp defined
  have answered : answer module.factory args before =
      (.ok (module.factory.definition declared), before) := by
    unfold answer
    rw [defined]
    rfl
  have few : ¬maxParameters < (module.factory.definition declared).parameterNames.length :=
    Nat.not_lt.mpr sound.parameters
  have connected : module.connect answer mode args before = _ :=
    TableModule.connect_of_defined answered
  rw [TableModule.accept, if_neg few] at connected
  exact ⟨_, _, declared, connected, named, rfl⟩

theorem connect_of_refused {b : Blueprint G} {args : List String} {error : HostError}
    (refused : b.Refused args error) (name : String) (mode : StateM τ IntegerMode) (before : τ) :
    (TableModule.mk name b).connect answer mode args before = (.error (.host error), before) := by
  refine TableModule.connect_of_refused ?_
  unfold answer
  rw [refused.define]
  rfl

/-- A blueprint is defined exactly when it is connected with three arguments, has a column, has no
more than 32 parameters and declares no name twice. Otherwise it is refused for the first of these
that it misses. The module of a blueprint connects exactly then too, whatever the mode at that
time, and passes on every refusal. -/
theorem accepted_exactly (b : Blueprint G) (args : List String) :
    (∀ result, b.define args = .ok result ↔ args.length = 3 ∧ b.Sound ∧
      ∃ module, args.head? = some module ∧ result = b.definition module) ∧
    (∀ error, b.define args = .error error ↔ b.Refused args error) ∧
    ∀ (name : String) (τ : Type) (mode : StateM τ IntegerMode) (before : τ),
      let connection := ((TableModule.mk name b).connect answer mode args before).1
      ((∃ connected, connection = .ok connected) ↔ args.length = 3 ∧ b.Sound) ∧
      ∀ failure, connection = .error failure ↔
        ∃ error, failure = .host error ∧ b.Refused args error := by
  refine ⟨define_eq_ok_iff b args, define_eq_error_iff b args, fun name τ mode before => ?_⟩
  intro connection
  rcases define_answers b args with ⟨module, three, sound, _, defined⟩ | ⟨error, refused, failed⟩
  · have factory : (TableModule.mk name b).factory.define args = .ok (b.definition module) := defined
    obtain ⟨connected, after, _, accepted, _⟩ := connects factory mode before
    have same : connection = .ok connected := congrArg Prod.fst accepted
    refine ⟨⟨fun _ => ⟨three, sound⟩, fun _ => ⟨connected, same⟩⟩, fun failure => ⟨?_, ?_⟩⟩
    · intro failed
      rw [same] at failed
      cases failed
    · rintro ⟨error, _, refused⟩
      rw [refused.define] at defined
      cases defined
  · have same : connection = .error (.host error) :=
      congrArg Prod.fst (connect_of_refused refused name mode before)
    refine ⟨⟨?_, ?_⟩, fun failure => ⟨?_, ?_⟩⟩
    · rintro ⟨connected, accepted⟩
      rw [same] at accepted
      cases accepted
    · rintro ⟨three, sound⟩
      obtain ⟨module, rest, rfl⟩ := List.exists_cons_of_length_eq_add_one three
      rw [define_of_sound sound three] at failed
      cases failed
    · intro other
      rw [same] at other
      cases other
      exact ⟨error, rfl, refused⟩
    · rintro ⟨other, rfl, otherRefused⟩
      rw [otherRefused.define] at failed
      cases failed
      exact same

/-- The name that is told is the first that repeats an earlier one, across the two lists. -/
example :
    ({ columns := ["n", "square", "upto"], parameters := ["from", "square"], generator := () } :
      Blueprint Unit).define ["squares", "main", "t"] =
      .error (.failure (.invalidDefinition "squares" "has multiple columns named \"square\"")) :=
  rfl

end Blueprint

end RowSource
