import Mathlib.Data.List.Pairwise
import RowSource.Proofs.Plan.Outcome
import RowSource.Proofs.Scan.Arguments

/-!
# What an engine relies on

A planner trusts the answers of a table: it counts on positions without gaps, leaves out its own
checks where the table says so, and starts the scan with as many values as there are positions.
`IndexInfo.Sound` is what it relies on. A connected table keeps to it, or else turns the round down
and leaves it as it was.
-/

namespace RowSource

variable {F G τ : Type}

/-- The number of bits that are set in a mask. -/
def bitCount (mask : UInt32) : Nat := (List.range 32).countP fun bit => mask.toNat.testBit bit

/-- What an engine relies on in an answered round: the positions are those from one to the number of
bits of the mask, in the order of the columns, and each belongs to a usable `=` on a parameter column
of its own. These constraints are settled, and all others are left to the engine. -/
structure IndexInfo.Sound (names : List String) (info : IndexInfo) : Prop where
  parallel : info.usages.length = info.constraints.length
  positions : (info.wanted.map fun usage => usage.1.position).Perm
    (List.range' 1 (bitCount info.indexNumber.toUInt32))
  settled : ∀ usage ∈ info.usages,
    (0 < usage.position ∧ usage.settled = true) ∨ (usage.position = 0 ∧ usage.settled = false)
  source : ∀ usage ∈ info.wanted, ∃ c column, info.constraints[usage.2]? = some c ∧ c.op = .eq ∧
    c.usable = true ∧ c.On names column
  ordered : ∀ left ∈ info.wanted, ∀ right ∈ info.wanted, ∀ c d,
    info.constraints[left.2]? = some c → info.constraints[right.2]? = some d →
      (left.1.position < right.1.position ↔ c.column < d.column) ∧
        (c.column = d.column → left = right)

namespace Plan

/-! ### Rounds that are turned down -/

theorem allBind_of_made {names : List String} {constraints : List Constraint} {plan : Plan}
    (made : make names constraints = .ok plan) : AllBind names constraints := by
  by_contra unbound
  obtain ⟨before, c, after, parameter, rfl, beforeBind, on, unfit⟩ :=
    exists_first_of_not_allBind unbound
  rw [make_of_first beforeBind on unfit] at made
  cases made

/-- With a bit for every parameter, planning fails for a constraint alone. -/
theorem failure_of_few {names : List String} (few : names.length ≤ maxParameters)
    {constraints : List Constraint} {failure : Failure}
    (failed : make names constraints = .error failure) :
    (∃ name ∈ names, failure = .planning name) ∨ failure = .unusableConstraint := by
  by_cases allBind : AllBind names constraints
  · obtain ⟨plan, made, -⟩ := make_of_narrow allBind fun c _member parameter on =>
      Nat.lt_of_lt_of_le on.within few
    rw [made] at failed
    cases failed
  · obtain ⟨before, c, after, parameter, rfl, beforeBind, on, unfit⟩ :=
      exists_first_of_not_allBind allBind
    rw [make_of_first beforeBind on unfit, List.getD_eq_getElem?_getD,
      List.getElem?_eq_getElem on.within, Option.getD_some] at failed
    rw [← Except.error.inj failed]
    unfold complaint
    split
    · exact .inr rfl
    · exact .inl ⟨_, List.getElem_mem on.within, rfl⟩

/-! ### Rounds that are answered -/

theorem written_length (bound : List Binding) (usages : List ConstraintUsage) :
    (written usages bound).length = usages.length := by
  induction bound generalizing usages with
  | nil => rfl
  | cons head tail ih =>
      change (written (usages.set head.constraint _) tail).length = _
      rw [ih, List.length_set]

/-- Two keys that both increase along a list put its members into the same order. -/
theorem lt_iff_lt_of_pairwise {α : Type} {list : List α} (key other : α → Nat)
    (ascending : list.Pairwise fun a b => key a < key b)
    (otherAscending : list.Pairwise fun a b => other a < other b) {a b : α} (memberA : a ∈ list)
    (memberB : b ∈ list) : key a < key b ↔ other a < other b := by
  let alike (a b : α) : Prop :=
    (key a < key b ↔ other a < other b) ∧ (key b < key a ↔ other b < other a)
  have symmetric : Std.Symm alike := ⟨fun a b both => ⟨both.2, both.1⟩⟩
  have along : list.Pairwise alike := by
    refine (ascending.and otherAscending).imp fun both => ?_
    obtain ⟨below, otherBelow⟩ := both
    exact ⟨by omega, by omega⟩
  have reflexive : ∀ a ∈ list, alike a a := fun a _member => ⟨by omega, by omega⟩
  exact (along.forall_of_forall reflexive memberA memberB).1

namespace Faithful

variable {names : List String} {constraints : List Constraint} {plan : Plan}

theorem position_lt_iff (faithful : Faithful names constraints plan) {a b : Binding}
    (memberA : a ∈ plan.bound) (memberB : b ∈ plan.bound) :
    a.position < b.position ↔ a.parameter < b.parameter := by
  have positions : (plan.bound.map Binding.position).Pairwise (· < ·) := by
    rw [faithful.positions]
    exact List.pairwise_lt_range'
  exact lt_iff_lt_of_pairwise _ _ (List.pairwise_map.mp positions) faithful.ascending memberA
    memberB

theorem bitCount_eq (faithful : Faithful names constraints plan)
    (few : names.length ≤ maxParameters) : bitCount plan.mask = plan.bound.length := by
  have bits := congrArg List.length (faithful.parameters_eq few)
  rw [List.length_map, ← List.countP_eq_length_filter] at bits
  exact bits.symm

/-- As many values are asked for as there are bits. -/
theorem asked_eq (faithful : Faithful names constraints plan) (few : names.length ≤ maxParameters) :
    asked plan.mask (List.range names.length) = bitCount plan.mask := by
  have bits := congrArg List.length (faithful.parameters_eq (Nat.le_refl _))
  rw [List.length_map, ← List.countP_eq_length_filter] at bits
  rw [faithful.bitCount_eq few, bits]
  rfl

theorem sound (faithful : Faithful names constraints plan) (allBind : AllBind names constraints)
    (few : names.length ≤ maxParameters) :
    (plan.apply (IndexInfo.fresh constraints)).Sound names := by
  have sameMask : (plan.apply (IndexInfo.fresh constraints)).indexNumber.toUInt32 = plan.mask :=
    UInt32.toUInt32_toInt32 plan.mask
  have wanted {usage : ConstraintUsage × Nat}
      (member : usage ∈ (plan.apply (IndexInfo.fresh constraints)).wanted) :
      ∃ binding ∈ plan.bound, (⟨binding.position, true⟩, binding.constraint) = usage :=
    List.mem_map.mp (faithful.wanted_perm.mem_iff.mp member)
  have sourceOf {binding : Binding} (member : binding ∈ plan.bound) :
      ∃ c, constraints[binding.constraint]? = some c ∧ c.On names binding.parameter :=
    ((firstEquality_eq_some_iff allBind (faithful.within binding member) _).mp
      (faithful.source binding member)).1
  refine
    { parallel := ?_
      positions := ?_
      settled := ?_
      source := ?_
      ordered := ?_ }
  · exact (written_length ..).trans (List.length_map _)
  · rw [sameMask, faithful.bitCount_eq few, ← faithful.positions]
    have positions := faithful.wanted_perm.map fun usage => usage.1.position
    rw [List.map_map] at positions
    exact positions
  · intro usage member
    obtain ⟨place, found⟩ := List.getElem?_of_mem member
    rcases (faithful.usage_iff place usage).mp found with ⟨binding, bound, -, rfl⟩ | ⟨-, -, rfl⟩
    · exact .inl ⟨faithful.position_pos bound, rfl⟩
    · exact .inr ⟨rfl, rfl⟩
  · intro usage member
    obtain ⟨binding, bound, rfl⟩ := wanted member
    obtain ⟨c, found, on⟩ := sourceOf bound
    obtain ⟨equality, usable⟩ := allBind c (List.mem_of_getElem? found) _ on
    exact ⟨c, binding.parameter, found, equality, usable, on⟩
  · intro left leftMember right rightMember c d foundLeft foundRight
    obtain ⟨a, boundA, rfl⟩ := wanted leftMember
    obtain ⟨b, boundB, rfl⟩ := wanted rightMember
    obtain ⟨c', foundA, onA⟩ := sourceOf boundA
    obtain ⟨d', foundB, onB⟩ := sourceOf boundB
    obtain rfl := Option.some.inj (foundA.symm.trans foundLeft)
    obtain rfl := Option.some.inj (foundB.symm.trans foundRight)
    rw [onA.column, onB.column]
    refine ⟨?_, fun same => ?_⟩
    · rw [Int.ofNat_lt]
      exact faithful.position_lt_iff boundA boundB
    · have sourceA := faithful.source a boundA
      rw [Int.ofNat_inj.mp same, faithful.source b boundB] at sourceA
      have equal := List.inj_on_of_nodup_map faithful.distinct boundA boundB
        (Option.some.inj sourceA).symm
      rw [equal]

/-- A start with exactly as many values as there are positions uses them all up, in their order.
With fewer it fails. -/
theorem arguments_exact (faithful : Faithful names constraints plan)
    (few : names.length ≤ maxParameters) (values : List SqlValue) :
    (values.length < bitCount plan.mask →
      ∃ message, arguments plan.mask names.length values = .error (.internal message)) ∧
    (bitCount plan.mask ≤ values.length → ∃ bound,
      arguments plan.mask names.length values = .ok bound ∧
      bound.reduceOption = values.take (bitCount plan.mask)) := by
  have counted : asked plan.mask (List.range (min names.length maxParameters)) =
      bitCount plan.mask := by
    rw [Nat.min_eq_left few, faithful.asked_eq few]
  rw [← counted]
  refine ⟨fun short => ⟨_, arguments_of_short short⟩, fun enough => ?_⟩
  have placed := arguments_of_asked enough
  exact ⟨_, placed, reduceOption_of_arguments placed⟩

end Faithful

end Plan

namespace Scan

variable {σ S : Type}

theorem next_ne_internal (run : Generation (StateM σ) G S) (scan : Scan G S) (world : σ)
    (message : String) : (scan.next run world).1.1 ≠ .error (.internal message) := by
  cases held : scan.stream with
  | none =>
      rw [next_of_no_stream run held]
      exact nofun
  | some stream =>
      rw [next_of_stream run held]
      rcases (run.advance stream world).1 with ⟨answer, rest⟩
      cases answer with
      | error error => exact nofun
      | ok advance => cases advance <;> exact nofun

/-- A start that has its values can only fail as the host does. -/
theorem start_ne_internal (run : Generation (StateM σ) G S) {scan : Scan G S} {number : Int32}
    {values : List SqlValue} {bound : List (Option SqlValue)}
    (placed : Plan.arguments number.toUInt32 scan.table.parameterNames.length values = .ok bound)
    (world : σ) (message : String) :
    (scan.start run number values world).1.1 ≠ .error (.internal message) := by
  cases null : bound.any fun value => value.any SqlValue.isNull with
  | true =>
      rw [start_of_null run placed null]
      exact nofun
  | false =>
      rcases generated : run.generate scan.table.generator
        (hostArguments scan.table.integerMode bound) world with ⟨answer, after⟩
      cases answer with
      | error error =>
          rw [start_of_refused run placed null generated]
          exact nofun
      | ok stream =>
          rw [start_of_generated run placed null generated]
          exact next_ne_internal run _ after message

end Scan

/-- A scan that is started as the plan asked for has the arguments that it needs. -/
theorem Plan.Faithful.start_ne_internal {σ S : Type} {names : List String}
    {constraints : List Constraint} {plan : Plan} (faithful : Faithful names constraints plan)
    (few : names.length ≤ maxParameters) {values : List SqlValue}
    (counted : values.length = bitCount plan.mask) (run : Generation (StateM σ) G S)
    {scan : Scan G S} (ofNames : scan.table.parameterNames = names) {number : Int32}
    (ofMask : number.toUInt32 = plan.mask) (world : σ) (message : String) :
    (scan.start run number values world).1.1 ≠ .error (.internal message) := by
  obtain ⟨bound, placed, -⟩ := (faithful.arguments_exact few values).2 (Nat.le_of_eq counted.symm)
  rw [← ofNames, ← ofMask] at placed
  exact Scan.start_ne_internal run placed world message

/-- A connected table keeps to what an engine relies on. A round that it turns down is left as it
was, and fails for a constraint on a parameter. A round that it answers keeps its constraints and is
sound, and every binding is in the range of the usages and of the mask. The scan then needs exactly as
many values as there are positions, and started with so many it never fails for its arguments. -/
theorem TableModule.answer_keeps_contract
    {define : F → List String → StateM τ (Except HostError (Definition G))}
    {mode : StateM τ IntegerMode} {module : TableModule F} {args : List String} {before after : τ}
    {connected : Connected G}
    (accepted : module.connect define mode args before = (.ok connected, after))
    (constraints : List Constraint) :
    let names := connected.table.parameterNames
    let answered := Plan.answer names (IndexInfo.fresh constraints)
    let mask := answered.2.indexNumber.toUInt32
    (∀ failure, answered.1 = .error failure →
      answered.2 = IndexInfo.fresh constraints ∧
        ((∃ name ∈ names, failure = .planning name) ∨ failure = .unusableConstraint)) ∧
    (∀ plan, Plan.make names constraints = .ok plan → ∀ binding ∈ plan.bound,
      binding.constraint < (IndexInfo.fresh constraints).usages.length ∧ binding.parameter < 32) ∧
    (answered.1 = .ok () →
      answered.2.constraints = constraints ∧ answered.2.Sound names ∧
      ∀ values : List SqlValue,
        (values.length < bitCount mask →
          ∃ message, Plan.arguments mask names.length values = .error (.internal message)) ∧
        (bitCount mask ≤ values.length → ∃ bound,
          Plan.arguments mask names.length values = .ok bound ∧
            bound.reduceOption = values.take (bitCount mask)) ∧
        (values.length = bitCount mask →
          ∀ (σ S : Type) (run : Generation (StateM σ) G S) (scan : Scan G S) (world : σ),
            scan.table = connected.table → ∀ message,
              (scan.start run answered.2.indexNumber values world).1.1 ≠
                .error (.internal message))) := by
  intro names answered mask
  have few : names.length ≤ maxParameters := parameters_le_of_connect accepted
  refine ⟨?_, ?_, ?_⟩
  · intro failure failed
    cases made : Plan.make names constraints with
    | ok plan =>
        have ok : answered = (.ok (), _) := Plan.answer_of_made made
        rw [ok] at failed
        cases failed
    | error other =>
        have turned : answered = (.error other, _) := Plan.answer_of_failed made
        rw [turned] at failed ⊢
        cases failed
        exact ⟨rfl, Plan.failure_of_few few made⟩
  · intro plan made binding member
    have faithful := Plan.make_faithful made
    refine ⟨?_, Nat.lt_of_lt_of_le (faithful.within binding member) few⟩
    change _ < (constraints.map _).length
    rw [List.length_map]
    exact firstEquality_lt (faithful.source binding member)
  · intro succeeded
    cases made : Plan.make names constraints with
    | error failure =>
        have turned : answered = (.error failure, _) := Plan.answer_of_failed made
        rw [turned] at succeeded
        cases succeeded
    | ok plan =>
        have ok : answered = (.ok (), plan.apply (IndexInfo.fresh constraints)) :=
          Plan.answer_of_made made
        have faithful := Plan.make_faithful made
        have sameMask : mask = plan.mask := by
          change answered.2.indexNumber.toUInt32 = _
          rw [ok]
          exact UInt32.toUInt32_toInt32 plan.mask
        refine ⟨by rw [ok]; rfl, ?_, fun values => ?_⟩
        · rw [ok]
          exact faithful.sound (Plan.allBind_of_made made) few
        · obtain ⟨short, enough⟩ := faithful.arguments_exact few values
          rw [sameMask]
          refine ⟨short, enough, ?_⟩
          intro counted σ S run scan world ofTable message
          have ofNames : scan.table.parameterNames = names := congrArg _ ofTable
          exact faithful.start_ne_internal few counted run ofNames sameMask world message

/-- A table with all the parameters that there can be. One round binds the first and the last of
them, and needs two values; another asks for more than an `=`. -/
theorem TableModule.answer_keeps_contract_wide :
    let names := List.replicate 32 "p"
    let table : ConnectedTable RowList := ⟨"wide", [], names, .strict⟩
    let rejected := Plan.answer names (IndexInfo.fresh [⟨3, .gt, true⟩])
    (rejected.1 = .error (.planning "p") ∧ rejected.2 = IndexInfo.fresh [⟨3, .gt, true⟩]) ∧
    ∃ info, Plan.answer names (IndexInfo.fresh Scan.scattered) = (.ok (), info) ∧
      info.Sound names ∧ bitCount info.indexNumber.toUInt32 = 2 ∧
      (∃ message, Plan.arguments info.indexNumber.toUInt32 32 [.integer 1] =
        .error (.internal message)) ∧
      ∀ message, (Scan.start (RowList.generation : Generation (StateM Unit) RowList RowList)
        (Scan.idle table) info.indexNumber [.integer 1, .integer 2] ()).1.1 ≠
          .error (.internal message) := by
  intro names table rejected
  let accept (_ : Unit) (_ : List String) : StateM Unit (Except HostError (Definition RowList)) :=
    pure (.ok ⟨"", [], names, none, false⟩)
  have accepted : connect (m := StateM Unit) accept (pure .strict) ⟨"wide", ()⟩ [] () =
      (.ok ⟨"wide", "", false, table⟩, ()) := rfl
  have answered : Plan.answer names (IndexInfo.fresh Scan.scattered) = _ :=
    Plan.answer_of_made Scan.make_scattered
  have turnedDown : rejected.1 = .error (.planning "p") := rfl
  obtain ⟨unchanged, -⟩ := (answer_keeps_contract accepted [⟨3, .gt, true⟩]).1 _ turnedDown
  have kept := (answer_keeps_contract accepted Scan.scattered).2.2
  change (Plan.answer names (IndexInfo.fresh Scan.scattered)).1 = .ok () →
    (Plan.answer names (IndexInfo.fresh Scan.scattered)).2.constraints = Scan.scattered ∧ _ at kept
  rw [answered] at kept
  obtain ⟨-, sound, values⟩ := kept rfl
  refine ⟨⟨turnedDown, unchanged⟩, _, answered, sound, by decide, ?_, ?_⟩
  · exact (values [.integer 1]).1 (by decide)
  · exact (values [.integer 1, .integer 2]).2.2 (by decide) Unit RowList _ _ () rfl

end RowSource
