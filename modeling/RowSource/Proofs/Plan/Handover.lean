import Mathlib.Data.List.ReduceOption
import RowSource.Plan.Arguments
import RowSource.Proofs.Plan.Bindings

/-!
# From a plan to the arguments of a scan

An engine hands over the values of those constraints that a plan gave a position, in the order of
the positions. Read back by the mask, they are the values of the first `=` constraints on the
parameter columns, each at the place of its column.
-/

namespace RowSource

/-- The usages that ask for a value, each with the place of its constraint. -/
def IndexInfo.wanted (info : IndexInfo) : List (ConstraintUsage × Nat) :=
  info.usages.zipIdx.filter fun usage => decide (0 < usage.1.position)

/-- The values that an engine hands over when a scan starts, given the value that each constraint
of the list has. -/
def IndexInfo.handed (info : IndexInfo) (value : Nat → SqlValue) : List SqlValue :=
  (info.wanted.mergeSort fun a b => a.1.position ≤ b.1.position).map fun usage => value usage.2

namespace Plan

/-! ### What is written into a round of planning -/

/-- Usages with those of a list of bindings written over them. -/
def written (usages : List ConstraintUsage) (bound : List Binding) : List ConstraintUsage :=
  bound.foldl (fun usages binding => usages.set binding.constraint ⟨binding.position, true⟩) usages

theorem written_getElem?_of_forall_ne {bound : List Binding} {place : Nat}
    (apart : ∀ binding ∈ bound, binding.constraint ≠ place) (usages : List ConstraintUsage) :
    (written usages bound)[place]? = usages[place]? := by
  induction bound generalizing usages with
  | nil => rfl
  | cons head tail ih =>
      have headApart := apart head (List.mem_cons_self ..)
      change (written (usages.set head.constraint _) tail)[place]? = _
      rw [ih (fun binding member => apart binding (List.mem_cons_of_mem _ member)),
        List.getElem?_set_ne headApart]

theorem written_getElem?_of_mem {bound : List Binding} {binding : Binding}
    (distinct : (bound.map Binding.constraint).Nodup) (member : binding ∈ bound)
    {usages : List ConstraintUsage} (inRange : binding.constraint < usages.length) :
    (written usages bound)[binding.constraint]? = some ⟨binding.position, true⟩ := by
  induction bound generalizing usages with
  | nil => cases member
  | cons head tail ih =>
      rw [List.map_cons, List.nodup_cons] at distinct
      change (written (usages.set head.constraint _) tail)[binding.constraint]? = _
      rcases List.mem_cons.mp member with same | inTail
      · subst same
        have apart : ∀ other ∈ tail, other.constraint ≠ binding.constraint :=
          fun other later same => distinct.1 (List.mem_map.mpr ⟨other, later, same⟩)
        rw [written_getElem?_of_forall_ne apart, List.getElem?_set_self inRange]
      · exact ih distinct.2 inTail (by rw [List.length_set]; exact inRange)

namespace Faithful

variable {names : List String} {constraints : List Constraint} {plan : Plan}

theorem distinct (faithful : Faithful names constraints plan) :
    (plan.bound.map Binding.constraint).Nodup := by
  rw [List.Nodup, List.pairwise_map]
  refine faithful.ascending.imp_of_mem ?_
  intro a b memberA memberB below same
  have sourceA := faithful.source a memberA
  rw [same] at sourceA
  have equal := firstEquality_injective sourceA (faithful.source b memberB)
  omega

theorem position_pos (faithful : Faithful names constraints plan) {binding : Binding}
    (member : binding ∈ plan.bound) : 0 < binding.position := by
  have listed : binding.position ∈ plan.bound.map Binding.position := List.mem_map_of_mem member
  rw [faithful.positions, List.mem_range'_1] at listed
  omega

/-- The usage of a constraint is that of the binding that it supplies, or else the fresh one. -/
theorem usage_iff (faithful : Faithful names constraints plan) (place : Nat)
    (usage : ConstraintUsage) :
    (plan.apply (IndexInfo.fresh constraints)).usages[place]? = some usage ↔
      (∃ binding ∈ plan.bound, binding.constraint = place ∧ ⟨binding.position, true⟩ = usage) ∨
        ((∀ binding ∈ plan.bound, binding.constraint ≠ place) ∧ place < constraints.length ∧
          usage = {}) := by
  change (written (IndexInfo.fresh constraints).usages plan.bound)[place]? = some usage ↔ _
  have length : (IndexInfo.fresh constraints).usages.length = constraints.length :=
    List.length_map _
  by_cases bound : ∃ binding ∈ plan.bound, binding.constraint = place
  · obtain ⟨binding, member, same⟩ := bound
    subst same
    have inRange : binding.constraint < (IndexInfo.fresh constraints).usages.length := by
      rw [length]
      exact firstEquality_lt (faithful.source binding member)
    rw [written_getElem?_of_mem faithful.distinct member inRange, Option.some_inj]
    constructor
    · intro same
      exact .inl ⟨binding, member, rfl, same⟩
    · rintro (⟨other, otherMember, samePlace, same⟩ | ⟨apart, -⟩)
      · rw [← same, List.inj_on_of_nodup_map faithful.distinct otherMember member samePlace]
      · exact absurd rfl (apart binding member)
  · have apart : ∀ binding ∈ plan.bound, binding.constraint ≠ place :=
      fun binding member same => bound ⟨binding, member, same⟩
    rw [written_getElem?_of_forall_ne apart]
    change (constraints.map fun _ => ({} : ConstraintUsage))[place]? = some usage ↔ _
    rw [List.getElem?_map, Option.map_eq_some_iff]
    constructor
    · rintro ⟨c, found, same⟩
      obtain ⟨inRange, -⟩ := List.getElem?_eq_some_iff.mp found
      exact .inr ⟨apart, inRange, same.symm⟩
    · rintro (⟨binding, member, samePlace, -⟩ | ⟨-, inRange, same⟩)
      · exact absurd samePlace (apart binding member)
      · exact ⟨constraints[place], List.getElem?_eq_getElem inRange, same.symm⟩

theorem wanted_perm (faithful : Faithful names constraints plan) :
    (plan.apply (IndexInfo.fresh constraints)).wanted.Perm
      (plan.bound.map fun binding => (⟨binding.position, true⟩, binding.constraint)) := by
  have nodupWanted : (plan.apply (IndexInfo.fresh constraints)).wanted.Nodup := by
    refine List.Nodup.filter _ (List.Nodup.of_map Prod.snd ?_)
    rw [List.zipIdx_map_snd]
    exact List.nodup_range'
  have nodupBound : (plan.bound.map fun binding =>
      ((⟨binding.position, true⟩ : ConstraintUsage), binding.constraint)).Nodup := by
    refine List.Nodup.of_map Prod.snd ?_
    rw [List.map_map]
    exact faithful.distinct
  rw [List.perm_ext_iff_of_nodup nodupWanted nodupBound]
  rintro ⟨usage, place⟩
  rw [IndexInfo.wanted, List.mem_filter, List.mem_zipIdx_iff_getElem?, faithful.usage_iff,
    List.mem_map, decide_eq_true_eq]
  simp only [Prod.mk.injEq]
  constructor
  · rintro ⟨⟨binding, member, samePlace, same⟩ | ⟨-, -, rfl⟩, positive⟩
    · exact ⟨binding, member, same, samePlace⟩
    · exact absurd positive (Nat.lt_irrefl 0)
  · rintro ⟨binding, member, rfl, samePlace⟩
    exact ⟨.inl ⟨binding, member, samePlace, rfl⟩, faithful.position_pos member⟩

/-- What is handed over: the values of the bound constraints, in the order of their parameters. -/
theorem handed_apply (faithful : Faithful names constraints plan) (value : Nat → SqlValue) :
    (plan.apply (IndexInfo.fresh constraints)).handed value =
      plan.bound.map fun binding => value binding.constraint := by
  let inOrder := plan.bound.map fun binding =>
    ((⟨binding.position, true⟩ : ConstraintUsage), binding.constraint)
  let wanted := (plan.apply (IndexInfo.fresh constraints)).wanted
  have positionOrder : (plan.bound.map Binding.position).Pairwise (· < ·) := by
    rw [faithful.positions]
    exact List.pairwise_lt_range'
  have ordered : inOrder.Pairwise fun a b => a.1.position < b.1.position := by
    rw [List.pairwise_map] at positionOrder ⊢
    exact positionOrder
  have sorted : (wanted.mergeSort fun a b => a.1.position ≤ b.1.position).Pairwise
      fun a b => a.1.position ≤ b.1.position :=
    pairwise_mergeSort_key (·.1.position) wanted
  have same : (wanted.mergeSort fun a b => a.1.position ≤ b.1.position) = inOrder := by
    have perm := (List.mergeSort_perm wanted fun a b => a.1.position ≤ b.1.position).trans
      faithful.wanted_perm
    refine List.Perm.eq_of_pairwise ?_ sorted (ordered.imp Nat.le_of_lt) perm
    intro a b memberA memberB below above
    have distinct : (inOrder.map fun usage => usage.1.position).Nodup := by
      rw [List.Nodup, List.pairwise_map]
      exact ordered.imp Nat.ne_of_lt
    exact List.inj_on_of_nodup_map distinct (perm.subset memberA) memberB
      (Nat.le_antisymm below above)
  unfold IndexInfo.handed
  change (wanted.mergeSort _).map _ = _
  rw [same, List.map_map]
  rfl

/-- The bits of the mask, in order, are those of the bound parameters. -/
theorem parameters_eq (faithful : Faithful names constraints plan) {limit : Nat}
    (enough : names.length ≤ limit) :
    plan.bound.map Binding.parameter =
      (List.range limit).filter fun parameter => testBit plan.mask parameter := by
  have ascending : (plan.bound.map Binding.parameter).Pairwise (· < ·) := by
    rw [List.pairwise_map]
    exact faithful.ascending
  refine ascending.eq_of_mem_iff (List.pairwise_lt_range.filter _) ?_
  intro parameter
  rw [List.mem_filter, List.mem_range, faithful.bits, List.any_eq_true, List.mem_map]
  constructor
  · rintro ⟨binding, member, same⟩
    have within := Nat.lt_of_lt_of_le (faithful.within binding member) enough
    exact ⟨same ▸ within, binding, member, beq_iff_eq.mpr same⟩
  · rintro ⟨_within, binding, member, same⟩
    exact ⟨binding, member, beq_iff_eq.mp same⟩

/-- A parameter has its bit in the mask when there is an `=` constraint on it. -/
theorem testBit_eq (faithful : Faithful names constraints plan) {parameter : Nat}
    (within : parameter < names.length) :
    testBit plan.mask parameter = (firstEquality constraints parameter).isSome := by
  rw [Bool.eq_iff_iff, faithful.bits, List.any_eq_true, Option.isSome_iff_exists]
  constructor
  · rintro ⟨binding, member, same⟩
    rw [← beq_iff_eq.mp same]
    exact ⟨binding.constraint, faithful.source binding member⟩
  · rintro ⟨place, found⟩
    obtain ⟨binding, member, same⟩ := faithful.complete within found
    exact ⟨binding, member, beq_iff_eq.mpr same⟩

end Faithful

/-! ### Reading the values back -/

/-- Values that were laid out in the order of the bits go back to their parameters. -/
theorem place_filter (mask : UInt32) (tooFew : Failure) (parameters : List Nat)
    (value : Nat → SqlValue) :
    place mask tooFew parameters
        ((parameters.filter fun parameter => testBit mask parameter).map value) =
      .ok (parameters.map fun parameter =>
        if testBit mask parameter then some (value parameter) else none) := by
  induction parameters with
  | nil => rfl
  | cons parameter rest ih =>
      rw [List.filter_cons]
      unfold place
      -- A parameter with its bit takes the next value, one without takes none.
      by_cases set : testBit mask parameter = true
      · simp only [set, if_true, List.map_cons, ih]
        rfl
      · simp only [set, if_false, List.map_cons, ih, Bool.false_eq_true]
        rfl

/-- The number of values that a mask asks for. -/
def asked (mask : UInt32) (parameters : List Nat) : Nat := parameters.countP (testBit mask)

/-- The value of a parameter among those that were handed over in the order of the bits. -/
def given (mask : UInt32) (values : List SqlValue) (parameter : Nat) : Option SqlValue :=
  if testBit mask parameter then values[asked mask (List.range parameter)]? else none

/-- With enough values every parameter gets the one that its bit stands for. -/
theorem place_of_enough (mask : UInt32) (tooFew : Failure) (count : Nat) :
    ∀ (least : Nat) (values : List SqlValue),
      asked mask (List.range' least count) ≤ values.length →
      place mask tooFew (List.range' least count) values =
        .ok ((List.range' least count).map fun parameter =>
          if testBit mask parameter then
            values[asked mask (List.range' least (parameter - least))]?
          else none) := by
  induction count with
  | zero => exact fun _least _values _enough => rfl
  | succ count ih =>
      intro least values enough
      -- Every later parameter has the first one below it.
      have below {parameter : Nat} (later : parameter ∈ List.range' (least + 1) count) :
          List.range' least (parameter - least) =
            least :: List.range' (least + 1) (parameter - (least + 1)) := by
        have above : least + 1 ≤ parameter := (List.mem_range'_1.mp later).1
        have split : parameter - least = parameter - (least + 1) + 1 := by omega
        rw [split, List.range'_succ]
      have first : List.range' least (least - least) = [] := by rw [Nat.sub_self]; rfl
      rw [List.range'_succ] at enough ⊢
      rw [List.map_cons, first]
      unfold asked at enough ih ⊢
      unfold place
      by_cases set : testBit mask least = true
      · rw [List.countP_cons_of_pos set] at enough
        cases values with
        | nil => exact absurd enough (Nat.not_succ_le_zero _)
        | cons value values =>
            simp only [set, if_true]
            rw [ih (least + 1) values (Nat.le_of_succ_le_succ enough)]
            refine congrArg (fun rest => Except.ok (some value :: rest)) (List.map_congr_left ?_)
            intro parameter later
            rw [below later, List.countP_cons_of_pos set, List.getElem?_cons_succ]
      · rw [List.countP_cons_of_neg set] at enough
        simp only [set, if_false, Bool.false_eq_true]
        rw [ih (least + 1) values enough]
        refine congrArg (fun rest => Except.ok (none :: rest)) (List.map_congr_left ?_)
        intro parameter later
        rw [below later, List.countP_cons_of_neg set]

/-- With too few values the first parameter fails that there is none left for. -/
theorem place_of_few {mask : UInt32} (tooFew : Failure) {parameters : List Nat}
    {values : List SqlValue} (few : values.length < asked mask parameters) :
    place mask tooFew parameters values = .error tooFew := by
  induction parameters generalizing values with
  | nil => exact absurd few (Nat.not_lt_zero _)
  | cons parameter rest ih =>
      unfold asked at few ih
      unfold place
      by_cases set : testBit mask parameter = true
      · rw [List.countP_cons_of_pos set] at few
        rw [if_pos set]
        cases values with
        | nil => rfl
        | cons value values =>
            dsimp only
            rw [ih (Nat.lt_of_succ_lt_succ few)]
            rfl
      · rw [List.countP_cons_of_neg set] at few
        rw [if_neg set, ih few]
        rfl

/-- With enough values those at the front are taken, and each of them once. -/
theorem place_takes {mask : UInt32} (tooFew : Failure) {parameters : List Nat}
    {values : List SqlValue} (enough : asked mask parameters ≤ values.length) :
    ∃ placed, place mask tooFew parameters values = .ok placed ∧
      placed.reduceOption = values.take (asked mask parameters) := by
  induction parameters generalizing values with
  | nil => exact ⟨[], rfl, rfl⟩
  | cons parameter rest ih =>
      unfold asked at enough ih ⊢
      unfold place
      by_cases set : testBit mask parameter = true
      · rw [List.countP_cons_of_pos set] at enough ⊢
        rw [if_pos set]
        cases values with
        | nil => exact absurd enough (Nat.not_succ_le_zero _)
        | cons value values =>
            obtain ⟨placed, taken, front⟩ := ih (Nat.le_of_succ_le_succ enough)
            dsimp only
            rw [taken]
            refine ⟨some value :: placed, rfl, ?_⟩
            rw [List.reduceOption_cons_of_some, front, List.take_succ_cons]
      · rw [List.countP_cons_of_neg set] at enough ⊢
        obtain ⟨placed, taken, front⟩ := ih enough
        rw [if_neg set, taken]
        exact ⟨none :: placed, rfl, by rw [List.reduceOption_cons_of_none, front]⟩

theorem arguments_of_asked {mask : UInt32} {count : Nat} {values : List SqlValue}
    (enough : asked mask (List.range (min count maxParameters)) ≤ values.length) :
    arguments mask count values =
      .ok ((List.range (min count maxParameters)).map (given mask values)) := by
  unfold arguments
  rw [List.range_eq_range'] at enough ⊢
  rw [place_of_enough _ _ _ _ _ enough]
  unfold given
  simp only [Nat.sub_zero, List.range_eq_range']

theorem arguments_of_short {mask : UInt32} {count : Nat} {values : List SqlValue}
    (short : values.length < asked mask (List.range (min count maxParameters))) :
    arguments mask count values =
      .error (.internal ("filter received " ++ toString values.length ++
        " arguments for plan mask " ++ hexadecimal mask.toNat)) :=
  place_of_few _ short

theorem arguments_eq_ok_iff {mask : UInt32} {count : Nat} {values : List SqlValue}
    {args : List (Option SqlValue)} :
    arguments mask count values = .ok args ↔
      asked mask (List.range (min count maxParameters)) ≤ values.length ∧
        args = (List.range (min count maxParameters)).map (given mask values) := by
  constructor
  · intro placed
    rcases Nat.lt_or_ge values.length (asked mask (List.range (min count maxParameters))) with
      short | enough
    · rw [arguments_of_short short] at placed
      cases placed
    · rw [arguments_of_asked enough] at placed
      exact ⟨enough, (Except.ok.inj placed).symm⟩
  · rintro ⟨enough, rfl⟩
    exact arguments_of_asked enough

theorem reduceOption_of_arguments {mask : UInt32} {count : Nat} {values : List SqlValue}
    {args : List (Option SqlValue)} (placed : arguments mask count values = .ok args) :
    args.reduceOption =
      values.take (asked mask (List.range (min count maxParameters))) := by
  obtain ⟨enough, -⟩ := arguments_eq_ok_iff.mp placed
  obtain ⟨taken, same, front⟩ := place_takes _ enough
  rw [Except.ok.inj (placed.symm.trans same)]
  exact front

theorem arguments_of_enough {mask : UInt32} {count : Nat} {values : List SqlValue}
    (few : count ≤ maxParameters) (enough : asked mask (List.range count) ≤ values.length) :
    arguments mask count values = .ok ((List.range count).map (given mask values)) := by
  have all : min count maxParameters = count := Nat.min_eq_left few
  rw [← all] at enough
  rw [arguments_of_asked enough, all]

/-- The arguments of a scan whose plan was faithful: for every parameter the value of the first `=`
constraint on its column, and nothing where there is none. -/
theorem Faithful.arguments_handed {names : List String} {constraints : List Constraint}
    {plan : Plan} (faithful : Faithful names constraints plan)
    (few : names.length ≤ maxParameters) (value : Nat → SqlValue) :
    arguments plan.mask names.length ((plan.apply (IndexInfo.fresh constraints)).handed value) =
      .ok ((List.range names.length).map fun parameter =>
        (firstEquality constraints parameter).map value) := by
  let atParameter (parameter : Nat) : SqlValue :=
    ((firstEquality constraints parameter).map value).getD .null
  have laidOut : (plan.bound.map fun binding => value binding.constraint) =
      ((List.range names.length).filter fun parameter => testBit plan.mask parameter).map
        atParameter := by
    rw [← faithful.parameters_eq (Nat.le_refl _), List.map_map]
    refine List.map_congr_left ?_
    intro binding member
    simp only [Function.comp_apply, atParameter, faithful.source binding member, Option.map_some,
      Option.getD_some]
  rw [faithful.handed_apply]
  unfold arguments
  rw [Nat.min_eq_left few, laidOut, place_filter]
  congr 1
  refine List.map_congr_left ?_
  intro parameter inRange
  rw [faithful.testBit_eq (List.mem_range.mp inRange)]
  simp only [atParameter]
  cases firstEquality constraints parameter <;> rfl

end Plan

end RowSource
