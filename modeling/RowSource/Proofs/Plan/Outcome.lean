import RowSource.Proofs.Number.Whole
import RowSource.Proofs.Plan.Bindings

/-!
# What planning comes to

Only the constraints on parameter columns count. If one of them is not a usable `=`, planning fails
for the first such. Otherwise it fails if a column has no bit in the mask, and if all have theirs
there is a plan, and `Plan.Exact` says what is in it.
-/

namespace RowSource

/-- A constraint on the column of a parameter. -/
structure Constraint.On (names : List String) (c : Constraint) (parameter : Nat) : Prop where
  notLimit : c.op ≠ .limit
  notOffset : c.op ≠ .offset
  column : c.column = parameter
  within : parameter < names.length

/-- A constraint that a parameter can be bound by. -/
def Constraint.Binds (c : Constraint) : Prop := c.op = .eq ∧ c.usable = true

/-- Every constraint on a parameter column can bind it. -/
def AllBind (names : List String) (constraints : List Constraint) : Prop :=
  ∀ c ∈ constraints, ∀ parameter, c.On names parameter → c.Binds

theorem Constraint.parameter?_eq_some_iff {names : List String} {c : Constraint}
    {parameter : Nat} : c.parameter? names = some parameter ↔ c.On names parameter := by
  have pseudo : c.op.isPseudo = true ↔ c.op = .limit ∨ c.op = .offset := by
    unfold ConstraintOp.isPseudo
    rw [Bool.or_eq_true, decide_eq_true_eq, decide_eq_true_eq]
  unfold Constraint.parameter?
  constructor
  · intro about
    split at about
    · cases about
    · rename_i real
      rw [pseudo, not_or] at real
      split at about
      · cases about
      · split at about
        · rename_i within
          have same := Option.some.inj about
          exact ⟨real.1, real.2, by omega, same ▸ within⟩
        · cases about
  · rintro ⟨notLimit, notOffset, column, within⟩
    rw [if_neg (by rw [pseudo, not_or]; exact ⟨notLimit, notOffset⟩), if_neg (by omega), column,
      Int.toNat_natCast, if_pos within]

/-- Among constraints that can all bind, those that equate a parameter column are those on it. -/
theorem Constraint.equates_iff_on {names : List String} {c : Constraint} {parameter : Nat}
    (binds : c.On names parameter → c.Binds) (within : parameter < names.length) :
    c.equates parameter = true ↔ c.On names parameter := by
  unfold Constraint.equates
  rw [Bool.and_eq_true, decide_eq_true_eq, decide_eq_true_eq]
  constructor
  · rintro ⟨equality, column⟩
    exact ⟨by rw [equality]; decide, by rw [equality]; decide, column, within⟩
  · intro on
    exact ⟨(binds on).1, on.column⟩

theorem exists_first_of_not_allBind {names : List String} {constraints : List Constraint}
    (unbound : ¬AllBind names constraints) :
    ∃ before c after parameter, constraints = before ++ c :: after ∧ AllBind names before ∧
      c.On names parameter ∧ ¬c.Binds := by
  induction constraints with
  | nil => exact absurd (List.forall_mem_nil _) unbound
  | cons head rest ih =>
      by_cases first : ∃ parameter, head.On names parameter ∧ ¬head.Binds
      · obtain ⟨parameter, on, unfit⟩ := first
        exact ⟨[], head, rest, parameter, rfl, List.forall_mem_nil _, on, unfit⟩
      · have headBinds : ∀ parameter, head.On names parameter → head.Binds := by
          intro parameter on
          by_contra unfit
          exact first ⟨parameter, on, unfit⟩
        have later : ¬AllBind names rest := fun restBind =>
          unbound (List.forall_mem_cons.mpr ⟨headBinds, restBind⟩)
        obtain ⟨before, c, after, parameter, split, beforeBind, on, unfit⟩ := ih later
        exact ⟨head :: before, c, after, parameter, by rw [split, List.cons_append],
          List.forall_mem_cons.mpr ⟨headBinds, beforeBind⟩, on, unfit⟩

namespace Plan

/-! ### Collecting -/

theorem collect_of_missing {names : List String} {c : Constraint}
    (missing : c.parameter? names = none) (index : Nat) (rest : List Constraint) :
    collect names index (c :: rest) = collect names (index + 1) rest := by
  rw [collect, missing]

theorem collect_of_binds {names : List String} {c : Constraint} {parameter : Nat}
    (about : c.parameter? names = some parameter) (binds : c.Binds) (index : Nat)
    (rest : List Constraint) :
    collect names index (c :: rest) =
      (collect names (index + 1) rest).map fun found => (parameter, index) :: found := by
  rw [collect, about]
  dsimp only
  rw [if_neg (not_not.mpr binds.1), binds.2, if_neg (by decide)]
  cases collect names (index + 1) rest <;> rfl

/-- What is wrong with a constraint that cannot bind the parameter of a name. -/
def complaint (c : Constraint) (name : String) : Failure :=
  if c.op = .eq then .unusableConstraint else .planning name

/-- Collecting fails for the first constraint that cannot bind, whatever comes after it. -/
theorem collect_of_first {names : List String} {before after : List Constraint} {c : Constraint}
    {parameter : Nat} (beforeBind : AllBind names before) (on : c.On names parameter)
    (unfit : ¬c.Binds) (index : Nat) :
    collect names index (before ++ c :: after) =
      .error (complaint c (names.getD parameter "")) := by
  induction before generalizing index with
  | nil =>
      rw [List.nil_append, collect, Constraint.parameter?_eq_some_iff.mpr on]
      dsimp only
      unfold complaint
      by_cases equality : c.op = .eq
      · have unusable : c.usable = false :=
          Bool.eq_false_iff.mpr fun usable => unfit ⟨equality, usable⟩
        rw [if_neg (not_not.mpr equality), unusable, if_pos equality]
        rfl
      · rw [if_pos equality, if_neg equality]
  | cons head rest ih =>
      obtain ⟨headBinds, restBind⟩ := List.forall_mem_cons.mp beforeBind
      rw [List.cons_append]
      cases about : head.parameter? names with
      | none => rw [collect_of_missing about, ih restBind]
      | some other =>
          have binds := headBinds other (Constraint.parameter?_eq_some_iff.mp about)
          rw [collect_of_binds about binds, ih restBind]
          rfl

/-- The parameters that constraints are about, each with the place of its constraint. -/
def concerned (names : List String) (index : Nat) (constraints : List Constraint) :
    List (Nat × Nat) :=
  (constraints.zipIdx index).filterMap fun entry =>
    (entry.1.parameter? names).map fun parameter => (parameter, entry.2)

theorem collect_of_allBind {names : List String} {constraints : List Constraint}
    (allBind : AllBind names constraints) (index : Nat) :
    collect names index constraints = .ok (concerned names index constraints) := by
  induction constraints generalizing index with
  | nil => rfl
  | cons head rest ih =>
      obtain ⟨headBinds, restBind⟩ := List.forall_mem_cons.mp allBind
      unfold concerned at ih ⊢
      rw [List.zipIdx_cons]
      cases about : head.parameter? names with
      | none =>
          rw [collect_of_missing about, ih restBind, List.filterMap_cons_none (by rw [about]; rfl)]
      | some parameter =>
          have binds := headBinds parameter (Constraint.parameter?_eq_some_iff.mp about)
          rw [collect_of_binds about binds, ih restBind,
            List.filterMap_cons_some (by rw [about]; rfl)]
          rfl

theorem mem_concerned {names : List String} {constraints : List Constraint} {parameter : Nat} :
    (∃ place, (parameter, place) ∈ concerned names 0 constraints) ↔
      ∃ c ∈ constraints, c.On names parameter := by
  unfold concerned
  simp only [List.mem_filterMap, Option.map_eq_some_iff, Constraint.parameter?_eq_some_iff,
    Prod.mk.injEq, Prod.exists, List.mk_mem_zipIdx_iff_getElem?]
  constructor
  · rintro ⟨place, c, _, found, _, on, rfl, rfl⟩
    exact ⟨c, List.mem_of_getElem? found, on⟩
  · rintro ⟨c, member, on⟩
    obtain ⟨place, found⟩ := List.getElem?_of_mem member
    exact ⟨place, c, place, found, parameter, on, rfl, rfl⟩

/-! ### Binding -/

/-- Binding fails for the first pair whose parameter has no bit in the mask. -/
theorem bind_of_wide {found : List (Nat × Nat)} {pair : Nat × Nat}
    (wide : found.find? (fun pair => decide (maxParameters ≤ pair.1)) = some pair) (position : Nat)
    (mask : UInt32) :
    bind position mask found = .error (.internal
      ("parameter index " ++ toString pair.1 ++ " exceeds the plan bitmask")) := by
  induction found generalizing position mask with
  | nil => cases wide
  | cons head rest ih =>
      obtain ⟨parameter, constraint⟩ := head
      unfold bind
      by_cases above : maxParameters ≤ parameter
      · rw [List.find?_cons_of_pos (by exact decide_eq_true above)] at wide
        rw [if_pos above, ← Option.some.inj wide]
      · rw [List.find?_cons_of_neg (by simpa using above)] at wide
        rw [if_neg above]
        split
        · exact ih wide position mask
        · rw [ih wide]
          rfl

theorem bind_of_narrow {found : List (Nat × Nat)}
    (narrow : ∀ pair ∈ found, pair.1 < maxParameters) (position : Nat) (mask : UInt32) :
    ∃ result, bind position mask found = .ok result := by
  induction found generalizing position mask with
  | nil => exact ⟨_, rfl⟩
  | cons head rest ih =>
      obtain ⟨parameter, constraint⟩ := head
      obtain ⟨below, restNarrow⟩ := List.forall_mem_cons.mp narrow
      unfold bind
      rw [if_neg (Nat.not_le.mpr below)]
      split
      · exact ih restNarrow position mask
      · obtain ⟨result, made⟩ := ih restNarrow (position + 1) (setBit mask parameter)
        rw [made]
        exact ⟨_, rfl⟩

/-! ### Planning -/

theorem make_of_first {names : List String} {before after : List Constraint} {c : Constraint}
    {parameter : Nat} (beforeBind : AllBind names before) (on : c.On names parameter)
    (unfit : ¬c.Binds) :
    make names (before ++ c :: after) = .error (complaint c (names.getD parameter "")) := by
  unfold make
  rw [collect_of_first beforeBind on unfit]
  rfl

theorem make_of_allBind {names : List String} {constraints : List Constraint}
    (allBind : AllBind names constraints) :
    make names constraints =
      (bind 1 0 ((concerned names 0 constraints).mergeSort fun a b => a.1 ≤ b.1)).map
        fun (bound, mask) =>
          ⟨bound, mask, Binary64.ofInt (estimate bound.length), estimate bound.length⟩ := by
  unfold make
  rw [collect_of_allBind allBind]
  change (bind 1 0 (List.mergeSort _ _) >>= _) = _
  cases bind 1 0 ((concerned names 0 constraints).mergeSort fun a b => a.1 ≤ b.1) <;> rfl

theorem make_of_wide {names : List String} {constraints : List Constraint}
    (allBind : AllBind names constraints) {wide : Nat} (above : maxParameters ≤ wide)
    (constrained : ∃ c ∈ constraints, c.On names wide) :
    ∃ least, maxParameters ≤ least ∧ (∃ c ∈ constraints, c.On names least) ∧
      (∀ c ∈ constraints, ∀ parameter, c.On names parameter → maxParameters ≤ parameter →
        least ≤ parameter) ∧
      make names constraints = .error (.internal
        ("parameter index " ++ toString least ++ " exceeds the plan bitmask")) := by
  let sorted := (concerned names 0 constraints).mergeSort fun a b => a.1 ≤ b.1
  have ordered : sorted.Pairwise fun a b => a.1 ≤ b.1 := 
    pairwise_mergeSort_key (·.1) (concerned names 0 constraints)
  obtain ⟨place, listed⟩ := mem_concerned.mpr constrained
  have found : ∃ pair, sorted.find? (fun pair => decide (maxParameters ≤ pair.1)) = some pair := by
    rw [← Option.isSome_iff_exists, List.find?_isSome]
    exact ⟨(wide, place), List.mem_mergeSort.mpr listed, decide_eq_true above⟩
  obtain ⟨⟨least, first⟩, found⟩ := found
  have leastAbove := List.find?_some found
  rw [decide_eq_true_eq] at leastAbove
  have leastListed := List.mem_mergeSort.mp (List.mem_of_find?_eq_some found)
  refine ⟨least, leastAbove, mem_concerned.mp ⟨first, leastListed⟩, ?_, ?_⟩
  · intro c member parameter on parameterAbove
    obtain ⟨other, otherListed⟩ := mem_concerned.mpr ⟨c, member, on⟩
    obtain ⟨-, before, after, split, below⟩ := List.find?_eq_some_iff_append.mp found
    have inSorted : (parameter, other) ∈ sorted := List.mem_mergeSort.mpr otherListed
    rw [split, List.mem_append, List.mem_cons] at inSorted
    rcases inSorted with early | same | late
    · have notAbove := below _ early
      simp only [decide_eq_true parameterAbove] at notAbove
      cases notAbove
    · exact Nat.le_of_eq (congrArg Prod.fst same).symm
    · rw [split, List.pairwise_append, List.pairwise_cons] at ordered
      exact ordered.2.1.1 _ late
  · rw [make_of_allBind allBind]
    change (bind 1 0 sorted).map _ = _
    rw [bind_of_wide found]
    rfl

theorem make_of_narrow {names : List String} {constraints : List Constraint}
    (allBind : AllBind names constraints)
    (narrow : ∀ c ∈ constraints, ∀ parameter, c.On names parameter → parameter < maxParameters) :
    ∃ plan, make names constraints = .ok plan ∧
      plan.estimatedRows = estimate plan.bound.length ∧
      plan.estimatedCost = Binary64.ofInt plan.estimatedRows := by
  let sorted := (concerned names 0 constraints).mergeSort fun a b => a.1 ≤ b.1
  have low : ∀ pair ∈ sorted, pair.1 < maxParameters := by
    rintro ⟨parameter, place⟩ member
    obtain ⟨c, inList, on⟩ := mem_concerned.mp ⟨place, List.mem_mergeSort.mp member⟩
    exact narrow c inList parameter on
  obtain ⟨⟨bound, mask⟩, made⟩ := bind_of_narrow low 1 0
  rw [make_of_allBind allBind]
  change ∃ plan, (bind 1 0 sorted).map _ = .ok plan ∧ _
  rw [made]
  exact ⟨_, rfl, rfl, rfl⟩

/-- All there is to know of a plan. -/
structure Exact (names : List String) (constraints : List Constraint) (plan : Plan) : Prop where
  bound_iff : ∀ parameter, (∃ binding ∈ plan.bound, binding.parameter = parameter) ↔
    ∃ c ∈ constraints, c.On names parameter
  ascending : plan.bound.Pairwise fun a b => a.parameter < b.parameter
  source : ∀ binding ∈ plan.bound,
    ∃ c, constraints[binding.constraint]? = some c ∧ c.On names binding.parameter
  lowest : ∀ binding ∈ plan.bound, ∀ place < binding.constraint, ∀ c,
    constraints[place]? = some c → ¬c.On names binding.parameter
  position : ∀ (place : Nat) (binding : Binding), plan.bound[place]? = some binding →
    binding.position = place + 1
  bit_iff : ∀ parameter, plan.mask.toNat.testBit parameter = true ↔
    ∃ binding ∈ plan.bound, binding.parameter = parameter
  isBound_iff : ∀ parameter, plan.isBound parameter = true ↔
    ∃ binding ∈ plan.bound, binding.parameter = parameter
  rows : plan.estimatedRows = (1000000000 / (1 + plan.bound.length) : Nat)
  cost : plan.estimatedCost.toInt? = some plan.estimatedRows

/-- Where all constraints on parameter columns can bind, the first `=` on a column is the first
constraint on it. -/
theorem firstEquality_eq_some_iff {names : List String} {constraints : List Constraint}
    (allBind : AllBind names constraints) {parameter : Nat} (within : parameter < names.length)
    (place : Nat) :
    firstEquality constraints parameter = some place ↔
      (∃ c, constraints[place]? = some c ∧ c.On names parameter) ∧
        ∀ earlier < place, ∀ c, constraints[earlier]? = some c → ¬c.On names parameter := by
  have equates {index : Nat} {c : Constraint} (found : constraints[index]? = some c) :
      c.equates parameter = true ↔ c.On names parameter :=
    Constraint.equates_iff_on (allBind c (List.mem_of_getElem? found) parameter) within
  unfold firstEquality
  rw [List.findIdx?_eq_some_iff_getElem]
  constructor
  · rintro ⟨inRange, here, before⟩
    refine ⟨⟨_, List.getElem?_eq_getElem inRange, ?_⟩, ?_⟩
    · exact (equates (List.getElem?_eq_getElem inRange)).mp here
    · intro earlier early c found on
      obtain ⟨earlyInRange, rfl⟩ := List.getElem?_eq_some_iff.mp found
      exact before earlier early ((equates found).mpr on)
  · rintro ⟨⟨c, found, on⟩, before⟩
    obtain ⟨inRange, rfl⟩ := List.getElem?_eq_some_iff.mp found
    refine ⟨inRange, (equates found).mpr on, fun earlier early equal => ?_⟩
    have foundEarly := List.getElem?_eq_getElem (Nat.lt_trans early inRange)
    exact before earlier early _ foundEarly ((equates foundEarly).mp equal)

theorem Faithful.exact {names : List String} {constraints : List Constraint} {plan : Plan}
    (faithful : Faithful names constraints plan) (allBind : AllBind names constraints)
    (narrow : ∀ c ∈ constraints, ∀ parameter, c.On names parameter → parameter < maxParameters)
    (rows : plan.estimatedRows = estimate plan.bound.length)
    (cost : plan.estimatedCost = Binary64.ofInt plan.estimatedRows) :
    Exact names constraints plan := by
  have source (binding : Binding) (member : binding ∈ plan.bound) :=
    (firstEquality_eq_some_iff allBind (faithful.within binding member) _).mp
      (faithful.source binding member)
  have bound (parameter : Nat) : (∃ binding ∈ plan.bound, binding.parameter = parameter) ↔
      ∃ c ∈ constraints, c.On names parameter := by
    constructor
    · rintro ⟨binding, member, rfl⟩
      obtain ⟨⟨c, found, on⟩, -⟩ := source binding member
      exact ⟨c, List.mem_of_getElem? found, on⟩
    · rintro ⟨c, member, on⟩
      have equal := (Constraint.equates_iff_on (fun _ => allBind c member parameter on)
        on.within).mpr on
      have present : (firstEquality constraints parameter).isSome := by
        unfold firstEquality
        rw [List.findIdx?_isSome, List.any_eq_true]
        exact ⟨c, member, equal⟩
      obtain ⟨place, first⟩ := Option.isSome_iff_exists.mp present
      exact faithful.complete on.within first
  have bits (parameter : Nat) : plan.mask.toNat.testBit parameter = true ↔
      ∃ binding ∈ plan.bound, binding.parameter = parameter := by
    have bit := faithful.bits parameter
    unfold testBit at bit
    rw [bit, List.any_eq_true]
    simp only [beq_iff_eq]
  refine
    { bound_iff := bound
      ascending := faithful.ascending
      source := fun binding member => (source binding member).1
      lowest := fun binding member => (source binding member).2
      position := ?_
      bit_iff := bits
      isBound_iff := ?_
      rows := ?_
      cost := ?_ }
  · intro place binding found
    have listed := congrArg (·[place]?) faithful.positions
    obtain ⟨inRange, -⟩ := List.getElem?_eq_some_iff.mp found
    simp only [List.getElem?_map, found, Option.map_some, List.getElem?_range' inRange] at listed
    have same := Option.some.inj listed
    omega
  · intro parameter
    unfold isBound
    rw [Bool.and_eq_true, decide_eq_true_eq]
    constructor
    · exact fun both => (bits parameter).mp both.2
    · intro member
      obtain ⟨c, inList, on⟩ := (bound parameter).mp member
      exact ⟨narrow c inList parameter on, (bits parameter).mpr member⟩
  · rw [rows, Nat.add_comm]
    rfl
  · rw [cost, rows]
    refine Binary64.toInt?_ofInt ?_
    have most : estimate plan.bound.length ≤ 1000000000 := Nat.div_le_self ..
    have power : twoTo 53 = 9007199254740992 := rfl
    omega

/-- The exact outcome of planning. If a constraint on a parameter column is not a usable `=`,
planning fails for the first such. Otherwise, if a constraint is on a column that has no bit in the
mask, planning fails for the lowest such column. Otherwise there is a plan, and it is exact. -/
theorem make_outcome (names : List String) (constraints : List Constraint) :
    (¬AllBind names constraints → ∃ before c after parameter name,
      constraints = before ++ c :: after ∧ AllBind names before ∧
      c.On names parameter ∧ ¬c.Binds ∧ names[parameter]? = some name ∧
      (c.op ≠ .eq → make names constraints = .error (.planning name)) ∧
      (c.op = .eq → make names constraints = .error .unusableConstraint)) ∧
    (AllBind names constraints → (∃ c ∈ constraints, ∃ parameter, c.On names parameter ∧
      32 ≤ parameter) → ∃ least, 32 ≤ least ∧ (∃ c ∈ constraints, c.On names least) ∧
        (∀ c ∈ constraints, ∀ parameter, c.On names parameter → 32 ≤ parameter →
          least ≤ parameter) ∧
        make names constraints = .error (.internal
          ("parameter index " ++ toString least ++ " exceeds the plan bitmask"))) ∧
    (AllBind names constraints → (∀ c ∈ constraints, ∀ parameter, c.On names parameter →
      parameter < 32) → ∃ plan, make names constraints = .ok plan ∧
        Exact names constraints plan) := by
  refine ⟨?_, ?_, ?_⟩
  · intro unbound
    obtain ⟨before, c, after, parameter, rfl, beforeBind, on, unfit⟩ :=
      exists_first_of_not_allBind unbound
    have failed : make names (before ++ c :: after) = _ := make_of_first beforeBind on unfit
    have named := List.getElem?_eq_getElem on.within
    rw [List.getD_eq_getElem?_getD, named, Option.getD_some] at failed
    refine ⟨before, c, after, parameter, _, rfl, beforeBind, on, unfit, named, ?_, ?_⟩
    · intro other
      rw [failed, complaint, if_neg other]
    · intro equality
      rw [failed, complaint, if_pos equality]
  · rintro allBind ⟨c, member, parameter, on, above⟩
    exact make_of_wide allBind above ⟨c, member, on⟩
  · intro allBind narrow
    obtain ⟨plan, made, rows, cost⟩ := make_of_narrow allBind narrow
    exact ⟨plan, made, (make_faithful made).exact allBind narrow rows cost⟩

/-- Each outcome is met: by an `=` that is not usable after a constraint on a data column, by two
columns beyond the mask, the higher one first, and by a constraint on the last column of the mask. -/
theorem make_outcome_each :
    make ["a", "b"] [⟨0, .limit, false⟩, ⟨2, .gt, true⟩, ⟨1, .eq, false⟩, ⟨0, .eq, true⟩] =
      .error .unusableConstraint ∧
    make (List.replicate 34 "p") [⟨33, .eq, true⟩, ⟨0, .eq, true⟩, ⟨32, .eq, true⟩] =
      .error (.internal "parameter index 32 exceeds the plan bitmask") ∧
    ∃ plan, make (List.replicate 32 "p") [⟨31, .eq, true⟩, ⟨-1, .eq, false⟩, ⟨31, .eq, true⟩] =
      .ok plan ∧ plan.isBound 31 = true ∧ plan.isBound 63 = false := by
  refine ⟨?_, ?_, ?_⟩
  · let constraints : List Constraint :=
      [⟨0, .limit, false⟩, ⟨2, .gt, true⟩, ⟨1, .eq, false⟩, ⟨0, .eq, true⟩]
    have unbound : ¬AllBind ["a", "b"] constraints := by
      intro allBind
      have on : Constraint.On ["a", "b"] ⟨1, .eq, false⟩ 1 := ⟨by decide, by decide, rfl, by decide⟩
      exact absurd (allBind _ (by decide) 1 on).2 (by decide)
    obtain ⟨before, c, after, parameter, name, split, -, on, unfit, -, planning, unusable⟩ :=
      (make_outcome ["a", "b"] constraints).1 unbound
    have member : c ∈ constraints := by rw [split]; simp
    have column := on.column
    have within : parameter < 2 := on.within
    refine unusable ?_
    rcases List.mem_cons.mp member with rfl | member
    · exact absurd rfl on.notLimit
    · rcases List.mem_cons.mp member with rfl | member
      · change (2 : Int) = parameter at column
        omega
      · rcases List.mem_cons.mp member with rfl | member
        · rfl
        · rw [List.mem_singleton.mp member]
  · have allBind : AllBind (List.replicate 34 "p")
        [⟨33, .eq, true⟩, ⟨0, .eq, true⟩, ⟨32, .eq, true⟩] := by
      intro c member parameter _on
      simp only [List.mem_cons, List.not_mem_nil, or_false] at member
      rcases member with rfl | rfl | rfl <;> exact ⟨rfl, rfl⟩
    have lowest : Constraint.On (List.replicate 34 "p") ⟨32, .eq, true⟩ 32 :=
      ⟨by decide, by decide, rfl, by decide⟩
    obtain ⟨least, above, -, below, failed⟩ := (make_outcome (List.replicate 34 "p") _).2.1 allBind
      ⟨_, by decide, 32, lowest, by decide⟩
    have same : least = 32 := Nat.le_antisymm (below _ (by decide) 32 lowest (by decide)) above
    rw [same] at failed
    exact failed
  · have column {c : Constraint} {parameter : Nat}
        (member : c ∈ ([⟨31, .eq, true⟩, ⟨-1, .eq, false⟩, ⟨31, .eq, true⟩] : List Constraint))
        (on : c.On (List.replicate 32 "p") parameter) : c = ⟨31, .eq, true⟩ ∧ parameter = 31 := by
      have same := on.column
      simp only [List.mem_cons, List.not_mem_nil, or_false] at member
      rcases member with rfl | rfl | rfl
      · exact ⟨rfl, by change (31 : Int) = parameter at same; omega⟩
      · change (-1 : Int) = parameter at same
        omega
      · exact ⟨rfl, by change (31 : Int) = parameter at same; omega⟩
    obtain ⟨plan, made, facts⟩ := (make_outcome (List.replicate 32 "p") _).2.2
      (fun c member parameter on => by rw [(column member on).1]; exact ⟨rfl, rfl⟩)
      (fun c member parameter on => by rw [(column member on).2]; decide)
    have last : Constraint.On (List.replicate 32 "p") ⟨31, .eq, true⟩ 31 :=
      ⟨by decide, by decide, rfl, by decide⟩
    refine ⟨plan, made, ?_, ?_⟩
    · exact (facts.isBound_iff 31).mpr ((facts.bound_iff 31).mpr ⟨_, by decide, last⟩)
    · rw [← Bool.not_eq_true, facts.isBound_iff, facts.bound_iff]
      rintro ⟨c, member, on⟩
      exact absurd (column member on).2 (by decide)

end Plan

end RowSource
