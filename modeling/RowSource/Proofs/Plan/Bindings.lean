import Mathlib.Data.List.Sort
import RowSource.Plan

/-!
# What a plan binds

A plan that is made at all binds exactly the parameter columns that have an `=` constraint, each to
the first such constraint, in the order of the columns, and its mask has exactly their bits.
`Plan.Faithful` says so, and `Plan.make_faithful` proves it.
-/

namespace RowSource

/-- Whether a constraint asks for a column to equal something. -/
def Constraint.equates (column : Nat) (c : Constraint) : Bool :=
  decide (c.op = .eq) && decide (c.column = column)

/-- The place of the first `=` constraint on a column. -/
def firstEquality (constraints : List Constraint) (column : Nat) : Option Nat :=
  constraints.findIdx? (Constraint.equates column)

theorem firstEquality_lt {constraints : List Constraint} {column place : Nat}
    (found : firstEquality constraints column = some place) : place < constraints.length := by
  unfold firstEquality at found
  rw [List.findIdx?_eq_some_iff_getElem] at found
  obtain ⟨inRange, _here, _before⟩ := found
  exact inRange

theorem firstEquality_injective {constraints : List Constraint} {left right place : Nat}
    (foundLeft : firstEquality constraints left = some place)
    (foundRight : firstEquality constraints right = some place) : left = right := by
  unfold firstEquality at foundLeft foundRight
  rw [List.findIdx?_eq_some_iff_getElem] at foundLeft foundRight
  obtain ⟨_inRange, atLeft, _before⟩ := foundLeft
  obtain ⟨_inRange, atRight, _before⟩ := foundRight
  simp only [Constraint.equates, Bool.and_eq_true, decide_eq_true_eq] at atLeft atRight
  omega

namespace Plan

/-! ### Answers -/

theorem answer_of_made {names : List String} {info : IndexInfo} {plan : Plan}
    (made : make names info.constraints = .ok plan) :
    answer names info = (.ok (), plan.apply info) := by
  unfold answer
  rw [made]

theorem answer_of_failed {names : List String} {info : IndexInfo} {failure : Failure}
    (failed : make names info.constraints = .error failure) :
    answer names info = (.error failure, info) := by
  unfold answer
  rw [failed]

/-! ### Masks -/

theorem testBit_zero (parameter : Nat) : testBit 0 parameter = false :=
  Nat.zero_testBit parameter

theorem testBit_setBit (mask : UInt32) {parameter : Nat} (within : parameter < maxParameters)
    (other : Nat) :
    testBit (setBit mask parameter) other = (testBit mask other || decide (other = parameter)) := by
  have bound : parameter < 32 := within
  have power : 2 ^ parameter < 2 ^ 32 := Nat.pow_lt_pow_right (by omega) bound
  have shifted : ((1 : UInt32) <<< UInt32.ofNat parameter).toNat = 2 ^ parameter := by
    rw [UInt32.toNat_shiftLeft, UInt32.toNat_ofNat_of_lt' (by change parameter < 4294967296; omega),
      Nat.mod_eq_of_lt bound, UInt32.toNat_one, Nat.one_shiftLeft, Nat.mod_eq_of_lt power]
  unfold testBit setBit
  rw [UInt32.toNat_or, Nat.testBit_or, shifted, Nat.testBit_two_pow]
  congr 1
  exact decide_eq_decide.2 eq_comm

/-! ### The constraints that are collected -/

theorem equates_of_parameter?_none {names : List String} {c : Constraint} {column : Nat}
    (missing : c.parameter? names = none) (within : column < names.length) :
    c.equates column = false := by
  unfold Constraint.equates
  rw [Bool.and_eq_false_imp]
  intro equality
  rw [decide_eq_true_eq] at equality
  rw [decide_eq_false_iff_not]
  intro same
  have notPseudo : c.op.isPseudo = false := by rw [equality]; rfl
  simp only [Constraint.parameter?, notPseudo, Bool.false_eq_true, if_false, same,
    Int.toNat_natCast, if_pos within] at missing
  split at missing
  · omega
  · cases missing

theorem column_of_parameter?_some {names : List String} {c : Constraint} {column : Nat}
    (about : c.parameter? names = some column) : c.column = column ∧ column < names.length := by
  unfold Constraint.parameter? at about
  split at about
  · cases about
  · split at about
    · cases about
    · split at about
      · rename_i within
        have same := Option.some.inj about
        exact ⟨by omega, same ▸ within⟩
      · cases about

theorem equates_of_parameter?_some {names : List String} {c : Constraint} {column : Nat}
    (about : c.parameter? names = some column) (equality : c.op = .eq) (other : Nat) :
    c.equates other = decide (column = other) := by
  have same := (column_of_parameter?_some about).1
  unfold Constraint.equates
  rw [decide_eq_true equality, Bool.true_and]
  exact decide_eq_decide.2 (by omega)

theorem collect_within {names : List String} {index : Nat} {constraints : List Constraint}
    {found : List (Nat × Nat)} (collected : collect names index constraints = .ok found) :
    ∀ pair ∈ found, pair.1 < names.length := by
  fun_induction collect names index constraints generalizing found with
  | case1 index =>
      cases collected
      simp
  | case2 index c rest _missing ih => exact ih collected
  | case3 => cases collected
  | case4 => cases collected
  | case5 index c rest parameter about equality _usable ih =>
      cases later : collect names (index + 1) rest with
      | error failure => rw [later] at collected; cases collected
      | ok others =>
          rw [later] at collected
          cases collected
          intro pair member
          rcases List.mem_cons.mp member with same | inRest
          · subst same
            exact (column_of_parameter?_some about).2
          · exact ih later pair inRest

/-- What is collected first for a parameter is the first `=` constraint on its column. -/
theorem find?_collect {names : List String} {index : Nat} {constraints : List Constraint}
    {found : List (Nat × Nat)} (collected : collect names index constraints = .ok found)
    {column : Nat} (within : column < names.length) :
    found.find? (fun pair => pair.1 == column) =
      (firstEquality constraints column).map fun place => (column, index + place) := by
  fun_induction collect names index constraints generalizing found with
  | case1 index =>
      cases collected
      rfl
  | case2 index c rest missing ih =>
      rw [ih collected]
      unfold firstEquality
      rw [List.findIdx?_cons, equates_of_parameter?_none missing within]
      simp only [Bool.false_eq_true, if_false, Option.map_map]
      congr 1
      funext place
      simp only [Function.comp_apply, Prod.mk.injEq, true_and]
      omega
  | case3 => cases collected
  | case4 => cases collected
  | case5 index c rest parameter about equality _usable ih =>
      rw [not_not] at equality
      cases later : collect names (index + 1) rest with
      | error failure => rw [later] at collected; cases collected
      | ok others =>
          rw [later] at collected
          cases collected
          unfold firstEquality
          rw [List.findIdx?_cons, equates_of_parameter?_some about equality, List.find?_cons]
          by_cases same : parameter = column
          · simp only [same, beq_self_eq_true, decide_true, if_true, Option.map_some,
              Nat.add_zero]
          · simp only [beq_eq_false_iff_ne.2 same, decide_eq_false same, Bool.false_eq_true,
              if_false, ih later]
            unfold firstEquality
            simp only [Option.map_map]
            congr 1
            funext place
            simp only [Function.comp_apply, Prod.mk.injEq, true_and]
            omega

theorem pairwise_mergeSort_key {α : Type} (key : α → Nat) (list : List α) :
    (list.mergeSort fun a b => key a ≤ key b).Pairwise fun a b => key a ≤ key b := by
  refine (List.pairwise_mergeSort ?_ ?_ list).imp of_decide_eq_true
  · intro a b c left right
    simp only [decide_eq_true_eq] at left right ⊢
    omega
  · intro a b
    simp only [Bool.or_eq_true, decide_eq_true_eq]
    omega

/-- Sorting by the parameter leaves the pairs of one parameter in their order. -/
theorem find?_mergeSort (found : List (Nat × Nat)) (column : Nat) :
    (found.mergeSort fun a b => a.1 ≤ b.1).find? (fun pair => pair.1 == column) =
      found.find? (fun pair => pair.1 == column) := by
  let sorted := found.mergeSort fun a b => a.1 ≤ b.1
  let onColumn : Nat × Nat → Bool := fun pair => pair.1 == column
  have alike : (found.filter onColumn).Pairwise fun a b => decide (a.1 ≤ b.1) = true := by
    rw [List.pairwise_iff_forall_sublist]
    intro a b sublist
    have memberB : b ∈ found.filter onColumn :=
      sublist.subset (List.mem_cons_of_mem _ (List.mem_cons_self ..))
    have atA := (List.mem_filter.mp (sublist.subset (List.mem_cons_self ..))).2
    have atB := (List.mem_filter.mp memberB).2
    simp only [onColumn, beq_iff_eq] at atA atB
    rw [decide_eq_true_eq]
    omega
  have kept : (found.filter onColumn).Sublist sorted :=
    List.sublist_mergeSort (fun a b c left right => by simp only [decide_eq_true_eq] at *; omega)
      (fun a b => by simp only [Bool.or_eq_true, decide_eq_true_eq]; omega) alike
      List.filter_sublist
  have filtered : (found.filter onColumn).Sublist (sorted.filter onColumn) := by
    have twice := kept.filter onColumn
    rwa [List.filter_filter, show (fun a => onColumn a && onColumn a) = onColumn from
      funext fun a => Bool.and_self _] at twice
  have sameLength : (found.filter onColumn).length = (sorted.filter onColumn).length :=
    ((List.mergeSort_perm found _).filter onColumn).length_eq.symm
  change sorted.find? onColumn = found.find? onColumn
  rw [← List.head?_filter, ← List.head?_filter, filtered.eq_of_length sameLength]

/-! ### The bindings -/

/-- What holds of bindings that were made from pairs, from a position and a mask on. -/
structure BoundFrom (position : Nat) (mask : UInt32) (found : List (Nat × Nat))
    (bound : List Binding) (result : UInt32) : Prop where
  positions : bound.map Binding.position = List.range' position bound.length
  bits : ∀ parameter,
    testBit result parameter = (testBit mask parameter || bound.any (·.parameter == parameter))
  fresh : ∀ binding ∈ bound, testBit mask binding.parameter = false
  first : ∀ binding ∈ bound, found.find? (fun pair => pair.1 == binding.parameter) =
    some (binding.parameter, binding.constraint)
  covered : ∀ pair ∈ found, testBit result pair.1 = true
  ascending : found.Pairwise (fun a b => a.1 ≤ b.1) →
    bound.Pairwise fun a b => a.parameter < b.parameter

theorem BoundFrom.none (position : Nat) (mask : UInt32) : BoundFrom position mask [] [] mask where
  positions := rfl
  bits parameter := by rw [List.any_nil, Bool.or_false]
  fresh _ member := by cases member
  first _ member := by cases member
  covered _ member := by cases member
  ascending _ := List.Pairwise.nil

/-- A pair of a parameter that has its bit already is passed over. -/
theorem BoundFrom.passed {position : Nat} {mask result : UInt32} {rest : List (Nat × Nat)}
    {bound : List Binding} {parameter constraint : Nat}
    (later : BoundFrom position mask rest bound result) (taken : testBit mask parameter = true) :
    BoundFrom position mask ((parameter, constraint) :: rest) bound result where
  positions := later.positions
  bits := later.bits
  fresh := later.fresh
  first binding member := by
    have different : parameter ≠ binding.parameter := by
      intro same
      rw [same, later.fresh binding member] at taken
      cases taken
    rw [List.find?_cons, beq_eq_false_iff_ne.2 different]
    exact later.first binding member
  covered pair member := by
    rcases List.mem_cons.mp member with same | inRest
    · subst same
      rw [later.bits, taken, Bool.true_or]
    · exact later.covered pair inRest
  ascending sorted := later.ascending sorted.of_cons

/-- A pair of another parameter is bound, and the bindings after it are of others again. -/
theorem BoundFrom.placed {position : Nat} {mask result : UInt32} {rest : List (Nat × Nat)}
    {bound : List Binding} {parameter : Nat} (constraint : Nat) (within : parameter < maxParameters)
    (free : testBit mask parameter = false)
    (later : BoundFrom (position + 1) (setBit mask parameter) rest bound result) :
    BoundFrom position mask ((parameter, constraint) :: rest)
      (⟨parameter, constraint, position⟩ :: bound) result := by
  have apart : ∀ binding ∈ bound,
      testBit mask binding.parameter = false ∧ binding.parameter ≠ parameter := by
    intro binding member
    have clear := later.fresh binding member
    rw [testBit_setBit mask within, Bool.or_eq_false_iff, decide_eq_false_iff_not] at clear
    exact clear
  refine
    { positions := ?_
      bits := ?_
      fresh := ?_
      first := ?_
      covered := ?_
      ascending := ?_ }
  · rw [List.map_cons, later.positions, List.length_cons, List.range'_succ]
  · intro other
    rw [later.bits, testBit_setBit mask within, List.any_cons, Bool.or_assoc]
    congr 2
    rw [Bool.eq_iff_iff, decide_eq_true_eq, beq_iff_eq]
    exact eq_comm
  · intro binding member
    rcases List.mem_cons.mp member with same | inTail
    · subst same
      exact free
    · exact (apart binding inTail).1
  · intro binding member
    rcases List.mem_cons.mp member with same | inTail
    · subst same
      rw [List.find?_cons, beq_self_eq_true]
    · rw [List.find?_cons, beq_eq_false_iff_ne.2 (apart binding inTail).2.symm]
      exact later.first binding inTail
  · intro pair member
    rcases List.mem_cons.mp member with same | inRest
    · subst same
      rw [later.bits, testBit_setBit mask within, decide_eq_true rfl, Bool.or_true, Bool.true_or]
    · exact later.covered pair inRest
  · intro sorted
    rw [List.pairwise_cons] at sorted ⊢
    refine ⟨?_, later.ascending sorted.2⟩
    intro binding inTail
    have below := sorted.1 _ (List.mem_of_find?_eq_some (later.first binding inTail))
    have different := (apart binding inTail).2
    change parameter < binding.parameter
    omega

theorem bind_boundFrom {position : Nat} {mask result : UInt32} {found : List (Nat × Nat)}
    {bound : List Binding} (made : bind position mask found = .ok (bound, result)) :
    BoundFrom position mask found bound result := by
  fun_induction bind position mask found generalizing bound with
  | case1 position mask =>
      cases made
      exact .none position _
  | case2 => cases made
  | case3 position mask parameter constraint rest _within taken ih => exact (ih made).passed taken
  | case4 position mask parameter constraint rest within free ih =>
      cases others : bind (position + 1) (setBit mask parameter) rest with
      | error failure => rw [others] at made; cases made
      | ok pair =>
          rw [others] at made
          cases made
          exact .placed constraint (Nat.not_le.mp within) ((Bool.not_eq_true _).mp free) (ih others)

/-- The bindings of a plan that answers constraints on the parameters of a table. -/
structure Faithful (names : List String) (constraints : List Constraint) (plan : Plan) : Prop where
  positions : plan.bound.map Binding.position = List.range' 1 plan.bound.length
  ascending : plan.bound.Pairwise fun a b => a.parameter < b.parameter
  within : ∀ binding ∈ plan.bound, binding.parameter < names.length
  source : ∀ binding ∈ plan.bound,
    firstEquality constraints binding.parameter = some binding.constraint
  complete : ∀ {parameter place : Nat}, parameter < names.length →
    firstEquality constraints parameter = some place →
      ∃ binding ∈ plan.bound, binding.parameter = parameter
  bits : ∀ parameter, testBit plan.mask parameter = plan.bound.any (·.parameter == parameter)

theorem make_faithful {names : List String} {constraints : List Constraint} {plan : Plan}
    (made : make names constraints = .ok plan) : Faithful names constraints plan := by
  unfold make at made
  cases collected : collect names 0 constraints with
  | error failure => rw [collected] at made; cases made
  | ok found =>
      rw [collected] at made
      let sorted := found.mergeSort fun a b => a.1 ≤ b.1
      cases bindings : bind 1 0 sorted with
      | error failure =>
          change (bind 1 0 sorted >>= _) = _ at made
          rw [bindings] at made
          cases made
      | ok pair =>
          obtain ⟨bound, mask⟩ := pair
          change (bind 1 0 sorted >>= _) = _ at made
          rw [bindings] at made
          cases made
          have facts := bind_boundFrom bindings
          have sortedFirst : ∀ {column}, column < names.length →
              sorted.find? (fun pair => pair.1 == column) =
                (firstEquality constraints column).map fun place => (column, place) := by
            intro column within
            rw [find?_mergeSort, find?_collect collected within]
            simp only [Nat.zero_add]
          have inNames : ∀ binding ∈ bound, binding.parameter < names.length := by
            intro binding member
            have inSorted := List.mem_of_find?_eq_some (facts.first binding member)
            exact collect_within collected _ (List.mem_mergeSort.mp inSorted)
          refine
            { positions := facts.positions
              ascending := facts.ascending ?_
              within := inNames
              source := ?_
              complete := ?_
              bits := ?_ }
          · exact pairwise_mergeSort_key (·.1) found
          · intro binding member
            have first := facts.first binding member
            rw [sortedFirst (inNames binding member), Option.map_eq_some_iff] at first
            obtain ⟨place, found, same⟩ := first
            rw [found, (Prod.mk.injEq ..).mp same |>.2]
          · intro parameter place within found
            have first := sortedFirst within
            rw [found, Option.map_some] at first
            have covered := facts.covered _ (List.mem_of_find?_eq_some first)
            rw [facts.bits, testBit_zero, Bool.false_or, List.any_eq_true] at covered
            obtain ⟨binding, member, same⟩ := covered
            exact ⟨binding, member, beq_iff_eq.mp same⟩
          · intro parameter
            rw [facts.bits, testBit_zero, Bool.false_or]

end Plan

end RowSource
