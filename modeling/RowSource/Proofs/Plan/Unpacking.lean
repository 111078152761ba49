import RowSource.Proofs.Plan.Handover

/-!
# Arguments by their rank

Whatever the mask and the values, the value of a parameter is found by counting: it is the one that
has as many before it as there are bits below the parameter's own. The bits that no parameter has and
the values that no bit asks for make no difference.
-/

namespace RowSource

namespace Plan

/-! ### Counting bits -/

theorem asked_range_lt {mask : UInt32} {parameter limit : Nat}
    (set : testBit mask parameter = true) (below : parameter < limit) :
    asked mask (List.range parameter) < asked mask (List.range limit) := by
  unfold asked
  calc (List.range parameter).countP (testBit mask)
      < (List.range (parameter + 1)).countP (testBit mask) := by
        rw [List.range_succ, List.countP_append, List.countP_singleton, if_pos set]
        exact Nat.lt_succ_self _
    _ ≤ (List.range limit).countP (testBit mask) :=
        (List.range_sublist.mpr below).countP_le

theorem asked_congr {mask other : UInt32} {limit : Nat}
    (same : ∀ parameter, parameter < limit → testBit other parameter = testBit mask parameter) :
    asked other (List.range limit) = asked mask (List.range limit) := by
  refine List.countP_congr fun parameter member => ?_
  rw [same parameter (List.mem_range.mp member)]

/-! ### The value of a parameter -/

section Given

variable {mask : UInt32} {parameter limit : Nat} {values : List SqlValue}

theorem given_eq_none_iff (below : parameter < limit)
    (enough : asked mask (List.range limit) ≤ values.length) :
    given mask values parameter = none ↔ testBit mask parameter = false := by
  unfold given
  cases set : testBit mask parameter with
  | false => simp
  | true =>
      have within := asked_range_lt set below
      have present : asked mask (List.range parameter) < values.length := by omega
      rw [if_pos rfl, List.getElem?_eq_getElem present]
      simp

theorem given_append (below : parameter < limit)
    (enough : asked mask (List.range limit) ≤ values.length) (surplus : List SqlValue) :
    given mask (values ++ surplus) parameter = given mask values parameter := by
  unfold given
  cases set : testBit mask parameter with
  | false => rfl
  | true =>
      have within := asked_range_lt set below
      simp only [if_true]
      exact List.getElem?_append_left (by omega)

theorem given_congr {other : UInt32}
    (same : ∀ lower, lower < limit → testBit other lower = testBit mask lower)
    (below : parameter < limit) : given other values parameter = given mask values parameter := by
  unfold given
  rw [same parameter below,
    asked_congr fun lower lowest => same lower (Nat.lt_trans lowest below)]

end Given

/-! ### What is given out -/

/-- The values are given out by counting bits. It takes as many values as there are bits below the
limit of the parameters; then a parameter has a value exactly if its bit is set, namely the one whose
place is the number of bits below, and together they are the values at the front. Values and bits
beyond these make no difference. With fewer values it fails, and says how many there were and for
which mask. -/
theorem arguments_by_rank (mask : UInt32) (count : Nat) (values : List SqlValue) :
    let limit := min count 32
    let needed := asked mask (List.range limit)
    ((∃ args, arguments mask count values = .ok args) ↔ needed ≤ values.length) ∧
    (∀ args, arguments mask count values = .ok args →
      args.length = limit ∧
      (∀ parameter, parameter < limit → ∃ entry, args[parameter]? = some entry ∧
        (entry = none ↔ testBit mask parameter = false) ∧
        (testBit mask parameter = true → entry = values[asked mask (List.range parameter)]?)) ∧
      args.reduceOption = values.take needed) ∧
    (needed ≤ values.length → ∀ surplus,
      arguments mask count (values ++ surplus) = arguments mask count values) ∧
    (∀ other : UInt32,
      (∀ parameter, parameter < limit → testBit other parameter = testBit mask parameter) →
      ∀ args, arguments other count values = .ok args ↔ arguments mask count values = .ok args) ∧
    (values.length < needed → arguments mask count values =
      .error (.internal ("filter received " ++ toString values.length ++
        " arguments for plan mask " ++
          ("0x" ++ String.ofList (Nat.toDigits 16 mask.toNat))))) := by
  intro limit needed
  refine ⟨⟨?_, ?_⟩, ?_, ?_, ?_, arguments_of_short⟩
  · rintro ⟨args, placed⟩
    exact (arguments_eq_ok_iff.mp placed).1
  · intro enough
    exact ⟨_, arguments_of_asked enough⟩
  · intro args placed
    obtain ⟨enough, same⟩ := arguments_eq_ok_iff.mp placed
    have laidOut : args = (List.range limit).map (given mask values) := same
    have length : args.length = limit := by
      rw [laidOut, List.length_map, List.length_range]
    refine ⟨length, fun parameter below => ?_, reduceOption_of_arguments placed⟩
    refine ⟨given mask values parameter, ?_, given_eq_none_iff below enough, fun set => if_pos set⟩
    rw [laidOut, List.getElem?_map, List.getElem?_range below, Option.map_some]
  · intro enough surplus
    have more : needed ≤ (values ++ surplus).length := by
      rw [List.length_append]
      exact Nat.le_add_right_of_le enough
    rw [arguments_of_asked enough, arguments_of_asked more]
    refine congrArg Except.ok (List.map_congr_left fun parameter member => ?_)
    exact given_append (List.mem_range.mp member) enough surplus
  · intro other same args
    have laidOut : (List.range limit).map (given other values) =
        (List.range limit).map (given mask values) :=
      List.map_congr_left fun parameter member => given_congr same (List.mem_range.mp member)
    rw [arguments_eq_ok_iff, arguments_eq_ok_iff]
    change asked other (List.range limit) ≤ _ ∧ args = (List.range limit).map _ ↔ _
    rw [asked_congr same, laidOut]
    rfl

/-- Three parameters, and a mask with three bits that none of them has. Two values are enough, a third
makes no difference, nor do the bits of no parameter. They do when there are forty parameters, and
then two values are too few. -/
theorem arguments_by_rank_scattered :
    let values : List SqlValue := [.integer 10, .integer 30]
    (∃ args, arguments 0x80000125 3 values = .ok args ∧ args.length = 3 ∧
      args[1]? = some none ∧ args[2]? = some (some (.integer 30)) ∧
      args.reduceOption = values) ∧
    arguments 0x80000125 3 (values ++ [.null]) = arguments 0x80000125 3 values ∧
    (∀ args, arguments 5 3 values = .ok args ↔ arguments 0x80000125 3 values = .ok args) ∧
    arguments 0x80000125 40 values =
      .error (.internal "filter received 2 arguments for plan mask 0x80000125") := by
  intro values
  obtain ⟨succeeds, exact, surplus, bits, -⟩ := arguments_by_rank 0x80000125 3 values
  obtain ⟨-, -, -, -, fails⟩ := arguments_by_rank 0x80000125 40 values
  have enough : asked 0x80000125 (List.range (min 3 32)) ≤ values.length := by decide
  refine ⟨?_, surplus enough [.null], bits 5 (by decide), ?_⟩
  · obtain ⟨args, placed⟩ := succeeds.mpr enough
    obtain ⟨length, entries, front⟩ := exact args placed
    obtain ⟨second, atSecond, unset, -⟩ := entries 1 (by decide)
    obtain ⟨third, atThird, -, set⟩ := entries 2 (by decide)
    rw [unset.mpr (by decide)] at atSecond
    rw [set (by decide)] at atThird
    exact ⟨args, placed, length, atSecond, atThird, front⟩
  · rw [fails (by decide)]
    exact congrArg (fun text => Except.error (Failure.internal text)) (by cbv)

end Plan

end RowSource
