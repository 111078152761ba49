import RowSource.Proofs.Number.Nearest

/-!
# Whole numbers

`toInt?` reads the exact value of a number, and the number of an integer of at most 53 binary digits
has that integer as its exact value.
-/

namespace RowSource

namespace Binary64

theorem neg_1074_le_exponent (x : Binary64) : -1074 ≤ x.exponent := by
  unfold exponent
  split <;> omega

theorem wholeMagnitude?_eq_some_iff (x : Binary64) (n : Nat) :
    x.wholeMagnitude? = some n ↔ x.magnitude = n * twoTo 1074 := by
  have least := x.neg_1074_le_exponent
  unfold wholeMagnitude? magnitude
  generalize x.significand = significand
  generalize x.exponent = exponent at least ⊢
  by_cases whole : 0 ≤ exponent
  · obtain ⟨scale, rfl⟩ := Int.eq_ofNat_of_zero_le whole
    have split : ((scale : Int) + 1074).toNat = scale + 1074 := by omega
    rw [if_pos whole, Int.toNat_natCast, split, twoTo_add, ← Nat.mul_assoc, Option.some_inj]
    exact ⟨congrArg (· * twoTo 1074), Nat.eq_of_mul_eq_mul_right (twoTo_pos 1074)⟩
  · obtain ⟨places, rfl⟩ : ∃ places : Nat, exponent = -places := ⟨(-exponent).toNat, by omega⟩
    have split : 1074 = places + (-(places : Int) + 1074).toNat := by omega
    have unit : (- -(places : Int)).toNat = places := by omega
    generalize (-(places : Int) + 1074).toNat = rest at split ⊢
    rw [if_neg whole, unit, split, twoTo_add, ← Nat.mul_assoc]
    have cancelled : significand * twoTo rest = n * twoTo places * twoTo rest ↔
        significand = n * twoTo places :=
      ⟨Nat.eq_of_mul_eq_mul_right (twoTo_pos rest), congrArg (· * twoTo rest)⟩
    rw [cancelled]
    dsimp only
    constructor
    · intro found
      split at found
      · rename_i divides
        rw [← Option.some.inj found]
        exact (Nat.div_mul_cancel (Nat.dvd_of_mod_eq_zero divides)).symm
      · cases found
    · rintro rfl
      rw [if_pos (Nat.mul_mod_left n _), Nat.mul_div_cancel n (twoTo_pos places)]

theorem toInt?_eq (x : Binary64) :
    x.toInt? =
      if x.isFinite then
        x.wholeMagnitude?.map fun n : Nat => if x.isNegative then -(n : Int) else (n : Int)
      else none := by
  unfold toInt?
  cases x.wholeMagnitude? <;> rfl

/-- A number is an integer when its exact value is. -/
theorem toInt?_eq_some_iff (x : Binary64) (i : Int) :
    x.toInt? = some i ↔ x.isFinite = true ∧ x.scaledInteger = i * twoTo 1074 := by
  have unit : (0 : Int) < (twoTo 1074 : Nat) := Int.natCast_pos.mpr (twoTo_pos 1074)
  have scaled (n : Nat) : x.magnitude = n * twoTo 1074 ↔
      (x.magnitude : Int) = n * (twoTo 1074 : Nat) := by
    rw [← Int.natCast_mul, Int.natCast_inj]
  have natural (j : Int) (same : (x.magnitude : Int) = j * (twoTo 1074 : Nat)) :
      ∃ n : Nat, j = n := by
    have positive : 0 ≤ j * (twoTo 1074 : Nat) := same ▸ Int.natCast_nonneg _
    exact Int.eq_ofNat_of_zero_le (Int.nonneg_of_mul_nonneg_left positive unit)
  rw [toInt?_eq, scaledInteger_eq]
  cases x.isFinite with
  | false => simp only [Bool.false_eq_true, if_false, false_and, reduceCtorEq]
  | true =>
      simp only [if_true, true_and, Option.map_eq_some_iff, wholeMagnitude?_eq_some_iff, scaled]
      cases x.isNegative with
      | false =>
          simp only [Bool.false_eq_true, if_false]
          constructor
          · rintro ⟨n, same, rfl⟩
            exact same
          · intro same
            obtain ⟨n, rfl⟩ := natural i same
            exact ⟨n, same, rfl⟩
      | true =>
          simp only [if_true]
          constructor
          · rintro ⟨n, same, rfl⟩
            rw [same, Int.neg_mul]
          · intro same
            have flipped : (x.magnitude : Int) = -i * (twoTo 1074 : Nat) := by
              rw [Int.neg_mul, ← same, Int.neg_neg]
            obtain ⟨n, negated⟩ := natural (-i) flipped
            rw [negated] at flipped
            exact ⟨n, flipped, Int.neg_eq_comm.mp negated⟩

/-! ### Integers that are numbers -/

/-- Nothing is rounded away of a value whose unit is a multiple of that of the digits. -/
theorem Rounds.exact {n scale exponent digits : Nat}
    (rounds : Rounds (n * twoTo scale) exponent digits)
    (fine : exponent - 1 ≤ scale) : digits * twoTo (exponent - 1) = n * twoTo scale := by
  have multiple : twoTo (exponent - 1) ∣ n * twoTo scale :=
    Nat.dvd_mul_left_of_dvd (Nat.pow_dvd_pow 2 fine) n
  obtain ⟨kept, rest, _wide, split, choice⟩ := rounds.split
  have unit := twoTo_pos (exponent - 1)
  generalize twoTo (exponent - 1) = step at *
  have leftOver : step ∣ rest := by
    rw [split] at multiple
    exact (Nat.dvd_add_right (Nat.dvd_mul_left step kept)).mp multiple
  have none : rest = 0 := by
    refine Nat.eq_zero_of_dvd_of_lt leftOver ?_
    rcases choice with ⟨_same, half, _even⟩ | ⟨_next, less, _half, _even⟩ <;> omega
  rcases choice with ⟨same, _half, _even⟩ | ⟨_next, _less, half, _even⟩
  · rw [split, same, none, Nat.add_zero]
  · omega

/-- The digits are used up only where the unit has become larger than that of the value. -/
theorem Rounds.fine {n scale exponent digits : Nat}
    (rounds : Rounds (n * twoTo scale) exponent digits)
    (small : n < twoTo 53) : exponent - 1 ≤ scale := by
  obtain ⟨kept, rest, wide, split, _choice⟩ := rounds.split
  have power : twoTo (52 + (exponent - 1)) < twoTo (53 + scale) := by
    calc twoTo (52 + (exponent - 1)) = twoTo 52 * twoTo (exponent - 1) := twoTo_add ..
      _ ≤ kept * twoTo (exponent - 1) := Nat.mul_le_mul_right _ wide
      _ ≤ kept * twoTo (exponent - 1) + rest := Nat.le_add_right _ rest
      _ = n * twoTo scale := split.symm
      _ < twoTo 53 * twoTo scale := Nat.mul_lt_mul_of_pos_right small (twoTo_pos scale)
      _ = twoTo (53 + scale) := (twoTo_add ..).symm
  have order := (Nat.pow_lt_pow_iff_right Nat.one_lt_two).mp power
  omega

/-- An integer of at most 53 binary digits is a number. -/
theorem scaledInteger_ofInt {i : Int} (small : i.natAbs < twoTo 53) :
    (ofInt i).scaledInteger = i * twoTo 1074 := by
  by_cases zero : i = 0
  · subst zero
    decide +kernel
  · have bounded : i.natAbs < twoTo 128 :=
      Nat.lt_trans small (Nat.pow_lt_pow_right (by decide) (by decide))
    obtain ⟨exponent, digits, rounds, _finite, sign, size, _parity⟩ := ofInt_rounds zero bounded
    have magnitude := size.trans (rounds.exact (rounds.fine small))
    rw [scaledInteger_eq, sign, magnitude]
    by_cases negative : i < 0
    · rw [decide_eq_true negative, if_pos rfl, Int.natCast_mul, ← Int.neg_mul,
        Int.ofNat_natAbs_of_nonpos (Int.le_of_lt negative), Int.neg_neg]
    · rw [decide_eq_false negative, if_neg Bool.false_ne_true, Int.natCast_mul,
        Int.natAbs_of_nonneg (Int.not_lt.mp negative)]

theorem toInt?_ofInt {i : Int} (small : i.natAbs < twoTo 53) : (ofInt i).toInt? = some i := by
  have bounded : i.natAbs < twoTo 128 :=
    Nat.lt_trans small (Nat.pow_lt_pow_right (by decide) (by decide))
  exact (toInt?_eq_some_iff _ i).mpr ⟨(nearest_ofInt bounded).finite, scaledInteger_ofInt small⟩

end Binary64

end RowSource
