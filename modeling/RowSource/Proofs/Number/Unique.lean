import RowSource.Proofs.Number.Nearest

/-!
# Numbers told apart

A number is its sign and its exact value. So of the numbers nearest to an integer only one has the
sign of the integer: a tie is between two neighbours, of which one has an odd significand.
-/

namespace RowSource

namespace Binary64

/-! ### Fields -/

theorem toNat_bits (x : Binary64) :
    x.bits.toNat =
      (if x.isNegative then twoTo 63 else 0) + x.exponentField * twoTo 52 + x.fraction := by
  have within := x.bits.toNat_lt
  have unit : twoTo 52 = 4503599627370496 := rfl
  have top : twoTo 63 = 9223372036854775808 := rfl
  have field : twoTo 11 = 2048 := rfl
  unfold isNegative exponentField fraction
  rw [unit, top, field]
  simp only [decide_eq_true_eq]
  split <;> omega

theorem eq_of_fields {x y : Binary64} (sign : x.isNegative = y.isNegative)
    (field : x.exponentField = y.exponentField) (rest : x.fraction = y.fraction) : x = y := by
  have bits : x.bits.toNat = y.bits.toNat := by
    rw [toNat_bits, toNat_bits, sign, field, rest]
  cases x
  cases y
  exact congrArg mk (UInt64.toNat_inj.mp bits)

/-- The leading digit is left out of a fraction only where the exponent is the least there is. -/
theorem significand_wide (x : Binary64) :
    twoTo 52 ≤ x.significand ∨ (x.exponent + 1074).toNat = 0 := by
  unfold significand exponent
  split
  · exact .inr rfl
  · exact .inl (Nat.le_add_right _ _)

theorem fields_eq {x y : Binary64} (digits : x.significand = y.significand)
    (scale : (x.exponent + 1074).toNat = (y.exponent + 1074).toNat) :
    x.exponentField = y.exponentField ∧ x.fraction = y.fraction := by
  have withinX : x.fraction < twoTo 52 := Nat.mod_lt _ (twoTo_pos 52)
  have withinY : y.fraction < twoTo 52 := Nat.mod_lt _ (twoTo_pos 52)
  unfold significand at digits
  unfold exponent at scale
  by_cases leastX : x.exponentField = 0
  · by_cases leastY : y.exponentField = 0
    · rw [if_pos leastX, if_pos leastY] at digits
      exact ⟨leastX.trans leastY.symm, digits⟩
    · rw [if_pos leastX, if_neg leastY] at digits
      omega
  · by_cases leastY : y.exponentField = 0
    · rw [if_neg leastX, if_pos leastY] at digits
      omega
    · rw [if_neg leastX, if_neg leastY] at digits scale
      omega

/-! ### Values -/

/-- A larger exponent cannot make up for fewer digits. -/
theorem scale_le_of_magnitude {x y : Binary64} (same : x.magnitude = y.magnitude) :
    (y.exponent + 1074).toNat ≤ (x.exponent + 1074).toNat := by
  refine Nat.le_of_not_lt fun above => ?_
  have wide : twoTo 52 ≤ y.significand := y.significand_wide.resolve_right (by omega)
  exact Nat.ne_of_lt (mul_twoTo_lt x.significand_lt wide above) same

theorem eq_of_magnitude {x y : Binary64} (sign : x.isNegative = y.isNegative)
    (same : x.magnitude = y.magnitude) : x = y := by
  have scale := Nat.le_antisymm (scale_le_of_magnitude same.symm) (scale_le_of_magnitude same)
  have digits : x.significand = y.significand := by
    unfold magnitude at same
    rw [scale] at same
    exact Nat.eq_of_mul_eq_mul_right (twoTo_pos _) same
  obtain ⟨field, rest⟩ := fields_eq digits scale
  exact eq_of_fields sign field rest

theorem eq_of_scaledInteger {x y : Binary64} (sign : x.isNegative = y.isNegative)
    (same : x.scaledInteger = y.scaledInteger) : x = y := by
  refine eq_of_magnitude sign ?_
  rw [scaledInteger_eq, scaledInteger_eq, sign] at same
  split at same <;> omega

/-! ### Neighbours -/

/-- An odd multiple of a unit that uses up all digits has the very multiple for its significand. -/
theorem significand_odd {y : Binary64} {multiple unit : Nat} (wide : twoTo 52 ≤ multiple)
    (odd : multiple % 2 = 1) (size : y.magnitude = multiple * twoTo unit) :
    y.significand % 2 = 1 := by
  have short := y.significand_lt
  unfold magnitude at size
  generalize y.significand = significand at short size ⊢
  generalize (y.exponent + 1074).toNat = scale at size
  -- On a coarser scale the multiple would be even, and a finer one would need more digits.
  rcases Nat.lt_trichotomy unit scale with coarse | rfl | fine
  · obtain ⟨more, rfl⟩ := Nat.exists_eq_add_of_lt coarse
    have even : significand * (twoTo more * 2) = multiple := by
      refine Nat.eq_of_mul_eq_mul_right (twoTo_pos unit) ?_
      have split : twoTo (unit + more + 1) = twoTo more * 2 * twoTo unit := by
        rw [Nat.add_assoc, Nat.add_comm unit, twoTo_add, twoTo_add]
      rw [← size, split, Nat.mul_assoc]
    rw [← Nat.mul_assoc] at even
    omega
  · rw [Nat.eq_of_mul_eq_mul_right (twoTo_pos unit) size]
    exact odd
  · exact absurd size (Nat.ne_of_lt (mul_twoTo_lt short wide fine))

/-- A number that ties with the chosen digits is the other neighbour, an odd multiple of the unit. -/
theorem odd_of_tie {kept digits rest unit size : Nat} (choice : Chosen kept digits rest unit)
    (apart : size ≤ kept * unit ∨ (kept + 1) * unit ≤ size) (here other target : Int)
    (atHere : here = (digits * unit : Nat)) (atOther : other = size ∨ other = -(size : Int))
    (atTarget : target = (kept * unit + rest : Nat)) (differs : other ≠ here)
    (tied : (other - target).natAbs = (here - target).natAbs) :
    ∃ multiple, kept ≤ multiple ∧ multiple % 2 = 1 ∧ size = multiple * unit := by
  have sum : (kept + 1) * unit = kept * unit + unit := Nat.succ_mul kept unit
  rw [sum] at apart
  rcases choice with ⟨rfl, less, even⟩ | ⟨rfl, below, more, even⟩
  · have half : 2 * rest = unit ∧ size = digits * unit + unit := by
      generalize digits * unit = grid at *
      omega
    have parity := even half.1
    exact ⟨digits + 1, by omega, by omega, half.2.trans sum.symm⟩
  · have half : 2 * rest = unit ∧ size = kept * unit := by
      rw [sum] at atHere
      generalize kept * unit = grid at *
      omega
    have parity := even half.1
    exact ⟨kept, Nat.le_refl kept, by omega, half.2⟩

/-! ### The nearest number -/

theorem scaledInteger_of_nearest {i : Int} (bounded : i.natAbs < twoTo 128) {y : Binary64}
    (nearest : y.Nearest i) : y.scaledInteger = (ofInt i).scaledInteger := by
  by_cases zero : i = 0
  · subst zero
    have none : (ofInt 0).scaledInteger = 0 := by decide +kernel
    have least := nearest.least (ofInt 0) rfl
    unfold distance at least
    rw [none, Int.zero_mul] at least
    omega
  · obtain ⟨exponent, digits, rounds, finite, sign, size, parity⟩ := ofInt_rounds zero bounded
    have chosen := nearest_of_rounds rounds finite sign size parity
    -- Two nearest numbers tie, so both are even; but one of two neighbours is odd.
    refine Decidable.byContradiction fun other => ?_
    have tied : y.distance i = (ofInt i).distance i :=
      Nat.le_antisymm (nearest.least _ finite) (chosen.least y nearest.finite)
    have even := nearest.even _ finite (Ne.symm other) tied.symm
    obtain ⟨kept, rest, wide, split, choice⟩ := rounds.split
    have here : (ofInt i).along i = (digits * twoTo (exponent - 1) : Nat) := by
      rw [along_of_sign sign, size]
    rw [distance_eq_along, distance_eq_along] at tied
    obtain ⟨multiple, above, odd, sizeOther⟩ :=
      odd_of_tie choice (y.magnitude_apart wide) ((ofInt i).along i) (y.along i) _ here
        (y.along_eq_or_neg i) (congrArg Nat.cast split) (mt along_inj.mp other) tied
    have significant := significand_odd (Nat.le_trans wide above) odd sizeOther
    omega

theorem isNegative_ofInt {i : Int} (bounded : i.natAbs < twoTo 128) :
    (ofInt i).isNegative = decide (i < 0) := by
  by_cases zero : i = 0
  · subst zero
    rfl
  · obtain ⟨_exponent, _digits, _rounds, _finite, sign, _size, _parity⟩ := ofInt_rounds zero bounded
    exact sign

/-- Of the numbers nearest to an integer one has its sign. Zero counts as positive, so that of the
two zeros it is the positive one. -/
theorem nearest_iff_eq_ofInt {i : Int} (bounded : i.natAbs < twoTo 128) (y : Binary64) :
    y.Nearest i ∧ y.isNegative = decide (i < 0) ↔ y = ofInt i := by
  constructor
  · rintro ⟨nearest, sign⟩
    exact eq_of_scaledInteger (sign.trans (isNegative_ofInt bounded).symm)
      (scaledInteger_of_nearest bounded nearest)
  · rintro rfl
    exact ⟨nearest_ofInt bounded, isNegative_ofInt bounded⟩

end Binary64

end RowSource
