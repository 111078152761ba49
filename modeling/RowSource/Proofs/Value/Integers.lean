import Mathlib.Algebra.Field.Rat
import Mathlib.Algebra.GroupWithZero.Basic
import Mathlib.Tactic.Ring
import RowSource.Proofs.Number.Whole
import RowSource.Proofs.Value.Exchange

/-!
# Integers as host code sees them

Host code that asks for an integer gets the very integer or none. In the loose mode an integer comes as
the number nearest to it, which may be another integer; but rounding never brings a large integer below
`2 ^ 53`, and below that nothing is rounded.
-/

namespace RowSource

namespace Binary64

/-! ### The value of a number -/

/-- The exact value of a finite number. -/
def value (x : Binary64) : ℚ :=
  (if x.isNegative then -1 else 1) * x.significand * 2 ^ x.exponent

theorem cast_twoTo (n : ℕ) : ((twoTo n : ℕ) : ℚ) = 2 ^ n :=
  Nat.cast_pow 2 n

theorem scaledInteger_cast (x : Binary64) : (x.scaledInteger : ℚ) = x.value * 2 ^ (1074 : ℕ) := by
  have least := x.neg_1074_le_exponent
  have power : ((twoTo (x.exponent + 1074).toNat : ℕ) : ℚ) = 2 ^ x.exponent * 2 ^ (1074 : ℕ) := by
    rw [cast_twoTo, ← zpow_natCast, ← zpow_natCast, ← zpow_add₀ two_ne_zero]
    congr 1
    omega
  have magnitude : (x.magnitude : ℚ) = x.significand * 2 ^ x.exponent * 2 ^ (1074 : ℕ) := by
    unfold magnitude
    rw [Nat.cast_mul, mul_assoc, power]
  unfold value
  rw [scaledInteger_eq]
  generalize (2 : ℚ) ^ (1074 : ℕ) = unit at magnitude ⊢
  cases x.isNegative with
  | false =>
      simp only [Bool.false_eq_true, if_false, Int.cast_natCast, one_mul]
      exact magnitude
  | true =>
      simp only [if_true, Int.cast_neg, Int.cast_natCast, magnitude]
      ring

theorem value_eq_intCast_iff (x : Binary64) (i : Int) :
    x.value = i ↔ x.scaledInteger = i * twoTo 1074 := by
  have nonzero : (2 : ℚ) ^ (1074 : ℕ) ≠ 0 := pow_ne_zero _ two_ne_zero
  rw [← Int.cast_inj (α := ℚ), scaledInteger_cast, Int.cast_mul, Int.cast_natCast,
    cast_twoTo, mul_left_inj' nonzero]

theorem toInt?_eq_some_iff_value (x : Binary64) (i : Int) :
    x.toInt? = some i ↔ x.isFinite = true ∧ x.value = i := by
  rw [toInt?_eq_some_iff, value_eq_intCast_iff]

/-! ### Large integers -/

theorem natAbs_scaledInteger (x : Binary64) : x.scaledInteger.natAbs = x.magnitude := by
  rw [scaledInteger_eq]
  split
  · exact Int.natAbs_neg x.magnitude
  · rfl

/-- A value of more than 53 digits does not lose one of them by being rounded. -/
theorem Rounds.tall {n scale exponent digits : Nat}
    (rounds : Rounds (n * twoTo scale) exponent digits) (large : twoTo 53 ≤ n) :
    twoTo 53 * twoTo scale ≤ digits * twoTo (exponent - 1) := by
  by_cases fine : exponent - 1 ≤ scale
  · rw [rounds.exact fine]
    exact Nat.mul_le_mul_right _ large
  · have coarse : 1 + scale ≤ exponent - 1 := by omega
    calc twoTo 53 * twoTo scale = twoTo 52 * twoTo (1 + scale) := by
          rw [← twoTo_add, ← twoTo_add, ← Nat.add_assoc]
      _ ≤ digits * twoTo (exponent - 1) :=
          Nat.mul_le_mul rounds.wide (Nat.pow_le_pow_right (by decide) coarse)

theorem le_natAbs_of_toInt?_ofInt {i j : Int} (large : twoTo 53 ≤ i.natAbs)
    (bounded : i.natAbs < twoTo 128) (read : (ofInt i).toInt? = some j) :
    twoTo 53 ≤ j.natAbs := by
  have nonzero : i ≠ 0 := by
    rintro rfl
    exact absurd large (by decide)
  obtain ⟨exponent, digits, rounds, _finite, _sign, size, _parity⟩ := ofInt_rounds nonzero bounded
  obtain ⟨_finite, value⟩ := (toInt?_eq_some_iff _ j).mp read
  have scaled : (ofInt i).magnitude = j.natAbs * twoTo 1074 := by
    rw [← natAbs_scaledInteger, value, Int.natAbs_mul, Int.natAbs_natCast]
  have tall := rounds.tall large
  rw [← size, scaled] at tall
  exact Nat.le_of_mul_le_mul_right tall (twoTo_pos 1074)

end Binary64

/-! ### Integers of 64 bits -/

theorem ofInt_eq_iff {i : Int} (storable : isStorable i = true) (k : Int64) :
    Int64.ofInt i = k ↔ i = k.toInt := by
  constructor
  · rintro rfl
    exact (toInt_ofInt_of_isStorable storable).symm
  · rintro rfl
    exact Int64.ofInt_toInt k

theorem isStorable_of_small {i : Int} (small : i.natAbs < twoTo 53) : isStorable i = true := by
  have less : twoTo 53 < 2 ^ 63 := by decide
  rw [isStorable_iff, Int64.toInt_minValue, Int64.toInt_maxValue]
  omega

namespace HostValue

theorem asInteger_bigint (i : Int) (k : Int64) :
    (bigint i).asInteger = some k ↔ i = k.toInt := by
  unfold asInteger
  dsimp only
  by_cases storable : isStorable i = true
  · rw [if_pos storable, Option.some_inj]
    exact ofInt_eq_iff storable k
  · rw [if_neg storable]
    constructor
    · intro impossible
      cases impossible
    · rintro rfl
      exact absurd (isStorable_toInt k) storable

theorem asInteger_number (x : Binary64) (k : Int64) :
    (number x).asInteger = some k ↔ x.toInt? = some k.toInt ∧ k.toInt.natAbs < twoTo 53 := by
  unfold asInteger
  dsimp only
  cases x.toInt? with
  | none => simp
  | some i =>
      dsimp only
      by_cases small : i.natAbs < twoTo 53
      · rw [if_pos small, Option.some_inj, Option.some_inj, ofInt_eq_iff (isStorable_of_small small)]
        constructor
        · rintro rfl
          exact ⟨rfl, small⟩
        · exact And.left
      · rw [if_neg small]
        constructor
        · intro impossible
          cases impossible
        · rintro ⟨same, within⟩
          cases same
          exact absurd within small

theorem asInteger_ofInt (n : Int64) :
    (number (Binary64.ofInt n.toInt)).asInteger =
      if n.toInt.natAbs < twoTo 53 then some n else none := by
  by_cases small : n.toInt.natAbs < twoTo 53
  · rw [if_pos small]
    exact (asInteger_number _ n).mpr ⟨Binary64.toInt?_ofInt small, small⟩
  · rw [if_neg small]
    cases answer : (number (Binary64.ofInt n.toInt)).asInteger with
    | none => rfl
    | some k =>
        obtain ⟨read, within⟩ := (asInteger_number _ k).mp answer
        have large := Binary64.le_natAbs_of_toInt?_ofInt (Nat.le_of_not_lt small)
          (Binary64.natAbs_toInt_lt n) read
        omega

/-- A host value is taken for an integer exactly when it is an integer of 64 bits, or a number whose
exact value is an integer of fewer than 54 binary digits. So every integer of the engine is taken for
itself in the strict mode. In the loose mode it is shown as the number nearest to it, and is taken for
itself if it is smaller than `2 ^ 53`, and for none if it is not. -/
theorem asInteger_exact :
    (∀ (value : HostValue) (k : Int64), value.asInteger = some k ↔
      value = .bigint k.toInt ∨
        ∃ x, value = .number x ∧ x.isFinite = true ∧ x.value = k.toInt ∧
          k.toInt.natAbs < 2 ^ 53) ∧
    ∀ n : Int64,
      ((SqlValue.integer n).toHost .strict).asInteger = some n ∧
      (∃ x, (SqlValue.integer n).toHost .loose = .number x ∧ x.Nearest n.toInt) ∧
      ((SqlValue.integer n).toHost .loose).asInteger =
        if n.toInt.natAbs < 2 ^ 53 then some n else none := by
  constructor
  · intro value k
    cases value with
    | bigint i => simp [asInteger_bigint]
    | number x =>
        rw [asInteger_number, Binary64.toInt?_eq_some_iff_value]
        constructor
        · rintro ⟨⟨finite, exact⟩, small⟩
          exact .inr ⟨x, rfl, finite, exact, small⟩
        · rintro (impossible | ⟨_, ⟨⟩, finite, exact, small⟩)
          · cases impossible
          · exact ⟨⟨finite, exact⟩, small⟩
    | missing => simp [asInteger]
    | null => simp [asInteger]
    | bool b => simp [asInteger]
    | text s => simp [asInteger]
    | blob bytes => simp [asInteger]
  · intro n
    refine ⟨?_, ⟨_, rfl, Binary64.nearest_ofInt_int64 n⟩, asInteger_ofInt n⟩
    exact (asInteger_bigint _ n).mpr rfl

/-- A negative zero, one below the limit and the limit, a half, an infinity and a number that is
none. -/
example :
    [0x8000000000000000, 0xc33fffffffffffff, 0x4340000000000000, 0x3fe0000000000000,
      0x7ff0000000000000, 0x7ff8000000000000].map
        (fun word => (HostValue.number (Binary64.ofWord word)).asInteger) =
      [some 0, some (-9007199254740991), none, none, none, none] := by
  decide +kernel

end HostValue

end RowSource
