import RowSource.Number.Rational

/-!
# The number nearest to an integer

`ofInt` rounds to nearest: no finite number is nearer to the integer, and of two that are equally
near it takes the one with the even significand.
-/

namespace RowSource

namespace Binary64

/-- A finite number without its sign, times `2 ^ 1074`. -/
def magnitude (x : Binary64) : Nat := x.significand * twoTo (x.exponent + 1074).toNat

theorem scaledInteger_eq (x : Binary64) :
    x.scaledInteger = if x.isNegative then -(x.magnitude : Int) else (x.magnitude : Int) := by
  unfold scaledInteger magnitude
  rw [Int.natCast_mul]

/-- How far a number is from an integer, times `2 ^ 1074`. -/
def distance (x : Binary64) (i : Int) : Nat := (x.scaledInteger - i * twoTo 1074).natAbs

structure Nearest (x : Binary64) (i : Int) : Prop where
  finite : x.isFinite = true
  least : ∀ y : Binary64, y.isFinite = true → x.distance i ≤ y.distance i
  even : ∀ y : Binary64, y.isFinite = true → y.scaledInteger ≠ x.scaledInteger →
    y.distance i = x.distance i → x.significand % 2 = 0

theorem twoTo_add (a b : Nat) : twoTo (a + b) = twoTo a * twoTo b := Nat.pow_add 2 a b

theorem twoTo_pos (a : Nat) : 0 < twoTo a := Nat.two_pow_pos a

/-! ### Patterns -/

theorem significand_lt (x : Binary64) : x.significand < twoTo 53 := by
  have within : x.fraction < twoTo 52 := Nat.mod_lt _ (twoTo_pos 52)
  have double : twoTo 53 = twoTo 52 + twoTo 52 := rfl
  unfold significand
  split <;> omega

/-- Digits on a finer scale stay below any that use up all 53 places on a coarser one. -/
theorem mul_twoTo_lt {short wide scale unit : Nat} (few : short < twoTo 53)
    (full : twoTo 52 ≤ wide) (finer : scale < unit) :
    short * twoTo scale < wide * twoTo unit := by
  calc short * twoTo scale < twoTo 53 * twoTo scale :=
        Nat.mul_lt_mul_of_pos_right few (twoTo_pos scale)
    _ = twoTo 52 * twoTo (scale + 1) := by
        rw [← twoTo_add, ← twoTo_add, Nat.add_comm scale 1, ← Nat.add_assoc]
    _ ≤ wide * twoTo unit := Nat.mul_le_mul full (Nat.pow_le_pow_right (by decide) finer)

/-- No number lies between two neighbours on the grid of a unit, where 53 digits are used up. -/
theorem magnitude_apart (y : Binary64) {kept unit : Nat} (wide : twoTo 52 ≤ kept) :
    y.magnitude ≤ kept * twoTo unit ∨ (kept + 1) * twoTo unit ≤ y.magnitude := by
  have short := y.significand_lt
  unfold magnitude
  generalize y.significand = significand at short ⊢
  generalize (y.exponent + 1074).toNat = scale
  by_cases coarse : unit ≤ scale
  · obtain ⟨more, rfl⟩ := Nat.exists_eq_add_of_le coarse
    rw [Nat.add_comm unit more, twoTo_add, ← Nat.mul_assoc]
    rcases Nat.lt_or_ge kept (significand * twoTo more) with above | below
    · exact .inr (Nat.mul_le_mul_right _ above)
    · exact .inl (Nat.mul_le_mul_right _ below)
  · exact .inl (Nat.le_of_lt (mul_twoTo_lt short wide (Nat.lt_of_not_le coarse)))

/-- The number whose pattern has a sign, an exponent and a significand of 53 digits. A significand
that has just become too large is carried into the exponent. -/
theorem ofWord_normal (negative : Bool) {exponent digits : Nat} (least : 1 ≤ exponent)
    (most : exponent ≤ 2045) (wide : twoTo 52 ≤ digits) (within : digits ≤ twoTo 53) :
    let x := ofWord ((if negative then twoTo 63 else 0) + (exponent * twoTo 52 + digits - twoTo 52))
    x.isFinite = true ∧ x.isNegative = negative ∧
      x.magnitude = digits * twoTo (exponent - 1) ∧
      (digits % 2 = 0 → x.significand % 2 = 0) := by
  intro x
  have unit : twoTo 52 = 4503599627370496 := rfl
  have half : twoTo 53 = 9007199254740992 := rfl
  have top : twoTo 63 = 9223372036854775808 := rfl
  have field : twoTo 11 = 2048 := rfl
  rw [unit] at wide
  rw [half] at within
  have word : x.bits.toNat =
      (if negative then twoTo 63 else 0) + (exponent * twoTo 52 + digits - twoTo 52) := by
    refine (UInt64.toNat_ofNat' ..).trans (Nat.mod_eq_of_lt ?_)
    rw [unit, top]
    cases negative <;> simp only [Bool.false_eq_true, if_true, if_false] <;> omega
  have sign : x.isNegative = negative := by
    unfold isNegative
    rw [word, unit, top]
    cases negative <;> simp <;> omega
  -- A carry leaves the fraction empty and makes the exponent larger by one.
  by_cases carried : digits = twoTo 53
  · have biased : x.exponentField = exponent + 1 := by
      unfold exponentField
      rw [word, unit, top, field, carried, half]
      cases negative <;> simp only [Bool.false_eq_true, if_true, if_false] <;> omega
    have empty : x.fraction = 0 := by
      unfold fraction
      rw [word, unit, top, carried, half]
      cases negative <;> simp only [Bool.false_eq_true, if_true, if_false] <;> omega
    have significant : x.significand = twoTo 52 := by
      unfold significand
      rw [biased, if_neg (by omega), empty, Nat.add_zero]
    have scale : (x.exponent + 1074).toNat = exponent - 1 + 1 := by
      unfold Binary64.exponent
      rw [biased, if_neg (by omega)]
      omega
    refine ⟨?_, sign, ?_, fun _even => by rw [significant, unit]⟩
    · unfold isFinite
      rw [biased]
      simp
      omega
    · unfold magnitude
      rw [significant, scale, carried, twoTo_add, ← Nat.mul_assoc, Nat.mul_right_comm]
      rfl
  · have biased : x.exponentField = exponent := by
      unfold exponentField
      rw [word, unit, top, field]
      cases negative <;> simp only [Bool.false_eq_true, if_true, if_false] <;> omega
    have rest : x.fraction = digits - twoTo 52 := by
      unfold fraction
      rw [word, unit, top]
      cases negative <;> simp only [Bool.false_eq_true, if_true, if_false] <;> omega
    have significant : x.significand = digits := by
      unfold significand
      rw [biased, if_neg (by omega), rest, unit]
      omega
    have scale : (x.exponent + 1074).toNat = exponent - 1 := by
      unfold Binary64.exponent
      rw [biased, if_neg (by omega)]
      omega
    refine ⟨?_, sign, ?_, fun even => by rw [significant, even]⟩
    · unfold isFinite
      rw [biased]
      simp
      omega
    · unfold magnitude
      rw [significant, scale]

/-! ### Values beside an integer -/

/-- The exact value times `2 ^ 1074`, with its sign changed beside a negative integer. So every
comparison with an integer is one with a natural number. -/
def along (x : Binary64) (i : Int) : Int :=
  if i < 0 then -x.scaledInteger else x.scaledInteger

theorem distance_eq_along (x : Binary64) (i : Int) :
    x.distance i = (x.along i - (i.natAbs * twoTo 1074 : Nat)).natAbs := by
  unfold distance along
  rw [Int.natCast_mul]
  by_cases negative : i < 0
  · rw [if_pos negative, Int.ofNat_natAbs_of_nonpos (Int.le_of_lt negative), Int.neg_mul]
    omega
  · rw [if_neg negative, Int.natAbs_of_nonneg (Int.not_lt.mp negative)]

theorem along_eq_or_neg (x : Binary64) (i : Int) :
    x.along i = x.magnitude ∨ x.along i = -(x.magnitude : Int) := by
  unfold along
  rw [scaledInteger_eq]
  split <;> split <;> omega

theorem along_of_sign {x : Binary64} {i : Int} (sign : x.isNegative = decide (i < 0)) :
    x.along i = x.magnitude := by
  unfold along
  rw [scaledInteger_eq, sign]
  by_cases negative : i < 0
  · simp only [negative, decide_true, if_true, Int.neg_neg]
  · simp only [negative, decide_false, if_false, Bool.false_eq_true]

theorem along_inj {x y : Binary64} {i : Int} :
    x.along i = y.along i ↔ x.scaledInteger = y.scaledInteger := by
  unfold along
  split <;> omega

/-! ### Rounding -/

/-- The digits nearest to a value, and the exponent that they are scaled by: what is left of the value
is more than half a unit, less, or just half a unit beside an even significand. -/
structure Rounds (value exponent digits : Nat) : Prop where
  least : 1 ≤ exponent
  most : exponent ≤ 2045
  wide : twoTo 52 ≤ digits
  within : digits ≤ twoTo 53
  split : ∃ kept rest, twoTo 52 ≤ kept ∧ value = kept * twoTo (exponent - 1) + rest ∧
    ((digits = kept ∧ 2 * rest ≤ twoTo (exponent - 1) ∧
        (2 * rest = twoTo (exponent - 1) → digits % 2 = 0)) ∨
      (digits = kept + 1 ∧ rest < twoTo (exponent - 1) ∧ twoTo (exponent - 1) ≤ 2 * rest ∧
        (2 * rest = twoTo (exponent - 1) → digits % 2 = 0)))

theorem natWord_rounds {n : Nat} (positive : n ≠ 0) (bounded : n.log2 < 128) :
    ∃ exponent digits, natWord n = exponent * twoTo 52 + digits - twoTo 52 ∧
      Rounds (n * twoTo 1074) exponent digits := by
  have lower : twoTo n.log2 ≤ n := Nat.log2_self_le positive
  have upper : n < twoTo (n.log2 + 1) := Nat.lt_log2_self
  rcases Nat.lt_or_ge n.log2 53 with short | wide
  · obtain ⟨missing, total⟩ := Nat.exists_eq_add_of_le (Nat.le_of_lt_succ short)
    have exact : natWord n = (n.log2 + 1023) * twoTo 52 + n * twoTo missing - twoTo 52 := by
      unfold natWord
      rw [if_neg positive, if_pos (by omega)]
      have same : 53 - (n.log2 + 1) = missing := by omega
      rw [same]
    have tall : twoTo 52 ≤ n * twoTo missing := by
      rw [total, twoTo_add]
      exact Nat.mul_le_mul_right _ lower
    have low : n * twoTo missing ≤ twoTo 53 := by
      have whole : 53 = n.log2 + 1 + missing := by omega
      rw [whole, twoTo_add]
      exact Nat.mul_le_mul_right _ (Nat.le_of_lt upper)
    refine ⟨_, _, exact, ⟨by omega, by omega, tall, low, n * twoTo missing, 0, tall, ?_, ?_⟩⟩
    · have whole : 1074 = missing + (n.log2 + 1023 - 1) := by omega
      rw [Nat.add_zero, Nat.mul_assoc, ← twoTo_add, ← whole]
    · refine .inl ⟨rfl, Nat.zero_le _, fun none => ?_⟩
      exact absurd none (Nat.ne_of_lt (twoTo_pos _))
  · obtain ⟨extra, total⟩ := Nat.exists_eq_add_of_le (Nat.le_of_succ_le wide)
    have excess : n.log2 - 52 = extra := by omega
    have word := natWord_of_wide wide
    rw [excess] at word
    dsimp only at word
    have unit := twoTo_pos extra
    have divided : n / twoTo extra * twoTo extra + n % twoTo extra = n := Nat.div_add_mod' n _
    have remaining : n % twoTo extra < twoTo extra := Nat.mod_lt n unit
    have tall : twoTo 52 ≤ n / twoTo extra := by
      rw [Nat.le_div_iff_mul_le unit, ← twoTo_add, ← total]
      exact lower
    have low : n / twoTo extra < twoTo 53 := by
      have whole : n.log2 + 1 = 53 + extra := by omega
      rw [Nat.div_lt_iff_lt_mul unit, ← twoTo_add, ← whole]
      exact upper
    have whole : extra + 1075 - 1 = extra + 1074 := by omega
    have scaled : n * twoTo 1074 = n / twoTo extra * twoTo (extra + 1075 - 1) +
        n % twoTo extra * twoTo 1074 := by
      rw [whole, twoTo_add, ← Nat.mul_assoc, ← Nat.add_mul, divided]
    have grown : twoTo (extra + 1075 - 1) = twoTo extra * twoTo 1074 := by
      rw [whole, twoTo_add]
    have fine := twoTo_pos 1074
    generalize n * twoTo 1074 = value at scaled ⊢
    generalize twoTo 1074 = fineness at scaled grown fine
    generalize n / twoTo extra = kept at word tall low scaled
    generalize n % twoTo extra = rest at word remaining scaled
    generalize twoTo extra = coarse at word remaining grown
    have same (a b : Nat) : a * fineness = b * fineness ↔ a = b :=
      ⟨Nat.eq_of_mul_eq_mul_right fine, congrArg (· * fineness)⟩
    by_cases raised : coarse < 2 * rest ∨ (coarse = 2 * rest ∧ kept % 2 = 1)
    · rw [if_pos raised] at word
      refine ⟨_, _, word, ⟨by omega, by omega, by omega, by omega, kept, rest * fineness, tall,
        scaled, .inr ⟨rfl, ?_, ?_, ?_⟩⟩⟩
      · rw [grown]
        exact Nat.mul_lt_mul_of_pos_right remaining fine
      · rw [grown, ← Nat.mul_assoc]
        exact Nat.mul_le_mul_right _ (by omega)
      · rw [grown, ← Nat.mul_assoc, same]
        omega
    · rw [if_neg raised] at word
      refine ⟨_, _, word, ⟨by omega, by omega, by omega, by omega, kept, rest * fineness, tall,
        scaled, .inl ⟨rfl, ?_, ?_⟩⟩⟩
      · rw [grown, ← Nat.mul_assoc]
        exact Nat.mul_le_mul_right _ (by omega)
      · rw [grown, ← Nat.mul_assoc, same]
        omega

/-- The digits on the nearer side of what is left over, or the even ones in the middle. -/
def Chosen (kept digits rest unit : Nat) : Prop :=
  (digits = kept ∧ 2 * rest ≤ unit ∧ (2 * rest = unit → digits % 2 = 0)) ∨
    (digits = kept + 1 ∧ rest < unit ∧ unit ≤ 2 * rest ∧ (2 * rest = unit → digits % 2 = 0))

/-- Every number is at one of the two neighbours of the integer, or beyond it. -/
theorem closest_of_apart {kept digits rest unit size : Nat} (choice : Chosen kept digits rest unit)
    (apart : size ≤ kept * unit ∨ (kept + 1) * unit ≤ size) (here other target : Int)
    (atHere : here = (digits * unit : Nat)) (atOther : other = size ∨ other = -(size : Int))
    (atTarget : target = (kept * unit + rest : Nat)) :
    (here - target).natAbs ≤ (other - target).natAbs ∧
      (other ≠ here → (other - target).natAbs = (here - target).natAbs → digits % 2 = 0) := by
  have sum : (kept + 1) * unit = kept * unit + unit := Nat.succ_mul kept unit
  rw [sum] at apart
  rcases choice with ⟨rfl, less, even⟩ | ⟨rfl, below, more, even⟩
  · generalize digits * unit = grid at *
    constructor <;> omega
  · rw [sum] at atHere
    generalize kept * unit = grid at *
    constructor <;> omega

theorem nearest_of_rounds {i : Int} {exponent digits : Nat}
    (rounds : Rounds (i.natAbs * twoTo 1074) exponent digits) {x : Binary64} (finite : x.isFinite = true)
    (sign : x.isNegative = decide (i < 0)) (size : x.magnitude = digits * twoTo (exponent - 1))
    (parity : digits % 2 = 0 → x.significand % 2 = 0) : x.Nearest i := by
  obtain ⟨kept, rest, wide, split, choice⟩ := rounds.split
  have here : x.along i = (digits * twoTo (exponent - 1) : Nat) := by
    rw [along_of_sign sign, size]
  have comparison (y : Binary64) :=
    closest_of_apart choice (y.magnitude_apart wide) (x.along i) (y.along i) _ here
      (y.along_eq_or_neg i) (congrArg Nat.cast split)
  refine ⟨finite, fun y _finite => ?_, fun y _finite other tied => ?_⟩
  · rw [distance_eq_along, distance_eq_along]
    exact (comparison y).1
  · rw [distance_eq_along, distance_eq_along] at tied
    exact parity ((comparison y).2 (mt along_inj.mp other) tied)

/-- The digits of the number of an integer. -/
theorem ofInt_rounds {i : Int} (nonzero : i ≠ 0) (bounded : i.natAbs < twoTo 128) :
    ∃ exponent digits, Rounds (i.natAbs * twoTo 1074) exponent digits ∧
      (ofInt i).isFinite = true ∧ (ofInt i).isNegative = decide (i < 0) ∧
      (ofInt i).magnitude = digits * twoTo (exponent - 1) ∧
      (digits % 2 = 0 → (ofInt i).significand % 2 = 0) := by
  have positive : i.natAbs ≠ 0 := Int.natAbs_ne_zero.mpr nonzero
  have short : i.natAbs.log2 < 128 := (Nat.log2_lt positive).mpr bounded
  obtain ⟨exponent, digits, word, rounds⟩ := natWord_rounds positive short
  have pattern : ofInt i = ofWord ((if decide (i < 0) = true then twoTo 63 else 0) +
      (exponent * twoTo 52 + digits - twoTo 52)) := by
    unfold ofInt
    rw [word]
    by_cases negative : i < 0
    · simp only [negative, decide_true, if_true]
    · simp only [negative, decide_false, if_false, Bool.false_eq_true, Nat.zero_add]
  rw [pattern]
  exact ⟨exponent, digits, rounds, ofWord_normal (decide (i < 0)) rounds.least rounds.most
    rounds.wide rounds.within⟩

/-- The number of an integer is nearest to it. -/
theorem nearest_ofInt {i : Int} (bounded : i.natAbs < twoTo 128) : (ofInt i).Nearest i := by
  by_cases zero : i = 0
  · subst zero
    refine ⟨rfl, fun y _finite => ?_, fun y _finite other tied => rfl⟩
    have none : (ofInt 0).distance 0 = 0 := by decide +kernel
    rw [none]
    exact Nat.zero_le _
  · obtain ⟨exponent, digits, rounds, finite, sign, size, parity⟩ := ofInt_rounds zero bounded
    exact nearest_of_rounds rounds finite sign size parity

theorem natAbs_toInt_lt (i : Int64) : i.toInt.natAbs < twoTo 128 := by
  have lower := i.le_toInt
  have upper := i.toInt_lt
  have bound : 2 ^ 63 < twoTo 128 := Nat.pow_lt_pow_right (by decide) (by decide)
  omega

theorem nearest_ofInt_int64 (i : Int64) : (ofInt i.toInt).Nearest i.toInt :=
  nearest_ofInt (natAbs_toInt_lt i)

end Binary64

end RowSource
