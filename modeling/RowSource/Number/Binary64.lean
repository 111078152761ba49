import RowSource.Number.Power

/-!
# Binary64 numbers

A number is its 64-bit pattern, and everything below is exact arithmetic on that pattern: no
run-time floating-point operation is involved. `toInt?` is the integer that a pattern stands for,
if it stands for one, and `ofInt` is the pattern nearest to an integer, ties going to the even
significand.
-/

namespace RowSource

/-- A double-precision number, given by its bit pattern. Two numbers are equal when their patterns
are, so the two zeros differ and a NaN equals itself. -/
structure Binary64 where
  bits : UInt64
  deriving DecidableEq, Inhabited

namespace Binary64

def ofWord (word : Nat) : Binary64 := ⟨UInt64.ofNat word⟩

def fraction (x : Binary64) : Nat := x.bits.toNat % twoTo 52

def exponentField (x : Binary64) : Nat := x.bits.toNat / twoTo 52 % twoTo 11

def isNegative (x : Binary64) : Bool := decide (twoTo 63 ≤ x.bits.toNat)

def isFinite (x : Binary64) : Bool := x.exponentField != 2047

def isNaN (x : Binary64) : Bool := x.exponentField == 2047 && x.fraction != 0

/-- The integer significand: a finite number is `significand * 2 ^ exponent` up to its sign. -/
def significand (x : Binary64) : Nat :=
  if x.exponentField = 0 then x.fraction else twoTo 52 + x.fraction

def exponent (x : Binary64) : Int :=
  if x.exponentField = 0 then -1074 else (x.exponentField : Int) - 1075

def wholeMagnitude? (x : Binary64) : Option Nat :=
  if 0 ≤ x.exponent then
    some (x.significand * twoTo x.exponent.toNat)
  else
    let unit := twoTo (-x.exponent).toNat
    if x.significand % unit = 0 then some (x.significand / unit) else none

def toInt? (x : Binary64) : Option Int :=
  if x.isFinite then
    x.wholeMagnitude?.map fun magnitude =>
      if x.isNegative then -(magnitude : Int) else (magnitude : Int)
  else
    none

/-- The bits below the sign of the number nearest to a positive integer of `53 + extra` binary
digits: the leading 53 digits, moved up by one when the rest is more than half a unit, or half a
unit above an odd significand. A carry out of the significand raises the exponent field. -/
private def roundedWord (n extra : Nat) : Nat :=
  let unit := twoTo extra
  let kept := n / unit
  let rest := n % unit
  let raised := if unit < 2 * rest ∨ (unit = 2 * rest ∧ kept % 2 = 1) then kept + 1 else kept
  (extra + 1075) * twoTo 52 + raised - twoTo 52

/-- The bits below the sign of the number nearest to `n`, for `n` of at most a thousand binary
digits. Up to 53 digits the number is exact. -/
def natWord (n : Nat) : Nat :=
  if n = 0 then 0
  else
    let digits := n.log2 + 1
    if digits ≤ 53 then
      (digits + 1022) * twoTo 52 + n * twoTo (53 - digits) - twoTo 52
    else
      roundedWord n (digits - 53)

theorem natWord_of_wide {n : Nat} (wide : 53 ≤ n.log2) :
    natWord n =
      let unit := twoTo (n.log2 - 52)
      let kept := n / unit
      let raised :=
        if unit < 2 * (n % unit) ∨ (unit = 2 * (n % unit) ∧ kept % 2 = 1) then kept + 1 else kept
      (n.log2 - 52 + 1075) * twoTo 52 + raised - twoTo 52 := by
  have positive : n ≠ 0 := by
    rintro rfl
    exact absurd wide (by decide)
  have extra : n.log2 + 1 - 53 = n.log2 - 52 := by omega
  unfold natWord
  rw [if_neg positive, if_neg (by omega), extra]
  rfl

/-- The number nearest to an integer, ties to the even significand. -/
def ofInt (i : Int) : Binary64 :=
  if i < 0 then ofWord (twoTo 63 + natWord i.natAbs) else ofWord (natWord i.natAbs)

def greatest : Binary64 := ofWord 0x7fefffffffffffff

example : (ofInt 9007199254740993).bits = 0x4340000000000000 := by decide +kernel

example : (ofInt 9007199254740995).bits = 0x4340000000000002 := by decide +kernel

example : (ofInt (-3)).toInt? = some (-3) := by decide +kernel

end Binary64

end RowSource
