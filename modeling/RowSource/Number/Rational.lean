import RowSource.Number.Binary64

/-!
# Rounded arithmetic

A finite number is a fraction, and the sum, product and quotient of two numbers are the numbers
nearest to the exact results. `ofRatio` does all the rounding: ties go to the even significand,
what is too large becomes infinite and what is too small becomes a subnormal or zero.
-/

namespace RowSource

namespace Binary64

def infiniteWord : Nat := 2047 * twoTo 52

def nan : Binary64 := ofWord (infiniteWord + twoTo 51)

def signed (negative : Bool) (word : Nat) : Binary64 :=
  ofWord (if negative then twoTo 63 + word else word)

/-- The power of two by which a fraction has to be divided to have a whole part of 53 digits, or
the least there is. -/
def unitExponent (numerator denominator : Nat) : Int :=
  let guess : Int := (numerator.log2 : Int) - denominator.log2 - 52
  /- The guess is right, or one too high. -/
  let whole := numerator * twoTo (-guess).toNat / (denominator * twoTo guess.toNat)
  max (-1074) (if whole < twoTo 52 then guess - 1 else guess)

def ofRatio (negative : Bool) (numerator denominator : Nat) : Binary64 :=
  if numerator = 0 ∨ denominator = 0 then signed negative 0
  else
    let exponent := unitExponent numerator denominator
    let scaled := numerator * twoTo (-exponent).toNat
    let unit := denominator * twoTo exponent.toNat
    let kept := scaled / unit
    let rest := scaled % unit
    let raised := if unit < 2 * rest ∨ (unit = 2 * rest ∧ kept % 2 = 1) then kept + 1 else kept
    signed negative (min infiniteWord ((exponent + 1074).toNat * twoTo 52 + raised))

def ofDecimal (negative : Bool) (digits : Nat) (scale : Int) : Binary64 :=
  ofRatio negative (digits * tenTo scale.toNat) (tenTo (-scale).toNat)

def scaledInteger (x : Binary64) : Int :=
  let magnitude : Int := x.significand * twoTo (x.exponent + 1074).toNat
  if x.isNegative then -magnitude else magnitude

def negate (x : Binary64) : Binary64 := signed (!x.isNegative) (x.bits.toNat % twoTo 63)

def add (x y : Binary64) : Binary64 :=
  if x.isNaN || y.isNaN then nan
  else if !x.isFinite then
    if !y.isFinite && x.isNegative != y.isNegative then nan else x
  else if !y.isFinite then y
  else
    let sum := x.scaledInteger + y.scaledInteger
    if sum = 0 then signed (x.isNegative && y.isNegative) 0
    else ofRatio (decide (sum < 0)) sum.natAbs (twoTo 1074)

def multiply (x y : Binary64) : Binary64 :=
  let negative := x.isNegative != y.isNegative
  if x.isNaN || y.isNaN then nan
  else if !x.isFinite || !y.isFinite then
    if (x.isFinite && x.significand = 0) || (y.isFinite && y.significand = 0) then nan
    else signed negative infiniteWord
  else ofRatio negative (x.scaledInteger.natAbs * y.scaledInteger.natAbs) (twoTo 2148)

def divide (x y : Binary64) : Binary64 :=
  let negative := x.isNegative != y.isNegative
  if x.isNaN || y.isNaN then nan
  else if !x.isFinite then if y.isFinite then signed negative infiniteWord else nan
  else if !y.isFinite then signed negative 0
  else if y.significand = 0 then
    if x.significand = 0 then nan else signed negative infiniteWord
  else ofRatio negative x.scaledInteger.natAbs y.scaledInteger.natAbs

/-- The order of two numbers by value. Neither may be a NaN. -/
def compareValue (x y : Binary64) : Ordering :=
  if x.isFinite && y.isFinite then compare x.scaledInteger y.scaledInteger
  else if !x.isFinite && !y.isFinite && x.isNegative == y.isNegative then .eq
  else if !x.isFinite then if x.isNegative then .lt else .gt
  else if y.isNegative then .gt else .lt

def compareInteger (x : Binary64) (i : Int) : Ordering :=
  if x.isFinite then compare x.scaledInteger (i * twoTo 1074)
  else if x.isNegative then .lt else .gt

example : (ofDecimal false 1 (-1)).bits = 0x3fb999999999999a := by decide +kernel

example : (ofDecimal false 5 (-324)).bits = 1 := by decide +kernel

example : (ofDecimal true 17976931348623159 292).bits = 0xfff0000000000000 := by decide +kernel

example : ((ofDecimal false 1 (-1)).add (ofDecimal false 2 (-1))).bits = 0x3fd3333333333334 := by
  decide +kernel

end Binary64

end RowSource
