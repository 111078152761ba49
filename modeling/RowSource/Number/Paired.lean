import RowSource.Number.Rational

/-!
# Paired arithmetic

Decimals are read and written with a precision of two numbers: one near the value, and one for what
it leaves out. Powers of ten are applied as products of a few fixed steps, so that what comes out is
near the exact result but not always nearest to it. `Paired.ofDecimal` reads and `Paired.digits`
writes.
-/

namespace RowSource

/-- A value near `main`, and nearer to `main` and `rest` together. -/
structure Paired where
  main : Binary64
  rest : Binary64
  deriving DecidableEq

namespace Paired

open Binary64

def upper (x : Binary64) : Binary64 := ⟨x.bits &&& 0xfffffffffc000000⟩

def minus (x y : Binary64) : Binary64 := x.add y.negate

/-- The product of two values. The significands of the main numbers are multiplied by halves. -/
def times (x y : Paired) : Paired :=
  let xUpper := upper x.main
  let yUpper := upper y.main
  let xLower := minus x.main xUpper
  let yLower := minus y.main yUpper
  let high := xUpper.multiply yUpper
  let middle := (xUpper.multiply yLower).add (xLower.multiply yUpper)
  let product := high.add middle
  let left := ((minus high product).add middle).add (xLower.multiply yLower)
  let left := ((x.main.multiply y.rest).add (x.rest.multiply y.main)).add left
  let main := product.add left
  ⟨main, (minus product main).add left⟩

def timesRepeatedly (factor : Paired) : Nat → Paired → Paired
  | 0, x => x
  | count + 1, x => timesRepeatedly factor count (x.times factor)

/-! ### Powers of ten -/

/-- `10 ^ 100`. -/
def upHundred : Paired := ⟨ofWord 0x54b249ad2594c37d, ofWord 0xd134f4d87b3b31f4⟩

/-- `10 ^ 10`. -/
def upTen : Paired := ⟨ofWord 0x4202a05f20000000, ofWord 0⟩

def upOne : Paired := ⟨ofWord 0x4024000000000000, ofWord 0⟩

/-- `10 ^ -100`. -/
def downHundred : Paired := ⟨ofWord 0x2b2bff2ee48e0530, ofWord 0xa7b42a68781d46c4⟩

/-- `10 ^ -10`. -/
def downTen : Paired := ⟨ofWord 0x3ddb7cdfd9d7bdbb, ofWord 0xba720a5465df8d2c⟩

def downOne : Paired := ⟨ofWord 0x3fb999999999999a, ofWord 0xbc5999999999999a⟩

def scaled (x : Paired) (exponent : Int) : Paired :=
  let n := exponent.natAbs
  let (hundred, ten, one) :=
    if exponent < 0 then (downHundred, downTen, downOne) else (upHundred, upTen, upOne)
  timesRepeatedly one (n % 10)
    (timesRepeatedly ten (n % 100 / 10) (timesRepeatedly hundred (n / 100) x))

/-! ### Reading -/

/-- The digits of a decimal that count, and the power of ten that they are to be multiplied by:
digits are taken up to `bound`, which keeps their value within 64 bits. -/
structure Digits where
  value : Nat := 0
  exponent : Int := 0

def Digits.bound : Nat := (twoTo 64 - 10) / 10

def Digits.takeWhole (d : Digits) (c : Char) : Digits :=
  if d.value < Digits.bound then { d with value := d.value * 10 + (c.toNat - '0'.toNat) }
  else { d with exponent := d.exponent + 1 }

def Digits.takePart (d : Digits) (c : Char) : Digits :=
  if d.value < Digits.bound then ⟨d.value * 10 + (c.toNat - '0'.toNat), d.exponent - 1⟩ else d

/-- Moves a positive exponent into the value as far as there is room. -/
def Digits.filled (value : Nat) : Nat → Digits
  | 0 => ⟨value, 0⟩
  | exponent + 1 =>
      if value < (twoTo 64 - 2048) / 10 then filled (value * 10) exponent
      else ⟨value, exponent + 1⟩

/-- Moves a negative exponent into the value as far as that ends in zeros. -/
def Digits.shortened (value : Nat) : Nat → Digits
  | 0 => ⟨value, 0⟩
  | exponent + 1 =>
      if value % 10 = 0 then shortened (value / 10) exponent else ⟨value, -(exponent + 1 : Nat)⟩

def Digits.settled (d : Digits) : Digits :=
  if 0 ≤ d.exponent then filled d.value d.exponent.toNat
  else shortened d.value (-d.exponent).toNat

def ofNat (n : Nat) : Paired :=
  let main := ofInt n
  match main.wholeMagnitude? with
  | some whole => ⟨main, if whole < twoTo 64 then ofInt ((n : Int) - whole) else ofInt 0⟩
  | none => ⟨main, ofInt 0⟩

def ofDecimal (whole part : List Char) (exponent : Int) : Binary64 :=
  let taken := part.foldl Digits.takePart (whole.foldl Digits.takeWhole {})
  if taken.value = 0 then ofInt 0
  else
    let digits := (Digits.mk taken.value (exponent + taken.exponent)).settled
    let result := (ofNat digits.value).scaled digits.exponent
    let sum := result.main.add result.rest
    if sum.isNaN then signed false infiniteWord else sum

/-! ### Writing -/

def whileHolds (test : Binary64 → Bool) (factor : Paired) : Nat → Nat → Paired → Paired × Nat
  | 0, count, x => (x, count)
  | fuel + 1, count, x =>
      if test x.main then whileHolds test factor fuel (count + 1) (x.times factor) else (x, count)

def exceeds (limit : Nat) (x : Binary64) : Bool := x.compareValue (ofWord limit) == .gt

def fallsBelow (limit : Nat) (x : Binary64) : Bool := x.compareValue (ofWord limit) == .lt

/-- A positive number brought near `10 ^ 18`, and the power of ten that was taken out. -/
def normalized (x : Binary64) : Paired × Int :=
  let start : Paired := ⟨x, ofInt 0⟩
  if exceeds 0x43dfffffffffffff x then
    let (y, hundreds) := whileHolds (exceeds 0x58a249ad2594c37c) downHundred 4 0 start
    let (y, tens) := whileHolds (exceeds 0x45f2a05f1fffffff) downTen 12 0 y
    let (y, ones) := whileHolds (exceeds 0x43dfffffffffffff) downOne 12 0 y
    (y, 100 * hundreds + 10 * tens + ones)
  else
    let (y, hundreds) := whileHolds (fallsBelow 0x2ee665bf1d3e6a8c) upHundred 5 0 start
    let (y, tens) := whileHolds (fallsBelow 0x4195fd7fe1796495) upTen 12 0 y
    let (y, ones) := whileHolds (fallsBelow 0x43a999999999999b) upOne 12 0 y
    (y, -(100 * hundreds + 10 * tens + ones : Nat))

def wholePart (x : Binary64) : Nat := x.scaledInteger.natAbs / twoTo 1074

def leading (x : Binary64) : Nat × Int :=
  let (y, exponent) := normalized x
  let value :=
    if y.rest.isNegative then wholePart y.main - wholePart y.rest
    else wholePart y.main + wholePart y.rest
  (value, exponent)

def roundedDigits (value cut : Nat) : List Char :=
  if cut = 0 then Nat.toDigits 10 value
  else Nat.toDigits 10 ((value + tenTo cut / 2) / tenTo cut)

/-- The digits of a positive number rounded to `count` digits, halves up, and the power of ten of
the first of them. -/
def digits (x : Binary64) (count : Nat) : List Char × Int :=
  let (value, exponent) := leading x
  let length := (Nat.toDigits 10 value).length
  let kept := roundedDigits value (length - count)
  let carried : Int := if kept.length > min length count then 1 else 0
  (kept.take count, length - 1 + exponent + carried)

/-- The digits of a positive number rounded to some places behind the point, halves up, and to
`most` digits. The second part is the power of ten of the first digit. -/
def fixedDigits (x : Binary64) (places most : Nat) : List Char × Int :=
  let (value, exponent) := leading x
  let length := (Nat.toDigits 10 value).length
  let wanted : Int := length + exponent + places
  if wanted < 0 then (['0'], -(places : Int))
  else
    let count := min wanted.toNat most
    let kept := roundedDigits value (length - count)
    let carried : Int := if kept.length > min length count then 1 else 0
    (kept, length - 1 + exponent + carried)

example : (ofDecimal ['1'] ['5'] 0).bits = 0x3ff8000000000000 := by decide +kernel

/-- Nine times `10 ^ 250` is not read as the nearest number, but as the one below. -/
example : (ofDecimal ['9'] [] 250).bits = (Binary64.ofDecimal false 9 250).bits - 1 := by decide +kernel

end Paired

end RowSource
