import RowSource.Engine.Fault
import RowSource.Sql.Affinity

/-!
# Functions of numbers
-/

namespace RowSource.Sql.NumberFunction

/-- The magnitude of a number. That of the outermost negative integer does not fit. -/
def abs : Datum → Except EngineFault Datum
  | .null => .ok .null
  | .integer i =>
      if i = Int64.minValue then .error (.failed 1 (some "integer overflow"))
      else .ok (.ofInteger i.toInt.natAbs)
  | value =>
      let x := realOf value
      .ok (.real (if x.isNegative && x.significand != 0 then x.negate else x))

/-- The sign of a number. What is no number has none. -/
def sign (value : Datum) : Datum :=
  match withNumericAffinity value with
  | .integer i => .ofInteger (if i < 0 then -1 else if 0 < i then 1 else 0)
  | .real x =>
      .ofInteger (if x.significand = 0 ∧ x.isFinite then 0 else if x.isNegative then -1 else 1)
  | _ => .null

def half : Binary64 := Binary64.ofWord 0x3fe0000000000000

def roundedTo (x : Binary64) (places : Nat) : Binary64 :=
  let beyond := (Binary64.ofInt (twoTo 52)).compareValue (if x.isNegative then x.negate else x) == .lt
  if !x.isFinite || beyond then x
  else if places = 0 then
    let moved := x.add (if x.isNegative && x.significand != 0 then half.negate else half)
    Binary64.ofInt (truncated moved).toInt
  else if x.significand = 0 then Binary64.ofInt 0
  else
    let magnitude := if x.isNegative then x.negate else x
    let (digits, exponent) := Paired.fixedDigits magnitude places 26
    let rounded := Paired.ofDecimal digits [] (exponent - (digits.length - 1))
    if x.isNegative then rounded.negate else rounded

def round (value : Datum) (places : Option Datum) : Datum :=
  if value.isNull || places.any Datum.isNull then .null
  else
    let places := ((places.map wholeOf).getD 0).toNat
    (Datum.real (roundedTo (realOf value) (min places 30))).withoutNaN

end RowSource.Sql.NumberFunction
