import RowSource.Number.Binary64

/-!
# The shortest decimal text of a number

Among the decimals that round to a finite number, `Shortest.decimal` takes one with the fewest
digits and, of those, the nearest; of two equally near it takes the larger. `Binary64.text` writes
it out in full, without an exponent however large or small the number is.
-/

namespace RowSource

namespace Shortest

structure Decimal where
  digits : Nat
  scale : Int
  deriving DecidableEq

/-- A positive value with the interval of values that round to it, all three over one
denominator. -/
structure Target where
  value : Nat
  low : Nat
  high : Nat
  unit : Nat
  /-- The ends of the interval round to the value as well. -/
  closed : Bool

/-- The target of a number other than zero. The interval ends half way to the two neighbours; below
a power of two the lower neighbour is half as far away. -/
def Target.of (x : Binary64) : Target :=
  let m := x.significand
  let below := if x.fraction = 0 ∧ 1 < x.exponentField then 1 else 2
  let shift := x.exponent - 2
  let scaled := twoTo shift.toNat
  ⟨4 * m * scaled, (4 * m - below) * scaled, (4 * m + 2) * scaled, twoTo (-shift).toNat, m % 2 = 0⟩

def Target.admits (t : Target) (n numerator denominator : Nat) : Bool :=
  let point := n * numerator * t.unit
  if t.closed then
    decide (t.low * denominator ≤ point) && decide (point ≤ t.high * denominator)
  else
    decide (t.low * denominator < point) && decide (point < t.high * denominator)

/-- The number of zeros between the point and the first digit of `value / unit`, searched among the
first `fuel` places. -/
def leadingZeros (value unit : Nat) : Nat → Nat
  | 0 => 0
  | fuel + 1 => if unit ≤ value * 10 then 0 else leadingZeros (value * 10) unit fuel + 1

def Target.magnitude (t : Target) : Int :=
  let whole := t.value / t.unit
  if whole = 0 then -(leadingZeros t.value t.unit 400 : Int)
  else ((Nat.toDigits 10 whole).length : Int)

def Target.onGrid (t : Target) (count : Nat) : Option Decimal :=
  let scale := t.magnitude - count
  let numerator := tenTo scale.toNat
  let denominator := tenTo (-scale).toNat
  let lower := t.value * denominator / (t.unit * numerator)
  let rest := t.value * denominator % (t.unit * numerator)
  let upper := lower + 1
  let lowerFits := t.admits lower numerator denominator
  let upperFits := t.admits upper numerator denominator
  if lowerFits && (!upperFits || decide (2 * rest < t.unit * numerator)) then some ⟨lower, scale⟩
  else if upperFits then some ⟨upper, scale⟩
  else none

def Target.search (t : Target) (count : Nat) : Nat → Decimal
  | 0 => ⟨t.value / t.unit, 0⟩
  | fuel + 1 => (t.onGrid count).getD (t.search (count + 1) fuel)

/-- The shortest decimal that reads back as a finite number other than zero, without its sign.
Seventeen digits always suffice. -/
def decimal (x : Binary64) : Decimal := (Target.of x).search 1 17

end Shortest

private def dropEndingZeros (digits : List Char) : List Char :=
  (digits.reverse.dropWhile (· = '0')).reverse

def Shortest.Decimal.text (d : Shortest.Decimal) : String :=
  let digits := Nat.toDigits 10 d.digits
  if 0 ≤ d.scale then
    String.ofList (digits ++ List.replicate d.scale.toNat '0')
  else
    let places := (-d.scale).toNat
    let padded := List.replicate (places + 1 - digits.length) '0' ++ digits
    let whole := padded.take (padded.length - places)
    match dropEndingZeros (padded.drop (padded.length - places)) with
    | [] => String.ofList whole
    | part => String.ofList (whole ++ '.' :: part)

/-- The text of a number: positional, with no point on a whole number and a sign on the negative
zero. -/
def Binary64.text (x : Binary64) : String :=
  if x.isNaN then "NaN"
  else
    let magnitude :=
      if !x.isFinite then "inf"
      else if x.significand = 0 then "0"
      else (Shortest.decimal x).text
    if x.isNegative then "-" ++ magnitude else magnitude

end RowSource
