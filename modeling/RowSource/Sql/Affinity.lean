import RowSource.Engine.Fault
import RowSource.Sql.Collation
import RowSource.Sql.Numeral
import RowSource.Sql.Token

/-!
# Affinity

A column's declared type gives it an affinity: the kind of value that it prefers. Values are
brought nearer to an affinity when they are stored in a column and when they are compared with one.
-/

namespace RowSource.Sql

inductive Affinity where
  | blob | text | numeric | integer | real
  /-- Numeric, but real numbers stay real even when they are whole. -/
  | flexible
  deriving DecidableEq

namespace Affinity

def isNumeric : Affinity → Bool
  | .numeric | .integer | .real | .flexible => true
  | _ => false

def ofType (type : String) : Affinity :=
  let folded := (foldCase type).toList
  let has (word : String) : Bool := EngineFault.occursIn word.toList folded
  if has "int" then .integer
  else if has "char" || has "clob" || has "text" then .text
  else if has "blob" || folded.isEmpty then .blob
  else if has "real" || has "floa" || has "doub" then .real
  else .numeric

end Affinity

/-! ### Numbers in text -/

def byteChars (bytes : List UInt8) : List Char := bytes.map fun b => Char.ofNat b.toNat

/-- The integer that a number is, if it fits in 64 bits and is not one of the two outermost. -/
def wholeInteger? (x : Binary64) : Option Int64 :=
  match x.toInt? with
  | some i => if -(twoTo 63) < i ∧ i < twoTo 63 - 1 then some (Int64.ofInt i) else none
  | none => none

def signed (cs : List Char) : Bool × List Char :=
  match cs with
  | '-' :: rest => (true, rest)
  | '+' :: rest => (false, rest)
  | _ => (false, cs)

/-- A number from the front of a text, and whether it is all of the text but for blanks. -/
def numberAtFront (bytes : List UInt8) : Option (Datum × Bool) :=
  let (negative, digits) := signed ((byteChars bytes).dropWhile Token.isSpace)
  let whole := Token.lengthWhile Char.isDigit digits
  let part :=
    match digits.drop whole with
    | '.' :: rest => 1 + Token.lengthWhile Char.isDigit rest
    | _ => 0
  if whole + (part - 1) = 0 then none
  else
    let exponent := Token.exponentLength Char.isDigit (digits.drop (whole + part))
    let length := whole + part + exponent
    let source := digits.take length
    let complete := (digits.drop length).all Token.isSpace
    let value :=
      if part = 0 ∧ exponent = 0 then Numeral.integerValue negative source
      else
        let magnitude := Numeral.realValue source
        .real (if negative then magnitude.negate else magnitude)
    some (value, complete)

def numberOfText (bytes : List UInt8) : Option Datum :=
  match numberAtFront bytes with
  | some (value, true) => some value
  | _ => none

/-! ### Numbers as text -/

def withoutEndingZeros (digits : List Char) : List Char :=
  (digits.reverse.dropWhile (· = '0')).reverse

def fractionText (digits : List Char) : List Char :=
  match withoutEndingZeros digits with
  | [] => ['.', '0']
  | part => '.' :: part

def exponentText (exponent : Int) : List Char :=
  let digits := Nat.toDigits 10 exponent.natAbs
  'e' :: (if exponent < 0 then '-' else '+') ::
    (if digits.length < 2 then '0' :: digits else digits)

/-- A real number as text: fifteen digits at most, and always a point. A zero has no sign. -/
def realText (x : Binary64) : String :=
  if x.isNaN then ""
  else
    let sign := if x.isNegative then ['-'] else []
    if !x.isFinite then String.ofList (sign ++ "Inf".toList)
    else if x.significand = 0 then "0.0"
    else
      let (digits, exponent) := Paired.digits ⟨x.bits &&& 0x7fffffffffffffff⟩ 15
      if exponent < -4 ∨ 14 < exponent then
        String.ofList (sign ++ digits.take 1 ++ fractionText (digits.drop 1) ++
          exponentText exponent)
      else if exponent < 0 then
        String.ofList (sign ++ '0' ::
          fractionText (List.replicate (-exponent - 1).toNat '0' ++ digits))
      else
        let whole := exponent.toNat + 1
        String.ofList (sign ++ digits.take whole ++ fractionText (digits.drop whole))

def textOf : Datum → Option (List UInt8)
  | .null => none
  | .integer i => some (bytesOfText (toString i.toInt))
  | .real x => some (bytesOfText (realText x))
  | .text bytes | .blob bytes => some bytes

/-! ### Values near an affinity -/

def withNumericAffinity : Datum → Datum
  | .text bytes => (numberOfText bytes).getD (.text bytes)
  | value => value

def withTextAffinity (value : Datum) : Datum :=
  match value with
  | .integer _ | .real _ => ((textOf value).map Datum.text).getD value
  | _ => value

def withIntegerAffinity (value : Datum) : Datum :=
  match withNumericAffinity value with
  | .real x => ((wholeInteger? x).map Datum.integer).getD (.real x)
  | other => other

/-- A value as a column stores it. A column of real numbers keeps whole ones as integers, which have
but one zero. -/
def stored (affinity : Affinity) (value : Datum) : Datum :=
  match affinity with
  | .blob => value
  | .text => withTextAffinity value
  | .flexible => withNumericAffinity value
  | .real =>
      match withIntegerAffinity value with
      | .integer i => .real (Binary64.ofInt i.toInt)
      | other => other
  | _ => withIntegerAffinity value

/-! ### Comparison -/

/-- The affinity under which two sides are compared, given the affinities of those sides that have
one. -/
def comparisonAffinity : Option Affinity → Option Affinity → Affinity
  | some a, some b => if a.isNumeric || b.isNumeric then .numeric else .blob
  | some a, none => a
  | none, some b => b
  | none, none => .blob

structure Comparison where
  affinity : Affinity := .blob
  collation : Collation := .binary
  deriving DecidableEq

def Datum.isText : Datum → Bool
  | .text _ => true
  | _ => false

/-- The order of two values that are compared with each other. Where texts are preferred, a number
becomes one only beside another text. -/
def Comparison.order (comparison : Comparison) (left right : Datum) : Ordering :=
  let affinity := comparison.affinity
  if affinity.isNumeric then
    compareValues comparison.collation (withNumericAffinity left) (withNumericAffinity right)
  else if affinity = .text ∧ (left.isText ∨ right.isText) then
    compareValues comparison.collation (withTextAffinity left) (withTextAffinity right)
  else compareValues comparison.collation left right

def Comparison.same (comparison : Comparison) (left right : Datum) : Bool :=
  if left.isNull || right.isNull then left.isNull && right.isNull
  else comparison.order left right == .eq

/-! ### Conversions -/

def numberOf : Datum → Datum
  | .text bytes | .blob bytes => ((numberAtFront bytes).map (·.1)).getD (.integer 0)
  | value => value

/-- Whether a value counts as true. Nothing counts as neither. -/
def truth (value : Datum) : Option Bool :=
  match numberOf value with
  | .null => none
  | .integer i => some (i != 0)
  | .real x => some (x.significand != 0 || !x.isFinite)
  | _ => none

/-- The integer part of a number that fits in 64 bits, or the outermost integer on its side. -/
def truncated (x : Binary64) : Int64 :=
  if x.isNaN then 0
  else
    let scaled :=
      if x.isFinite then x.scaledInteger else if x.isNegative then -(twoTo 4000) else twoTo 4000
    let whole := scaled.tdiv (twoTo 1074)
    Int64.ofInt (max (-(twoTo 63)) (min (twoTo 63 - 1) whole))

/-- The integer at the front of a text, or the outermost integer on its side. -/
def integerAtFront (bytes : List UInt8) : Int64 :=
  let (negative, digits) := signed ((byteChars bytes).dropWhile Token.isSpace)
  let magnitude : Int := Numeral.digitsValue (digits.takeWhile Char.isDigit)
  Int64.ofInt (if negative then max (-(twoTo 63)) (-magnitude) else min (twoTo 63 - 1) magnitude)

/-- The number at the front of a text, as an integer if it is one of moderate size. -/
def plainNumber (bytes : List UInt8) : Datum :=
  match numberAtFront bytes with
  | some (.real x, _) =>
      match x.toInt? with
      | some i => if -(twoTo 51) ≤ i ∧ i < twoTo 51 then .integer (Int64.ofInt i) else .real x
      | none => .real x
  | some (value, _) => value
  | none => .integer 0

def wholeOf : Datum → Int
  | .integer i => i.toInt
  | .real x => (truncated x).toInt
  | .text bytes | .blob bytes => (integerAtFront bytes).toInt
  | .null => 0

def realOf (value : Datum) : Binary64 :=
  match numberOf value with
  | .integer i => Binary64.ofInt i.toInt
  | .real x => x
  | _ => Binary64.ofInt 0

def castTo (type : String) (value : Datum) : Datum :=
  match Affinity.ofType type, value with
  | _, .null => .null
  | .text, _ => ((textOf value).map Datum.text).getD .null
  | .blob, .blob bytes => .blob bytes
  | .blob, _ => ((textOf value).map Datum.blob).getD .null
  | .integer, _ => .integer (Int64.ofInt (wholeOf value))
  | .numeric, .text bytes | .numeric, .blob bytes => plainNumber bytes
  | .numeric, _ | .flexible, _ => value
  | .real, _ => .real (realOf value)

end RowSource.Sql
