import RowSource.Number.Paired
import RowSource.Sql.Datum
import RowSource.Text.JsonTree

/-!
# Numerals

The numbers that digits write: whole ones, those with a point or an exponent, and hexadecimal ones.
-/

namespace RowSource.Sql.Numeral

def digitsValue (digits : List Char) : Nat :=
  digits.foldl (fun n c => n * 10 + (c.toNat - '0'.toNat)) 0

/-- An exponent. Beyond ten thousand it makes no difference. -/
def exponentValue (digits : List Char) : Int :=
  digits.foldl (fun n c => if n < 10000 then n * 10 + ((c.toNat - '0'.toNat : Nat) : Int) else 10000)
    0

def realValue (cs : List Char) : Binary64 :=
  let whole := cs.takeWhile Char.isDigit
  let rest := cs.drop whole.length
  let part :=
    match rest with
    | '.' :: rest => rest.takeWhile Char.isDigit
    | _ => []
  let rest := match rest with
    | '.' :: rest => rest.drop part.length
    | rest => rest
  let exponent : Int :=
    match rest.drop 1 with
    | '-' :: digits => -exponentValue digits
    | '+' :: digits => exponentValue digits
    | digits => exponentValue digits
  Paired.ofDecimal whole part exponent

/-- The number that digits write. One that does not fit in 64 bits is real. -/
def integerValue (negative : Bool) (digits : List Char) : Datum :=
  let magnitude : Int := digitsValue digits
  let value := if negative then -magnitude else magnitude
  if isStorable value then .integer (Int64.ofInt value)
  else
    let x := Paired.ofDecimal digits [] 0
    .real (if negative then x.negate else x)

/-- The number that hexadecimal digits write, in two's complement, if they fit in 64 bits. -/
def hexadecimal? (digits : List Char) : Option Int64 :=
  let digits := digits.dropWhile (· = '0')
  if 16 < digits.length then none
  else
    some (Int64.ofInt (digits.foldl (fun n c => n * 16 + ((JsonTree.hexDigit? c).getD 0 : Nat)) 0))

def hexadecimalDigits? : List Char → Option (List Char)
  | '0' :: x :: digits => if x = 'x' ∨ x = 'X' then some digits else none
  | _ => none

/-- The value of a numeral, or of one with a minus sign. A hexadecimal one may be too large, and the
outermost negative number cannot be written in hexadecimal digits with a sign. -/
def value? (negative : Bool) (source : String) : Option Datum :=
  match hexadecimalDigits? source.toList with
  | some digits =>
      match hexadecimal? digits with
      | some value =>
          if !negative then some (.integer value)
          else if value = Int64.minValue then none
          else some (.integer (-value))
      | none => none
  | none =>
      let cs := source.toList
      if cs.all Char.isDigit then some (integerValue negative cs)
      else
        let x := realValue cs
        some (.real (if negative then x.negate else x))

def small? (source : String) : Option Nat :=
  let cs := source.toList
  match hexadecimalDigits? cs with
  | some digits =>
      let digits := digits.dropWhile (· = '0')
      let value := digits.foldl (fun n c => n * 16 + (JsonTree.hexDigit? c).getD 0) 0
      if digits.length ≤ 8 ∧ value < 2147483648 then some value else none
  | none =>
      if cs.all Char.isDigit ∧ (cs.dropWhile (· = '0')).length ≤ 10 ∧
          digitsValue cs < 2147483648 then
        some (digitsValue cs)
      else none

end RowSource.Sql.Numeral
