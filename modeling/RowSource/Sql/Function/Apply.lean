import RowSource.Sql.Function
import RowSource.Sql.Function.Number
import RowSource.Sql.Function.Text

/-!
# Applying functions

The value of a function of values. Functions that decide which of their arguments are worked out, or
that ask for the state of a connection, are not among them.
-/

namespace RowSource.Sql

namespace Scalar

def space : List UInt8 := [32]

def trimmed (front back : Bool) (value : Datum) : List Datum → Datum
  | [] => TextFunction.trim front back value space
  | set :: _ =>
      match textOf set with
      | some set => TextFunction.trim front back value set
      | none => .null

def fits (style : Pattern.Style) (pattern value : Datum) : Except EngineFault Datum :=
  match textOf pattern with
  | none => .ok .null
  | some pattern =>
      if Pattern.lengthLimit < pattern.length then
        .error (.failed 1 (some "LIKE or GLOB pattern too complex"))
      else
        match textOf value with
        | some value => .ok (.ofTruth (some (style.matches pattern value)))
        | none => .ok .null

/-- Whether a value fits a pattern in which a character may go before another one that stands for
itself. -/
def fitsEscaped (pattern value escape : Datum) : Except EngineFault Datum :=
  if ((textOf pattern).any fun bytes => Pattern.lengthLimit < bytes.length) then
    .error (.failed 1 (some "LIKE or GLOB pattern too complex"))
  else
    match (textOf escape).map characterNumbers with
    | none => .ok .null
    | some [number] => fits (.likeEscaped number) pattern value
    | some _ => .error (.failed 1 (some "ESCAPE expression must be a single character"))

/-- The least of some values, or the greatest: the last of equal least ones, the first of equal
greatest ones. -/
def extreme (collation : Collation) (greatest : Bool) : List Datum → Datum
  | [] => .null
  | first :: rest =>
      if (first :: rest).any Datum.isNull then .null
      else
        rest.foldl
          (fun best value =>
            let order := compareValues collation best value
            if (if greatest then order == .lt else order != .lt) then value else best)
          first

def sizeLimit : Nat := 1000000000

def zeroes (count : Int) : Except EngineFault Datum :=
  if (sizeLimit : Int) < count then .error (.failed 18 (some "string or blob too big"))
  else .ok (.blob (List.replicate count.toNat 0))

def apply (function : Scalar) (collation : Collation) (arguments : List Datum) :
    Except EngineFault Datum :=
  match function, arguments with
  | .abs, [value] => NumberFunction.abs value
  | .sign, [value] => .ok (NumberFunction.sign value)
  | .round, value :: places => .ok (NumberFunction.round value places.head?)
  | .typeOf, [value] => .ok (.ofString value.kindName)
  | .subtype, [_] => .ok (.integer 0)
  | .likely, value :: _ => .ok value
  | .length, [value] => .ok (TextFunction.length value)
  | .octetLength, [value] => .ok (TextFunction.octetLength value)
  | .upper, [value] => .ok (TextFunction.upper value)
  | .lower, [value] => .ok (TextFunction.lower value)
  | .hex, [value] => .ok (TextFunction.hex value)
  | .unhex, [value] => .ok (TextFunction.unhex value [])
  | .unhex, [value, ignored] =>
      .ok (((textOf ignored).map (TextFunction.unhex value)).getD .null)
  | .quote, [value] => .ok (TextFunction.quote value)
  | .unicode, [value] => .ok (TextFunction.unicode value)
  | .char, values => .ok (TextFunction.char values)
  | .soundex, [value] => .ok (TextFunction.soundex value)
  | .trim, value :: set => .ok (trimmed true true value set)
  | .trimLeft, value :: set => .ok (trimmed true false value set)
  | .trimRight, value :: set => .ok (trimmed false true value set)
  | .replace, [value, pattern, replacement] =>
      .ok (TextFunction.replace value pattern replacement)
  | .substring, value :: start :: count => .ok (TextFunction.substring value start count.head?)
  | .instr, [value, needle] => .ok (TextFunction.instr value needle)
  | .concat, values => .ok (TextFunction.concat values)
  | .concatWith, separator :: values => .ok (TextFunction.concatWith separator values)
  | .like, [pattern, value] => fits .like pattern value
  | .like, [pattern, value, escape] => fitsEscaped pattern value escape
  | .glob, [pattern, value] => fits .glob pattern value
  | .matches, _ => .error (.failed 1 (some "unable to use function MATCH in the requested context"))
  | .least, values => .ok (extreme collation false values)
  | .greatest, values => .ok (extreme collation true values)
  | .nullIf, [value, other] =>
      .ok (if !other.isNull && compareValues collation value other == .eq then .null else value)
  | .zeroBlob, [count] => zeroes (wholeOf count)
  | _, _ => .ok .null

end Scalar

end RowSource.Sql
