import RowSource.Text.Utf8
import RowSource.Value

/-!
# Data

What the engine works with. A text is its bytes, whether they are UTF-8 or not: texts are compared,
stored and converted as they are. They are read as characters where the host gets to see them.
-/

namespace RowSource.Sql

inductive Datum where
  | null
  | integer (value : Int64)
  | real (value : Binary64)
  | text (bytes : List UInt8)
  | blob (bytes : List UInt8)
  deriving DecidableEq, Inhabited

namespace Datum

def isNull : Datum → Bool
  | null => true
  | _ => false

def ofString (text : String) : Datum := .text (bytesOfText text)

def ofValue : SqlValue → Datum
  | .null => null
  | .integer i => integer i
  | .real x => real x
  | .text s => ofString s
  | .blob bytes => blob bytes

def toValue : Datum → SqlValue
  | null => .null
  | integer i => .integer i
  | real x => .real x
  | text bytes => .text (textOfBytes bytes)
  | blob bytes => .blob bytes

def kindName : Datum → String
  | null => "null"
  | integer _ => "integer"
  | real _ => "real"
  | text _ => "text"
  | blob _ => "blob"

def kindRank : Datum → Nat
  | null => 0
  | integer _ | real _ => 1
  | text _ => 2
  | blob _ => 3

/-- A number that is none counts as nothing. -/
def withoutNaN : Datum → Datum
  | real x => if x.isNaN then null else real x
  | value => value

/-- An integer as a value, or a real one if it does not fit. -/
def ofInteger (i : Int) : Datum :=
  if isStorable i then .integer (Int64.ofInt i) else .real (Binary64.ofInt i)

def ofTruth : Option Bool → Datum
  | none => .null
  | some true => .integer 1
  | some false => .integer 0

end Datum

end RowSource.Sql
