import RowSource.Number.Shortest
import RowSource.Text.Quoted

/-!
# Values

`SqlValue` is what the engine stores, `HostValue` what host code sees. A host value may be missing,
which marks a parameter that a query left unbound, and has two forms for numbers: double precision,
and integers of any size.
-/

namespace RowSource

inductive SqlValue where
  | null
  | integer (value : Int64)
  | real (value : Binary64)
  | text (value : String)
  | blob (bytes : List UInt8)
  deriving DecidableEq, Inhabited

def SqlValue.isNull : SqlValue → Bool
  | .null => true
  | _ => false

inductive HostValue where
  | missing
  | null
  | bool (value : Bool)
  | number (value : Binary64)
  | bigint (value : Int)
  | text (value : String)
  | blob (bytes : List UInt8)
  deriving DecidableEq, Inhabited

/-- How the integers of the engine are shown to host code: as double-precision numbers, or as
integers that keep every digit. -/
inductive IntegerMode where
  | loose
  | strict
  deriving DecidableEq, Inhabited

def IntegerMode.resolve (override : Option IntegerMode) (default : IntegerMode) : IntegerMode :=
  override.getD default

def isStorable (i : Int) : Bool := decide (-(twoTo 63) ≤ i) && decide (i < twoTo 63)

namespace HostValue

def isMissing : HostValue → Bool
  | .missing => true
  | _ => false

def isNullish : HostValue → Bool
  | .missing | .null => true
  | _ => false

def kind : HostValue → String
  | .missing => "missing"
  | .null => "null"
  | .bool _ => "boolean"
  | .number _ => "number"
  | .bigint _ => "bigint"
  | .text _ => "string"
  | .blob _ => "blob"

/-- The integer that a value is without doubt: an integer that the engine can store, or a whole
number small enough that no neighbouring integer rounds to it. -/
def asInteger : HostValue → Option Int64
  | .bigint i => if isStorable i then some (Int64.ofInt i) else none
  | .number x =>
      match x.toInt? with
      | some i => if i.natAbs < twoTo 53 then some (Int64.ofInt i) else none
      | none => none
  | _ => none

def asNumber : HostValue → Option Binary64
  | .number x => some x
  | _ => none

def asText : HostValue → Option String
  | .text s => some s
  | _ => none

def asBytes : HostValue → Option (List UInt8)
  | .blob b => some b
  | _ => none

/-- A value in print. Integers carry an `n`, blobs show their size only. -/
def display : HostValue → String
  | .missing => "undefined"
  | .null => "null"
  | .bool b => if b then "true" else "false"
  | .number x => x.text
  | .bigint i => toString i ++ "n"
  | .text s => quoted s
  | .blob b => "<" ++ toString b.length ++ " bytes>"

/-- A 32-bit integer is a number: it is exact in double precision. -/
def ofInt32 (i : Int32) : HostValue := .number (Binary64.ofInt i.toInt)

def ofInt64 (i : Int64) : HostValue := .bigint i.toInt

/-- An absent value is null, not missing. -/
def ofOption : Option HostValue → HostValue
  | none => .null
  | some value => value

end HostValue

def IntegerMode.name : IntegerMode → String
  | .loose => "Loose"
  | .strict => "Strict"

end RowSource
