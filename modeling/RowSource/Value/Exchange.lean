import RowSource.Value

/-!
# Exchange of values between engine and host

Every engine value has a host form, which for integers depends on the mode. A host value has an
engine form unless it is a boolean or an integer that does not fit in 64 bits.
-/

namespace RowSource

inductive ValueFault where
  | integerTooLarge
  | unstorable (kind : String)
  | missingColumn (index : Nat)
  deriving DecidableEq

def ValueFault.message : ValueFault → String
  | .integerTooLarge => "a bigint that was too large"
  | .unstorable kind => "an invalid value (" ++ kind ++ ")"
  | .missingColumn index => "a row without column " ++ toString index

def SqlValue.toHost (mode : IntegerMode) : SqlValue → HostValue
  | .null => .null
  | .integer i =>
      match mode with
      | .loose => .number (Binary64.ofInt i.toInt)
      | .strict => .bigint i.toInt
  | .real x => .number x
  | .text s => .text s
  | .blob b => .blob b

/-- A host value as the engine stores it. A number is always stored as a real. -/
def HostValue.toSql : HostValue → Except ValueFault SqlValue
  | .missing | .null => .ok .null
  | .number x => .ok (.real x)
  | .bigint i => if isStorable i then .ok (.integer (Int64.ofInt i)) else .error .integerTooLarge
  | .text s => .ok (.text s)
  | .blob b => .ok (.blob b)
  | .bool b => .error (.unstorable (HostValue.bool b).kind)

end RowSource
