import RowSource.Plan

/-!
# Arguments of a scan

The other half of a plan: from the mask and the values that the engine hands over, the list with a
value for every bound parameter and nothing for the others.
-/

namespace RowSource

namespace Plan

def hexadecimal (n : Nat) : String := "0x" ++ String.ofList (Nat.toDigits 16 n)

/-- Takes a value from the front for every parameter whose bit is set. -/
def place (mask : UInt32) (tooFew : Failure) :
    List Nat → List SqlValue → Except Failure (List (Option SqlValue))
  | [], _ => .ok []
  | parameter :: rest, values =>
      if testBit mask parameter then
        match values with
        | [] => .error tooFew
        | value :: values => do
            let placed ← place mask tooFew rest values
            return some value :: placed
      else do
        let placed ← place mask tooFew rest values
        return none :: placed

/-- The values of the first `count` parameters, at most as many as a mask can tell apart. -/
def arguments (mask : UInt32) (count : Nat) (values : List SqlValue) :
    Except Failure (List (Option SqlValue)) :=
  place mask
    (.internal ("filter received " ++ toString values.length ++ " arguments for plan mask " ++
      hexadecimal mask.toNat))
    (List.range (min count maxParameters)) values

end Plan

end RowSource
