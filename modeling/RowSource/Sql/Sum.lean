import RowSource.Engine.Fault
import RowSource.Sql.Affinity

/-!
# Sums

The sum of the numbers in a column. It is exact as long as all of them are integers and the sum fits,
and otherwise a real number that makes up for most of what rounding loses.
-/

namespace RowSource.Sql

/-- A running sum: exact as long as all values are integers and the sum fits, otherwise a real
number with the error that rounding has left out. -/
structure Sum where
  count : Nat := 0
  whole : Int := 0
  exact : Bool := true
  /-- The sum of the integers did not fit, and nothing else has come since. -/
  overflowed : Bool := false
  sum : Binary64 := Binary64.ofInt 0
  error : Binary64 := Binary64.ofInt 0

namespace Sum

/-- Adds a real number and keeps what rounding leaves out. -/
def addReal (s : Sum) (x : Binary64) : Sum :=
  let magnitude (x : Binary64) : Binary64 := if x.isNegative then x.negate else x
  let total := s.sum.add x
  let larger := !x.isNaN && !s.sum.isNaN && (magnitude s.sum).compareValue (magnitude x) == .gt
  let lost :=
    if larger then (s.sum.add total.negate).add x else (x.add total.negate).add s.sum
  { s with sum := total, error := s.error.add lost }

/-- An integer as a real number and what is left of it. A large one is taken apart, so that both are
exact. -/
def apart (i : Int) : Int × Int :=
  if -(twoTo 52) < i ∧ i < twoTo 52 then (i, 0)
  else
    let low := i.tmod 16384
    (i - low, low)

def addWhole (s : Sum) (i : Int) : Sum :=
  let (high, low) := apart i
  let s := s.addReal (Binary64.ofInt high)
  if high = i then s else s.addReal (Binary64.ofInt low)

/-- A sum that goes on as a real number. -/
def inexact (s : Sum) : Sum :=
  if s.exact then
    let (high, low) := apart s.whole
    { s with exact := false, sum := Binary64.ofInt high, error := Binary64.ofInt low }
  else s

def add (s : Sum) (value : Datum) : Sum :=
  let counted := { s with count := s.count + 1 }
  match withNumericAffinity value with
  | .null => s
  | .integer i =>
      if s.exact then
        if isStorable (s.whole + i.toInt) then { counted with whole := s.whole + i.toInt }
        else { counted.inexact.addWhole i.toInt with overflowed := true }
      else counted.addWhole i.toInt
  | other => { counted.inexact.addReal (realOf other) with overflowed := false }

def realValue (s : Sum) : Binary64 :=
  if s.exact then Binary64.ofInt s.whole
  else if s.error.isFinite then s.sum.add s.error
  else s.sum

def value (s : Sum) : Except EngineFault Datum :=
  if s.count = 0 then .ok .null
  else if s.exact then .ok (.ofInteger s.whole)
  else if s.overflowed then .error (.failed 1 (some "integer overflow"))
  else .ok (Datum.real s.realValue).withoutNaN

def mean (s : Sum) : Datum :=
  if s.count = 0 then .null
  else (Datum.real (s.realValue.divide (Binary64.ofInt s.count))).withoutNaN

end Sum

end RowSource.Sql
