import RowSource.Failure
import RowSource.Plan.Constraint

/-!
# Plans

A parameter column that a query constrains at all must be bound by `=`. The plan hands each bound
parameter to the scan once, from the earliest constraint on it, in the order of the parameters, and
says by a mask which ones are bound.
-/

namespace RowSource

def maxParameters : Nat := 32

structure Binding where
  parameter : Nat
  /-- The constraint that supplies the value, by its place in the list. -/
  constraint : Nat
  /-- The place of the value among the arguments of the scan, counted from one. -/
  position : Nat
  deriving DecidableEq

structure Plan where
  bound : List Binding
  mask : UInt32
  estimatedCost : Binary64
  estimatedRows : Int
  deriving DecidableEq

/-- The parameter that a constraint is about. Pseudo-constraints, the row identifier and data
columns have none. -/
def Constraint.parameter? (c : Constraint) (names : List String) : Option Nat :=
  if c.op.isPseudo then none
  else if c.column < 0 then none
  else if c.column.toNat < names.length then some c.column.toNat else none

namespace Plan

/-- The pairs of a parameter and the place of a constraint on it, in the order of the constraints,
counting places from `index`. The first constraint that is not a usable `=` decides how planning
fails. -/
def collect (names : List String) (index : Nat) :
    List Constraint → Except Failure (List (Nat × Nat))
  | [] => .ok []
  | c :: rest =>
      match c.parameter? names with
      | none => collect names (index + 1) rest
      | some parameter =>
          if c.op ≠ .eq then .error (.planning (names.getD parameter ""))
          else if !c.usable then .error .unusableConstraint
          else do
            let found ← collect names (index + 1) rest
            return (parameter, index) :: found

def setBit (mask : UInt32) (parameter : Nat) : UInt32 := mask ||| (1 <<< UInt32.ofNat parameter)

def testBit (mask : UInt32) (parameter : Nat) : Bool := mask.toNat.testBit parameter

/-- Binds sorted pairs one after another, from the given position and mask on. A parameter that is
bound already keeps its first constraint. -/
def bind (position : Nat) (mask : UInt32) :
    List (Nat × Nat) → Except Failure (List Binding × UInt32)
  | [] => .ok ([], mask)
  | (parameter, constraint) :: rest =>
      if maxParameters ≤ parameter then
        .error (.internal
          ("parameter index " ++ toString parameter ++ " exceeds the plan bitmask"))
      else if testBit mask parameter then bind position mask rest
      else do
        let (bound, mask) ← bind (position + 1) (setBit mask parameter) rest
        return (⟨parameter, constraint, position⟩ :: bound, mask)

def estimate (boundCount : Nat) : Nat := 1000000000 / (boundCount + 1)

def make (names : List String) (constraints : List Constraint) : Except Failure Plan := do
  let found ← collect names 0 constraints
  let (bound, mask) ← bind 1 0 (found.mergeSort fun a b => a.1 ≤ b.1)
  let rows : Int := estimate bound.length
  return ⟨bound, mask, Binary64.ofInt rows, rows⟩

def isBound (plan : Plan) (parameter : Nat) : Bool :=
  parameter < maxParameters && testBit plan.mask parameter

def apply (plan : Plan) (info : IndexInfo) : IndexInfo :=
  { info with
    usages := plan.bound.foldl
      (fun usages binding => usages.set binding.constraint ⟨binding.position, true⟩) info.usages
    indexNumber := plan.mask.toInt32
    estimatedCost := plan.estimatedCost
    estimatedRows := plan.estimatedRows }

/-- A table's answer to a round of planning. When planning fails the round is left as it was. -/
def answer (names : List String) (info : IndexInfo) : Except Failure Unit × IndexInfo :=
  match make names info.constraints with
  | .ok plan => (.ok (), plan.apply info)
  | .error failure => (.error failure, info)

end Plan

end RowSource
