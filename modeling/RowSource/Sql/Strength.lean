import RowSource.Sql.Query

/-!
# Outer joins that are none

Rows that stay without any row of a source are of no use if a condition can only hold where there is
one. Then the source is joined like any other.
-/

namespace RowSource.Sql

namespace Term

def isColumnOf (numbers : List Nat) : Term → Bool
  | column ref => numbers.contains ref.source
  | _ => false

mutual

/-- Whether a condition can only be true where a source has a row. -/
def provesRow (hosted : List Nat) (source : Nat) : Term → Bool
  | .collate operand _ _ => provesRow hosted source operand
  | .unary .isNotNull operand => showsRow hosted source operand
  | .binary .and left right => provesRow hosted source left || provesRow hosted source right
  | term => showsRow hosted source term
termination_by term => (sizeOf term, 1)

/-- Whether a term is null where a source has no row, as far as that is easy to see. The columns of host
tables may be compared with nothing. -/
def showsRow (hosted : List Nat) (source : Nat) : Term → Bool
  | .column ref | .fixed ref _ => ref.source == source
  | .binary .and left right | .binary .or left right =>
      provesRow hosted source left && provesRow hosted source right
  | .binary op left right =>
      if op = .is ∨ op = .isNot then false
      else if op.compares && (left.isColumnOf hosted || right.isColumnOf hosted) then false
      else showsRow hosted source left || showsRow hosted source right
  | .between operand low high =>
      showsRow hosted source operand ||
        (provesRow hosted source low && provesRow hosted source high)
  | .inList operand members => !members.isEmpty && showsRow hosted source operand
  | .unary op operand =>
      if op = .isNull ∨ op = .isNotNull then false else showsRow hosted source operand
  | .cast operand _ | .collate operand _ _ => showsRow hosted source operand
  | _ => false
termination_by term => (sizeOf term, 0)

end

end Term

namespace Arm

variable {Q : Type}

def hosted (arm : Arm Q) : List Nat := (arm.sources.filter (·.isHosted)).map (·.number)

/-- An arm whose source at a position is joined like any other if a condition needs its rows. -/
def strengthened (arm : Arm Q) (position : Nat) : Arm Q :=
  match arm.sources[position]? with
  | none => arm
  | some source =>
      match source.outer with
      | none => arm
      | some joining =>
          if arm.conditions.any (Term.provesRow arm.hosted source.number) then
            { arm with
              sources := arm.sources.set position { source with outer := none }
              conditions := arm.conditions ++ joining }
          else arm

end Arm

end RowSource.Sql
