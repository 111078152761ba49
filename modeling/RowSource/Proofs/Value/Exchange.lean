import RowSource.Proofs.Number.Nearest
import RowSource.Value.Exchange

/-!
# Values there and back

What the engine stores of a value that host code was shown.
-/

namespace RowSource

/-- How a value comes back from host code that returns it as it was shown. Only an integer that was
shown as a number is another value then: the number nearest to it. -/
def SqlValue.ReadsBack (mode : IntegerMode) (value shown : SqlValue) : Prop :=
  match mode, value with
  | .loose, .integer i => ∃ x, shown = .real x ∧ x.Nearest i.toInt
  | _, _ => shown = value

theorem isStorable_iff (i : Int) :
    isStorable i = true ↔ Int64.minValue.toInt ≤ i ∧ i ≤ Int64.maxValue.toInt := by
  have bound : twoTo 63 = 2 ^ 63 := rfl
  unfold isStorable
  rw [bound, Bool.and_eq_true, decide_eq_true_eq, decide_eq_true_eq, Int64.toInt_minValue,
    Int64.toInt_maxValue]
  omega

theorem isStorable_toInt (i : Int64) : isStorable i.toInt = true :=
  (isStorable_iff _).mpr ⟨i.minValue_le_toInt, i.toInt_le⟩

theorem toInt_ofInt_of_isStorable {i : Int} (storable : isStorable i = true) :
    (Int64.ofInt i).toInt = i := by
  rw [isStorable_iff, Int64.toInt_minValue, Int64.toInt_maxValue] at storable
  exact Int64.toInt_ofInt_of_le storable.1 (by omega)

theorem HostValue.toSql_bigint_toInt (i : Int64) :
    (HostValue.bigint i.toInt).toSql = .ok (.integer i) := by
  unfold toSql
  dsimp only
  rw [isStorable_toInt, if_pos rfl, Int64.ofInt_toInt]

theorem SqlValue.toSql_toHost (mode : IntegerMode) (value : SqlValue) :
    ∃ shown, (value.toHost mode).toSql = .ok shown ∧ value.ReadsBack mode shown := by
  cases value with
  | null => cases mode <;> exact ⟨_, rfl, rfl⟩
  | real x => cases mode <;> exact ⟨_, rfl, rfl⟩
  | text s => cases mode <;> exact ⟨_, rfl, rfl⟩
  | blob bytes => cases mode <;> exact ⟨_, rfl, rfl⟩
  | integer i =>
      cases mode with
      | strict => exact ⟨_, HostValue.toSql_bigint_toInt i, rfl⟩
      | loose => exact ⟨_, rfl, _, rfl, Binary64.nearest_ofInt_int64 i⟩

end RowSource
