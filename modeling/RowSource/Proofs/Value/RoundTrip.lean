import RowSource.Proofs.Number.Unique
import RowSource.Proofs.Value.Exchange

/-!
# Round trips of values

The strict mode shows every engine value as a host value of its own, and the engine takes that value
back as it was. Host values that are not among those are the missing value, which is stored as null,
and the booleans and long integers, which are turned down. The loose mode gives up one thing: an
integer comes back as the real nearest to it.
-/

namespace RowSource

/-! ### From the engine and back -/

theorem SqlValue.toSql_toHost_strict (value : SqlValue) :
    (value.toHost .strict).toSql = .ok value := by
  obtain ⟨shown, stored, same⟩ := value.toSql_toHost .strict
  rw [stored]
  exact congrArg Except.ok same

theorem SqlValue.toSql_toHost_loose {value : SqlValue} (other : ∀ n, value ≠ .integer n) :
    (value.toHost .loose).toSql = .ok value := by
  cases value with
  | integer n => exact absurd rfl (other n)
  | null => rfl
  | real x => rfl
  | text s => rfl
  | blob bytes => rfl

/-- The number of an integer of 64 bits is the one nearest to it that has its sign. -/
theorem Binary64.eq_ofInt_toInt_iff (n : Int64) (x : Binary64) :
    x.Nearest n.toInt ∧ x.isNegative = decide (n.toInt < 0) ↔ x = ofInt n.toInt :=
  nearest_iff_eq_ofInt (natAbs_toInt_lt n) x

/-! ### From the host and back -/

namespace HostValue

theorem toSql_bigint_of_storable {i : Int} (storable : isStorable i = true) :
    (bigint i).toSql = .ok (.integer (Int64.ofInt i)) := by
  unfold toSql
  dsimp only
  rw [if_pos storable]

theorem toSql_bigint_of_wide {i : Int} (wide : ¬isStorable i = true) :
    (bigint i).toSql = .error .integerTooLarge := by
  unfold toSql
  dsimp only
  rw [if_neg wide]

theorem toSql_eq_error_iff (h : HostValue) (fault : ValueFault) :
    h.toSql = .error fault ↔
      (∃ b, h = .bool b ∧ fault = .unstorable "boolean") ∨
        ∃ i, h = .bigint i ∧ ¬(Int64.minValue.toInt ≤ i ∧ i ≤ Int64.maxValue.toInt) ∧
          fault = .integerTooLarge := by
  simp only [← isStorable_iff]
  cases h with
  | bigint i =>
      by_cases storable : isStorable i = true
      · rw [toSql_bigint_of_storable storable]
        constructor
        · intro impossible
          cases impossible
        · rintro (⟨_b, impossible, _fault⟩ | ⟨_i, ⟨⟩, wide, _fault⟩)
          · cases impossible
          · exact absurd storable wide
      · rw [toSql_bigint_of_wide storable]
        constructor
        · rintro ⟨⟩
          exact .inr ⟨i, rfl, storable, rfl⟩
        · rintro (⟨_b, impossible, _fault⟩ | ⟨_i, _same, _wide, rfl⟩)
          · cases impossible
          · rfl
  | bool b =>
      constructor
      · rintro ⟨⟩
        exact .inl ⟨b, rfl, rfl⟩
      · rintro (⟨_b, _same, rfl⟩ | ⟨_i, impossible, _wide, _fault⟩)
        · rfl
        · cases impossible
  | missing => simp [toSql]
  | null => simp [toSql]
  | number x => simp [toSql]
  | text s => simp [toSql]
  | blob bytes => simp [toSql]

theorem toHost_of_toSql {h : HostValue} {value : SqlValue} (stored : h.toSql = .ok value) :
    value.toHost .strict = if h = .missing then .null else h := by
  cases h with
  | bigint i =>
      by_cases storable : isStorable i = true
      · rw [toSql_bigint_of_storable storable] at stored
        cases stored
        change bigint (Int64.ofInt i).toInt = bigint i
        rw [toInt_ofInt_of_isStorable storable]
      · rw [toSql_bigint_of_wide storable] at stored
        cases stored
  | bool b => cases stored
  | missing => cases stored; rfl
  | null => cases stored; rfl
  | number x => cases stored; rfl
  | text s => cases stored; rfl
  | blob bytes => cases stored; rfl

end HostValue

/-- Host code that hands back what it was shown has the engine store what it had, but for an integer
that the loose mode has shown as a number: what is stored then is the real nearest to it. A host
value is turned down exactly if it is a boolean or an integer of more than 64 bits. Any other is
shown in the strict mode as it was stored, except that a missing value has become null. -/
theorem round_trips :
    (∀ value : SqlValue, (value.toHost .strict).toSql = .ok value) ∧
    (∀ value : SqlValue, (∀ n, value ≠ .integer n) → (value.toHost .loose).toSql = .ok value) ∧
    (∀ n : Int64, ∃ x : Binary64, ((SqlValue.integer n).toHost .loose).toSql = .ok (.real x) ∧
      ∀ y : Binary64, y.Nearest n.toInt ∧ y.isNegative = decide (n.toInt < 0) ↔ y = x) ∧
    (∀ (h : HostValue) (fault : ValueFault), h.toSql = .error fault ↔
      (∃ b, h = .bool b ∧ fault = .unstorable "boolean") ∨
        ∃ i, h = .bigint i ∧ ¬(Int64.minValue.toInt ≤ i ∧ i ≤ Int64.maxValue.toInt) ∧
          fault = .integerTooLarge) ∧
    ∀ (h : HostValue) (value : SqlValue), h.toSql = .ok value →
      value.toHost .strict = if h = .missing then .null else h := by
  refine ⟨SqlValue.toSql_toHost_strict, fun _value => SqlValue.toSql_toHost_loose, ?_,
    HostValue.toSql_eq_error_iff, fun _h _value => HostValue.toHost_of_toSql⟩
  intro n
  exact ⟨Binary64.ofInt n.toInt, rfl, Binary64.eq_ofInt_toInt_iff n⟩

/-- A number that is none keeps its pattern, and the first integer that has no number of its own
becomes the even one of its two neighbours. The least integer of 64 bits comes back, and the first
one beyond the greatest is turned down. -/
theorem round_trips_at_limits :
    let nan : SqlValue := .real (Binary64.ofWord 0x7ff8000000000001)
    let even := Binary64.ofWord 0x4340000000000000
    ((∀ n, nan ≠ .integer n) ∧ (nan.toHost .loose).toSql = .ok nan) ∧
    (((SqlValue.integer 9007199254740993).toHost .loose).toSql = .ok (.real even) ∧
      even.Nearest 9007199254740993) ∧
    (HostValue.bigint 9223372036854775808).toSql = .error .integerTooLarge ∧
    ((HostValue.bigint (-9223372036854775808)).toSql = .ok (.integer Int64.minValue) ∧
      (SqlValue.integer Int64.minValue).toHost .strict = .bigint (-9223372036854775808)) ∧
    HostValue.missing.toSql = .ok .null ∧ SqlValue.null.toHost .strict = .null := by
  intro nan even
  obtain ⟨_strict, loose, integers, faults, backs⟩ := round_trips
  refine ⟨⟨nofun, loose nan nofun⟩, ?_, ?_, ?_, rfl, backs .missing .null rfl⟩
  · obtain ⟨x, stored, only⟩ := integers 9007199254740993
    have same : x = even := by
      cases stored
      decide +kernel
    subst same
    exact ⟨stored, ((only _).mpr rfl).1⟩
  · exact (faults _ _).mpr (.inr ⟨_, rfl, by decide, rfl⟩)
  · have stored : (HostValue.bigint (-9223372036854775808)).toSql = .ok (.integer Int64.minValue) :=
      HostValue.toSql_bigint_of_storable (by decide)
    exact ⟨stored, backs _ _ stored⟩

end RowSource
