import RowSource.Proofs.Table.Acceptance
import RowSource.Text.AsciiCase

/-!
# Names of columns

A blueprint tells its names apart by how they are spelled, the engine only up to the case of their
letters. So names that the engine tells apart are never refused, but two that differ in nothing except
letter case are let through.
-/

namespace RowSource

namespace Blueprint

variable {G : Type}

/-- Two names that differ in nothing except the case of their letters. -/
def Recased (left right : String) : Prop := left ≠ right ∧ foldCase left = foldCase right

/-- A name that equals an earlier one up to the case of its letters, or else is spelled as one. -/
theorem firstRepeat_or_recased {before : List String} (after : List String) {name : String}
    (distinct : (before.map foldCase).Nodup) (known : foldCase name ∈ before.map foldCase) :
    FirstRepeat (before ++ name :: after) name ∨ ∃ earlier ∈ before, Recased earlier name := by
  obtain ⟨earlier, member, same⟩ := List.mem_map.mp known
  by_cases spelled : earlier = name
  · exact .inl ⟨before, after, rfl, distinct.of_map, spelled ▸ member⟩
  · exact .inr ⟨earlier, member, spelled, same⟩

theorem nodup_map_or_recased {names : List String} (distinct : names.Nodup) :
    (names.map foldCase).Nodup ∨ ∃ left ∈ names, ∃ right ∈ names, Recased left right := by
  by_cases recased : ∃ left ∈ names, ∃ right ∈ names, Recased left right
  · exact .inr recased
  · refine .inl (distinct.map_on fun left member right member' same => ?_)
    by_contra different
    exact recased ⟨left, member, right, member', different, same⟩

/-- Names that the engine tells apart are never refused. Of the names that it does not tell apart, a
blueprint that is defined declares no two, and is refused for the first that equals an earlier one,
unless two of its names differ in the case of their letters alone. -/
theorem distinct_or_recased (b : Blueprint G) (args : List String) :
    (args.length = 3 → b.columns ≠ [] → b.parameters.length ≤ 32 →
      (b.names.map foldCase).Nodup → ∃ result, b.define args = .ok result) ∧
    ((∃ left ∈ b.names, ∃ right ∈ b.names, Recased left right) ∨
      (∀ result, b.define args = .ok result → (b.names.map foldCase).Nodup) ∧
      ∀ before name after, b.names = before ++ name :: after → (before.map foldCase).Nodup →
        foldCase name ∈ before.map foldCase →
        args.length = 3 → b.columns ≠ [] → b.parameters.length ≤ 32 →
          ∃ module, args.head? = some module ∧ b.define args = .error (.failure
            (.invalidDefinition module ("has multiple columns named \"" ++ name ++ "\"")))) := by
  constructor
  · intro three columns few distinct
    obtain ⟨module, rest, rfl⟩ := List.exists_cons_of_length_eq_add_one three
    exact ⟨_, define_of_sound ⟨columns, few, distinct.of_map⟩ three⟩
  · by_cases recased : ∃ left ∈ b.names, ∃ right ∈ b.names, Recased left right
    · exact .inl recased
    · refine .inr ⟨fun result defined => ?_, ?_⟩
      · obtain ⟨_, sound, _⟩ := (define_eq_ok_iff b args result).mp defined
        exact (nodup_map_or_recased sound.names).resolve_right recased
      · intro before name after split distinct known three columns few
        obtain ⟨module, rest, rfl⟩ := List.exists_cons_of_length_eq_add_one three
        rcases firstRepeat_or_recased after distinct known with
          first | ⟨earlier, member, different⟩
        · rw [← split] at first
          exact ⟨module, rfl, define_of_defect (.names columns few first) three⟩
        · refine absurd ⟨earlier, ?_, name, ?_, different⟩ recased
          · rw [split]
            exact List.mem_append_left _ member
          · rw [split]
            exact List.mem_append_right _ (List.mem_cons_self ..)

/-- A name in capitals is let through beside the same in small letters. -/
theorem recased_defined :
    let b : Blueprint Unit := { columns := ["a", "A"], generator := () }
    b.define ["m", "main", "t"] = .ok (b.definition "m") ∧ foldCase "a" = foldCase "A" := by
  refine ⟨rfl, ?_⟩
  decide +kernel

end Blueprint

end RowSource
