import RowSource.Proofs.Plan.Handover
import RowSource.Proofs.Scan.Recorded

/-!
# The arguments of a generator

From the connection of a table to the call of its generator: whatever constraints a planner offers
and whatever values they have, the generator sees for every parameter the value of the first `=`
constraint on its column, and a missing value where there is none. `generator_sees_equalities` is
the statement; the lemmas before it follow the plan through planning and into the scan.
-/

namespace RowSource

variable {F G S σ τ : Type}

/-- A table that was connected has no more parameters than a mask can tell apart. -/
theorem TableModule.parameters_le_of_connect
    {define : F → List String → StateM τ (Except HostError (Definition G))}
    {mode : StateM τ IntegerMode} {module : TableModule F} {args : List String} {before after : τ}
    {connected : Connected G}
    (accepted : module.connect define mode args before = (.ok connected, after)) :
    connected.table.parameterNames.length ≤ maxParameters := by
  rcases defined : define module.factory args before with ⟨answer, world⟩
  cases answer with
  | error error =>
      rw [connect_of_refused defined] at accepted
      cases accepted
  | ok definition =>
      rw [connect_of_defined defined] at accepted
      have outcome : module.accept args definition (mode world).1 = .ok connected :=
        (Prod.mk.injEq .. |>.mp accepted).1
      unfold TableModule.accept at outcome
      split at outcome
      · cases outcome
      · rename_i few
        cases outcome
        exact Nat.le_of_not_lt few

namespace Plan

/-- A round of planning that succeeds carries out a faithful plan. -/
theorem faithful_of_answer {names : List String} {constraints : List Constraint}
    {info : IndexInfo}
    (answered : answer names (IndexInfo.fresh constraints) = (.ok (), info)) :
    ∃ plan, Faithful names constraints plan ∧ info = plan.apply (IndexInfo.fresh constraints) := by
  cases made : make names (IndexInfo.fresh constraints).constraints with
  | error failure =>
      rw [answer_of_failed made] at answered
      cases answered
  | ok plan =>
      rw [answer_of_made made] at answered
      exact ⟨plan, make_faithful made, (Prod.mk.injEq .. |>.mp answered).2.symm⟩

theorem Faithful.mem_handed {names : List String} {constraints : List Constraint} {plan : Plan}
    (faithful : Faithful names constraints plan) (value : Nat → SqlValue) (v : SqlValue) :
    v ∈ (plan.apply (IndexInfo.fresh constraints)).handed value ↔
      some v ∈ (List.range names.length).map fun parameter =>
        (firstEquality constraints parameter).map value := by
  rw [faithful.handed_apply, List.mem_map, List.mem_map]
  constructor
  · rintro ⟨binding, member, same⟩
    refine ⟨binding.parameter, List.mem_range.mpr (faithful.within binding member), ?_⟩
    rw [faithful.source binding member, Option.map_some, same]
  · rintro ⟨parameter, inRange, found⟩
    rw [Option.map_eq_some_iff] at found
    obtain ⟨place, atPlace, same⟩ := found
    obtain ⟨binding, member, sameParameter⟩ :=
      faithful.complete (List.mem_range.mp inRange) atPlace
    have source := faithful.source binding member
    rw [sameParameter, atPlace] at source
    exact ⟨binding, member, by rw [← Option.some.inj source, same]⟩

end Plan

namespace Scan

/-- What a generator is to be called with: for every column of a parameter the value of the first
`=` constraint on it, as the host sees it, and a missing value where there is none. -/
def equalityArguments (mode : IntegerMode) (count : Nat) (constraints : List Constraint)
    (value : Nat → SqlValue) : List HostValue :=
  (List.range count).map fun column =>
    match firstEquality constraints column with
    | some place => (value place).toHost mode
    | none => .missing

theorem equalityArguments_length (mode : IntegerMode) (count : Nat)
    (constraints : List Constraint) (value : Nat → SqlValue) :
    (equalityArguments mode count constraints value).length = count := by
  unfold equalityArguments
  rw [List.length_map, List.length_range]

theorem equalityArguments_getElem? (mode : IntegerMode) {column count : Nat}
    (inRange : column < count) (constraints : List Constraint) (value : Nat → SqlValue) :
    (equalityArguments mode count constraints value)[column]? =
      some (match firstEquality constraints column with
        | some place => (value place).toHost mode
        | none => .missing) := by
  unfold equalityArguments
  rw [List.getElem?_map, List.getElem?_range inRange, Option.map_some]

theorem hostArguments_eq (mode : IntegerMode) (count : Nat) (constraints : List Constraint)
    (value : Nat → SqlValue) :
    hostArguments mode ((List.range count).map fun parameter =>
        (firstEquality constraints parameter).map value) =
      equalityArguments mode count constraints value := by
  unfold hostArguments equalityArguments
  rw [List.map_map]
  refine List.map_congr_left ?_
  intro column _inRange
  rw [Function.comp_apply]
  cases firstEquality constraints column with
  | none => rfl
  | some place => rfl

/-- The arguments are positioned end to end. With a null among the values handed over the scan is at
its end and the host was asked for nothing. Otherwise the generator was called once, with one
argument for each parameter: the value of the first `=` constraint on the parameter's column, or a
missing value. -/
theorem generator_sees_equalities
    {define : F → List String → StateM τ (Except HostError (Definition G))}
    {mode : StateM τ IntegerMode} {module : TableModule F} {args : List String} {before after : τ}
    {connected : Connected G}
    (accepted : module.connect define mode args before = (.ok connected, after))
    {constraints : List Constraint} {info : IndexInfo}
    (answered : Plan.answer connected.table.parameterNames (IndexInfo.fresh constraints) =
      (.ok (), info))
    (value : Nat → SqlValue) (run : Generation (StateM σ) G S) {scan : Scan G S}
    (ofTable : scan.table = connected.table) (host : Recorded σ G S) :
    connected.table.parameterNames.length ≤ 32 ∧
    (SqlValue.null ∈ info.handed value →
      ∃ ended : Scan G S, ended.ended = true ∧
        scan.start run.recorded info.indexNumber (info.handed value) host =
          ((.ok (), ended), host)) ∧
    (SqlValue.null ∉ info.handed value →
      ∃ arguments : List HostValue,
        arguments.length = connected.table.parameterNames.length ∧
        (∀ column, column < connected.table.parameterNames.length →
          arguments[column]? = some (match firstEquality constraints column with
            | some place => (value place).toHost connected.table.integerMode
            | none => .missing)) ∧
        ∃ outcome world, ∃ advances : List S,
          scan.start run.recorded info.indexNumber (info.handed value) host =
            (outcome, ⟨world, host.calls ++
              .generate connected.table.generator arguments :: advances.map .advance⟩)) := by
  have few := TableModule.parameters_le_of_connect accepted
  obtain ⟨plan, faithful, infoEq⟩ := Plan.faithful_of_answer answered
  let bound := (List.range connected.table.parameterNames.length).map fun parameter =>
    (firstEquality constraints parameter).map value
  have placed : Plan.arguments info.indexNumber.toUInt32 scan.table.parameterNames.length
      (info.handed value) = .ok bound := by
    have sameMask : info.indexNumber.toUInt32 = plan.mask := by
      rw [infoEq]
      exact UInt32.toUInt32_toInt32 plan.mask
    rw [sameMask, ofTable, infoEq]
    exact faithful.arguments_handed few value
  have nulls : SqlValue.null ∈ info.handed value ↔
      bound.any (fun value => value.any SqlValue.isNull) = true := by
    rw [any_isNull_iff, infoEq]
    exact faithful.mem_handed value .null
  refine ⟨few, ?_, ?_⟩
  · intro null
    exact ⟨_, rfl, start_of_null _ placed (nulls.mp null) host⟩
  · intro full
    let arguments := equalityArguments connected.table.integerMode
      connected.table.parameterNames.length constraints value
    refine ⟨arguments, equalityArguments_length .., fun column inRange =>
      equalityArguments_getElem? _ inRange constraints value, ?_⟩
    rcases generated : run.generate connected.table.generator arguments host.world with
      ⟨answer, world⟩
    have recorded : run.recorded.generate scan.table.generator
        (hostArguments scan.table.integerMode bound) host =
          (answer, host.after (.generate connected.table.generator arguments) world) := by
      rw [ofTable, hostArguments_eq]
      change ((run.generate _ _ _).1, Recorded.after _ _ (run.generate _ _ _).2) = _
      rw [generated]
    have noNull : bound.any (fun value => value.any SqlValue.isNull) = false :=
      Bool.eq_false_iff.mpr fun null => full (nulls.mpr null)
    cases answer with
    | error error => exact ⟨_, world, [], start_of_refused run.recorded placed noNull recorded⟩
    | ok stream =>
        have started := start_of_generated run.recorded placed noNull recorded
        let moved := (scan.opened stream).next run world
        refine ⟨moved.1, moved.2, [stream], ?_⟩
        rw [started, next_recorded]
        simp only [Recorded.after, opened, Option.toList_some, List.append_assoc,
          List.singleton_append, moved]

/-- Constraints on the last and the first of 32 parameters, with a second one on the last, one on a
data column and a limit among them. -/
def scattered : List Constraint :=
  [⟨31, .eq, true⟩, ⟨40, .gt, false⟩, ⟨0, .eq, true⟩, ⟨31, .eq, true⟩, ⟨0, .limit, false⟩]

theorem make_scattered :
    Plan.make (List.replicate 32 "p") scattered =
      .ok ⟨[⟨0, 2, 1⟩, ⟨31, 0, 2⟩], 2147483649, Binary64.ofInt 333333333, 333333333⟩ := by
  have collected : Plan.collect (List.replicate 32 "p") 0 scattered =
      .ok [(31, 0), (0, 2), (31, 3)] := by decide
  have sorted : ([(31, 0), (0, 2), (31, 3)] : List (Nat × Nat)).mergeSort (fun a b => a.1 ≤ b.1) =
      [(0, 2), (31, 0), (31, 3)] := by
    simp [List.mergeSort, List.MergeSort.Internal.splitInTwo]
  unfold Plan.make
  rw [collected]
  change (Plan.bind 1 0 (List.mergeSort _ _) >>= _) = _
  rw [sorted]
  rfl

/-- The last of 32 parameters is bound by the sign of the number that the plan leaves. -/
theorem generator_sees_equalities_sign :
    ∃ info : IndexInfo,
      Plan.answer (List.replicate 32 "p") (IndexInfo.fresh scattered) = (.ok (), info) ∧
      info.indexNumber < 0 ∧
      SqlValue.null ∉ info.handed (fun place => .integer (Int64.ofNat place)) ∧
      ∃ arguments : List HostValue,
        arguments.length = 32 ∧ arguments[0]? = some (.bigint 2) ∧
        arguments[1]? = some .missing ∧ arguments[31]? = some (.bigint 0) ∧
        ∃ outcome world, ∃ advances : List RowList,
          Scan.start (RowList.generation : Generation (StateM Unit) RowList RowList).recorded
              (Scan.idle ⟨"wide", [], List.replicate 32 "p", .strict⟩)
              info.indexNumber (info.handed fun place => .integer (Int64.ofNat place))
              ⟨(), []⟩ =
            (outcome, ⟨world, [] ++ .generate [] arguments :: advances.map .advance⟩) := by
  have answered : Plan.answer (List.replicate 32 "p") (IndexInfo.fresh scattered) =
      (.ok (), Plan.apply
        ⟨[⟨0, 2, 1⟩, ⟨31, 0, 2⟩], 2147483649, Binary64.ofInt 333333333, 333333333⟩
        (IndexInfo.fresh scattered)) := by
    exact Plan.answer_of_made make_scattered
  have full : SqlValue.null ∉ IndexInfo.handed (Plan.apply
      ⟨[⟨0, 2, 1⟩, ⟨31, 0, 2⟩], 2147483649, Binary64.ofInt 333333333, 333333333⟩
      (IndexInfo.fresh scattered)) (fun place => .integer (Int64.ofNat place)) := by
    rw [(Plan.make_faithful make_scattered).handed_apply]
    decide
  have accepted : TableModule.connect (F := Unit) (m := StateM Unit)
      (fun _ _ => pure (.ok ⟨"", ([] : RowList), List.replicate 32 "p", none, false⟩))
      (pure .strict) ⟨"wide", ()⟩ [] () =
        (.ok ⟨"wide", "", false, ⟨"wide", [], List.replicate 32 "p", .strict⟩⟩, ()) := rfl
  have ofTable : (Scan.idle ⟨"wide", [], List.replicate 32 "p", .strict⟩ :
      Scan RowList RowList).table = ⟨"wide", [], List.replicate 32 "p", .strict⟩ := rfl
  refine ⟨_, answered, by decide, full, ?_⟩
  obtain ⟨arguments, length, atColumn, called⟩ :=
    (generator_sees_equalities accepted answered (fun place => .integer (Int64.ofNat place))
      RowList.generation ofTable ⟨(), []⟩).2.2 full
  exact ⟨arguments, length, (atColumn 0 (by decide)).trans (by decide),
    (atColumn 1 (by decide)).trans (by decide), (atColumn 31 (by decide)).trans (by decide), called⟩

end Scan

end RowSource
