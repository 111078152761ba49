import RowSource.Proofs.Scan.Isolation
import RowSource.Proofs.Scan.Usage

/-!
# Where a scan stands

A scan that has not ended shows the row that its stream has yielded last, and a start or a move that
fails ends it. There is one exception: a start with too few values fails before the scan has a stream,
and leaves it as if there were a row.
-/

namespace RowSource

variable {σ G S : Type} {run : Generation (StateM σ) G S}

namespace Used

/-- A row is shown: it was yielded last, and by the stream that the scan still has. -/
structure Shows (used : Used σ G S G S) : Prop where
  yielded : ∃ rest, used.scan.stream = some rest ∧ used.host.Yielded used.scan.row rest
  counted : 0 ≤ used.scan.rowid

/-- Either the scan has ended, or a row is shown and the latest start or move has succeeded. -/
def Stands (used : Used σ G S G S) : Prop :=
  (∀ failure, used.result = .error failure → used.scan.ended = true) ∧
    (used.scan.ended = false → used.Shows)

theorem Stands.of_ended {used : Used σ G S G S} (ended : used.scan.ended = true) : used.Stands :=
  ⟨fun _failure _failed => ended, fun running => absurd running (by rw [ended]; decide)⟩

/-- However a scan stood before, a move leaves it at a row that was just yielded or at its end. -/
theorem stands_next (scan : Scan G S) (host : Answering σ G S) :
    (ofOutcome (scan.next run.answering host)).Stands := by
  cases held : scan.stream with
  | none =>
      rw [Scan.next_of_no_stream _ held]
      exact .of_ended rfl
  | some stream =>
      rw [Scan.next_of_stream _ held]
      rcases advanced : run.advance stream host.world with ⟨⟨answer, rest⟩, world⟩
      rw [Generation.advance_answering advanced]
      cases answer with
      | error error => exact .of_ended rfl
      | ok advance =>
          cases advance with
          | done => exact .of_ended rfl
          | row values =>
              refine ⟨nofun, fun _running => ⟨⟨rest, rfl, ?_⟩, ?_⟩⟩
              · exact Answering.yielded_after.mpr ⟨rfl, rfl⟩
              · change (0 : Int) ≤ ((scan.produced + 1 : Nat) : Int) - 1
                omega

/-- A start that has its values leaves the scan at the first row or at its end. -/
theorem stands_start {scan : Scan G S} {number : Int32} {values : List SqlValue}
    {bound : List (Option SqlValue)}
    (placed : Plan.arguments number.toUInt32 scan.table.parameterNames.length values = .ok bound)
    (host : Answering σ G S) :
    (ofOutcome (scan.start run.answering number values host)).Stands := by
  cases null : bound.any fun value => value.any SqlValue.isNull with
  | true =>
      rw [Scan.start_of_null _ placed null]
      exact .of_ended rfl
  | false =>
      rcases generated : run.answering.generate scan.table.generator
        (Scan.hostArguments scan.table.integerMode bound) host with ⟨answer, after⟩
      cases answer with
      | error error =>
          rw [Scan.start_of_refused _ placed null generated]
          exact .of_ended rfl
      | ok stream =>
          rw [Scan.start_of_generated _ placed null generated]
          exact stands_next ..

/-- The latest start or move was a start with too few values. -/
def Misstarted (table : ConnectedTable G) (usages : List (Usage σ)) : Prop :=
  ∃ number values failure,
    (usages.filter Usage.moves).getLast? = some (.call (.start number values)) ∧
      Plan.arguments number.toUInt32 table.parameterNames.length values = .error failure

theorem misstarted_concat_of_still {table : ConnectedTable G} {usages : List (Usage σ)}
    {usage : Usage σ} (still : usage.moves = false) :
    Misstarted table (usages ++ [usage]) ↔ Misstarted table usages := by
  unfold Misstarted
  rw [List.filter_append, List.filter_cons_of_neg (by simp [still]), List.filter_nil,
    List.append_nil]

theorem misstarted_concat_start {table : ConnectedTable G} {usages : List (Usage σ)}
    {number : Int32} {values : List SqlValue} :
    Misstarted table (usages ++ [.call (.start number values)]) ↔
      ∃ failure, Plan.arguments number.toUInt32 table.parameterNames.length values =
        .error failure := by
  unfold Misstarted
  rw [List.filter_append, List.filter_cons_of_pos rfl, List.filter_nil, List.getLast?_concat]
  constructor
  · rintro ⟨_, _, failure, ⟨⟩, failed⟩
    exact ⟨failure, failed⟩
  · rintro ⟨failure, failed⟩
    exact ⟨number, values, failure, rfl, failed⟩

theorem not_misstarted_concat_next {table : ConnectedTable G} {usages : List (Usage σ)} :
    ¬Misstarted table (usages ++ [.call .next]) := by
  unfold Misstarted
  rw [List.filter_append, List.filter_cons_of_pos rfl, List.filter_nil, List.getLast?_concat]
  rintro ⟨_, _, _, ⟨⟩, _⟩

/-- A scan after a start with too few values: at no row, and yet not at its end. -/
structure Adrift (used : Used σ G S G S) : Prop where
  failed : ∃ failure, used.result = .error failure
  running : used.scan.ended = false
  unheld : used.scan.stream = none
  bare : used.scan.row = []
  rowid : used.scan.rowid = -1

variable (run) in
/-- How a scan of a table stands after any calls of it, in any order and with any arguments, while the
world of its host changes in between. If a start or a move has failed the scan is at its end, and a
scan that is not at its end has its stream and the row that was yielded last. That holds unless the
latest start was one with too few values, and no move came after it. -/
theorem stands_or_misstarted (table : ConnectedTable G) (host : Answering σ G S)
    (usages : List (Usage σ)) :
    let reached := (opened table host).after run.answering usages
    reached.scan.table = table ∧
      (¬Misstarted table usages → reached.Stands) ∧
      (Misstarted table usages → reached.Adrift) := by
  let holds (usages : List (Usage σ)) (used : Used σ G S G S) : Prop :=
    used.scan.table = table ∧ (¬Misstarted table usages → used.Stands) ∧
      (Misstarted table usages → used.Adrift)
  have begins : holds [] (opened table host) :=
    ⟨rfl, fun _sound => .of_ended rfl, fun ⟨_, _, _, last, _⟩ => nomatch last⟩
  refine after_of_moves holds begins ?_ ?_ usages
  · intro usages usage used world still ⟨ofTable, sound, misstarted⟩
    have same : Misstarted table (usages ++ [usage]) ↔ Misstarted table usages :=
      misstarted_concat_of_still still
    refine ⟨ofTable, fun started => ?_, fun started => ?_⟩
    · have stands := sound fun earlier => started (same.mpr earlier)
      exact ⟨stands.1, fun running => ⟨(stands.2 running).yielded, (stands.2 running).counted⟩⟩
    · have adrift := misstarted (same.mp started)
      exact ⟨adrift.failed, adrift.running, adrift.unheld, adrift.bare, adrift.rowid⟩
  · intro usages usage used moves ⟨ofTable, _⟩
    cases usage with
    | elsewhere change => cases moves
    | call call =>
        cases call with
        | isEnded => cases moves
        | column position => cases moves
        | rowid => cases moves
        | next =>
            refine ⟨?_, fun _started => stands_next used.scan used.host,
              fun started => absurd started not_misstarted_concat_next⟩
            exact (Scan.next_table run.answering used.scan used.host).trans ofTable
        | start number values =>
            refine ⟨?_, fun started => ?_, fun started => ?_⟩
            · exact (Scan.start_table run.answering used.scan used.host number values).trans ofTable
            · cases placed : Plan.arguments number.toUInt32 table.parameterNames.length values with
              | error failure => exact absurd (misstarted_concat_start.mpr ⟨failure, placed⟩) started
              | ok bound =>
                  rw [← ofTable] at placed
                  exact stands_start placed used.host
            · obtain ⟨failure, failed⟩ := misstarted_concat_start.mp started
              rw [← ofTable] at failed
              have ran := Scan.start_of_misplaced run.answering failed used.host
              change (ofOutcome (used.scan.start run.answering number values used.host)).Adrift
              rw [ran]
              exact ⟨⟨failure, rfl⟩, rfl, rfl, rfl, rfl⟩

/-- A scan that is started for one bound value, and is given none. The failure leaves it as if there
were a row, though there is no stream to have yielded one. -/
theorem short_start_unended :
    let run : Generation (StateM Unit) RowList RowList := RowList.generation
    let reached := (opened ⟨"m", [.ok [.null]], ["p"], .loose⟩ ⟨(), []⟩).after run.answering
      [.call (.start 1 [])]
    reached.result = .error (.internal "filter received 0 arguments for plan mask 0x1") ∧
      reached.scan.ended = false ∧ reached.scan.stream = none ∧ reached.scan.rowid = -1 := by
  decide +kernel

end Used

end RowSource
