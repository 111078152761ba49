import RowSource.Table.Scan

/-!
# Calls of the host, recorded

A scan asks the host for a stream and then to advance it. `Generation.recorded` keeps a record of
what was asked beside the host's own state, and changes nothing else: `start_recorded` and
`next_recorded` give the outcome without the record, and the calls that are added to it.
-/

namespace RowSource

/-- A call of host code by a scan. -/
inductive HostCall (G S : Type) where
  | generate (generator : G) (args : List HostValue)
  | advance (stream : S)

/-- The state of a host, with the calls that were made so far. -/
structure Recorded (σ G S : Type) where
  world : σ
  calls : List (HostCall G S) := []

variable {σ G S : Type}

def Recorded.after (host : Recorded σ G S) (call : HostCall G S) (world : σ) : Recorded σ G S :=
  ⟨world, host.calls ++ [call]⟩

/-- Host code whose calls are recorded. -/
def Generation.recorded (run : Generation (StateM σ) G S) :
    Generation (StateM (Recorded σ G S)) G S where
  generate generator args host :=
    let answer := run.generate generator args host.world
    (answer.1, host.after (.generate generator args) answer.2)
  advance stream host :=
    let answer := run.advance stream host.world
    (answer.1, host.after (.advance stream) answer.2)

/-- Generators that yield a list of rows, whatever their arguments. -/
def RowList.generation : Generation (StateM σ) RowList RowList where
  generate rows _ := pure (.ok rows)
  advance rows := pure rows.advance

/-- An action goes on with what the one before it has come to. -/
theorem bind_of_run {α β : Type} {action : StateM σ α} {rest : α → StateM σ β} {before after : σ}
    {value : α} (ran : action before = (value, after)) :
    (action >>= rest) before = rest value after := by
  change rest (action before).1 (action before).2 = _
  rw [ran]

namespace TableModule

variable {F τ : Type} {define : F → List String → StateM τ (Except HostError (Definition G))}
  {mode : StateM τ IntegerMode} {module : TableModule F} {args : List String} {before after : τ}

theorem connect_of_refused {error : HostError}
    (refused : define module.factory args before = (.error error, after)) :
    module.connect define mode args before = (.error (.host error), after) :=
  bind_of_run refused

theorem connect_of_defined {definition : Definition G}
    (defined : define module.factory args before = (.ok definition, after)) :
    module.connect define mode args before =
      (module.accept args definition (mode after).1, (mode after).2) :=
  bind_of_run defined

end TableModule

namespace Scan

/-! ### Moving on -/

theorem next_of_stream (run : Generation (StateM σ) G S) {scan : Scan G S} {stream : S}
    (held : scan.stream = some stream) (world : σ) :
    scan.next run world =
      (scan.moved (run.advance stream world).1, (run.advance stream world).2) := by
  unfold next
  rw [held]
  rfl

theorem next_of_no_stream (run : Generation (StateM σ) G S) {scan : Scan G S}
    (dropped : scan.stream = none) (world : σ) :
    scan.next run world = ((.ok (), { scan with ended := true }), world) := by
  unfold next
  rw [dropped]
  rfl

/-- Moving on advances the stream once while there is one, and asks for nothing after that. -/
theorem next_recorded (run : Generation (StateM σ) G S) (scan : Scan G S)
    (host : Recorded σ G S) :
    scan.next run.recorded host =
      ((scan.next run host.world).1,
        ⟨(scan.next run host.world).2, host.calls ++ scan.stream.toList.map .advance⟩) := by
  cases held : scan.stream with
  | none =>
      rw [next_of_no_stream _ held, next_of_no_stream _ held, Option.toList_none, List.map_nil,
        List.append_nil]
  | some stream =>
      rw [next_of_stream _ held, next_of_stream _ held]
      rfl

/-! ### Starting -/

/-- Whether a null is among the values of a list of arguments. -/
theorem any_isNull_iff (bound : List (Option SqlValue)) :
    bound.any (fun value => value.any SqlValue.isNull) = true ↔ some SqlValue.null ∈ bound := by
  rw [List.any_eq_true]
  constructor
  · rintro ⟨value, member, null⟩
    cases value with
    | none => cases null
    | some value =>
        cases value with
        | null => exact member
        | integer value => cases null
        | real value => cases null
        | text value => cases null
        | blob bytes => cases null
  · intro member
    exact ⟨some .null, member, rfl⟩

def opened (scan : Scan G S) (stream : S) : Scan G S := { scan.rewound with stream := some stream }

/-- A start with too few values fails and asks the host for nothing. -/
theorem start_of_misplaced (run : Generation (StateM σ) G S) {scan : Scan G S} {number : Int32}
    {values : List SqlValue} {failure : Failure}
    (placed : Plan.arguments number.toUInt32 scan.table.parameterNames.length values =
      .error failure) (world : σ) :
    scan.start run number values world = ((.error failure, scan.rewound), world) := by
  change Plan.arguments number.toUInt32 scan.rewound.table.parameterNames.length values = _
    at placed
  unfold start
  rw [placed]
  rfl

section Bound

variable (run : Generation (StateM σ) G S) {scan : Scan G S} {number : Int32}
  {values : List SqlValue} {bound : List (Option SqlValue)}
  (placed : Plan.arguments number.toUInt32 scan.table.parameterNames.length values = .ok bound)
include placed

/-- A start with a null among its arguments asks the host for nothing. -/
theorem start_of_null (null : bound.any (fun value => value.any SqlValue.isNull) = true)
    (world : σ) :
    scan.start run number values world =
      ((.ok (), { scan.rewound with ended := true }), world) := by
  change Plan.arguments number.toUInt32 scan.rewound.table.parameterNames.length values = _
    at placed
  unfold start
  rw [placed]
  dsimp only
  rw [if_pos null]
  rfl

variable (full : bound.any (fun value => value.any SqlValue.isNull) = false) {before after : σ}
include full

/-- A start with all its arguments asks for a stream, and fails with the generator. -/
theorem start_of_refused {error : HostError}
    (generated : run.generate scan.table.generator (hostArguments scan.table.integerMode bound)
      before = (.error error, after)) :
    scan.start run number values before =
      ((.error (.host error), { scan.rewound with ended := true }), after) := by
  change Plan.arguments number.toUInt32 scan.rewound.table.parameterNames.length values = _
    at placed
  unfold start
  rw [placed]
  dsimp only
  rw [full, if_neg Bool.false_ne_true]
  exact bind_of_run generated

theorem start_of_generated {stream : S}
    (generated : run.generate scan.table.generator (hostArguments scan.table.integerMode bound)
      before = (.ok stream, after)) :
    scan.start run number values before = (scan.opened stream).next run after := by
  change Plan.arguments number.toUInt32 scan.rewound.table.parameterNames.length values = _
    at placed
  unfold start
  rw [placed]
  dsimp only
  rw [full, if_neg Bool.false_ne_true]
  exact bind_of_run generated

end Bound

end Scan

end RowSource
