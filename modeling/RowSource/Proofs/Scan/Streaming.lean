import RowSource.Proofs.Scan.Usage

/-!
# What a scan presents

A stream yields some rows and then is done or fails. A scan of it presents those rows one by one, in
order, and ends as the stream does, after which it asks for nothing. The invariant is `Scan.At`,
which says where in the rows a scan is; moving on preserves it, and so does everything that may
happen between two moves.
-/

namespace RowSource

variable {σ G S : Type}

/-- A stream is advanced again and again, each time what the advance before has left of it, in whatever
world there is by then. -/
inductive Advances (run : Generation (StateM σ) G S) (stream : S) :
    List (HostAnswer G S) → S → Prop where
  | none : Advances run stream [] stream
  | more {log : List (HostAnswer G S)} {left rest : S} {answer : Except HostError Advance}
      {world after : σ} :
      Advances run stream log left → run.advance left world = ((answer, rest), after) →
      Advances run stream (log ++ [.advanced left answer rest]) rest

def HostAnswer.advance? : HostAnswer G S → Option (Except HostError Advance)
  | .generated _ _ _ => none
  | .advanced _ answer _ => some answer

inductive Ending where
  | done
  | failed (error : HostError)

namespace Ending

def answer : Ending → Except HostError Advance
  | done => .ok .done
  | failed error => .error error

def outcome : Ending → Except Failure Unit
  | done => .ok ()
  | failed error => .error (.host error)

end Ending

/-- The answers of a stream that yields some rows and then ends. -/
def script (rows : List (List HostValue)) (ending : Ending) : List (Except HostError Advance) :=
  rows.map (fun row => .ok (.row row)) ++ [ending.answer]

theorem script_getElem?_of_lt {rows : List (List HostValue)} {place : Nat}
    (before : place < rows.length) (ending : Ending) :
    (script rows ending)[place]? = some (.ok (.row rows[place])) := by
  unfold script
  rw [List.getElem?_append_left (by rwa [List.length_map]), List.getElem?_map,
    List.getElem?_eq_getElem before]
  rfl

theorem script_getElem?_length (rows : List (List HostValue)) (ending : Ending) :
    (script rows ending)[rows.length]? = some ending.answer := by
  unfold script
  have drawn : (rows.map fun row => (.ok (.row row) : Except HostError Advance)).length =
      rows.length := List.length_map _
  rw [← drawn, List.getElem?_concat_length]

theorem getElem?_of_prefix_concat {α : Type} {before all : List α} {next : α}
    (within : before ++ [next] <+: all) : all[before.length]? = some next := by
  obtain ⟨rest, rfl⟩ := within
  rw [List.append_assoc, List.getElem?_append_right (Nat.le_refl _), Nat.sub_self]
  rfl

namespace Scan

/-! ### The place of a scan in its rows -/

/-- A scan of a table that has been moved on `place` times since it was started. -/
structure At (table : ConnectedTable G) (rows : List (List HostValue)) (place : Nat)
    (scan : Scan G S) : Prop where
  table : scan.table = table
  ended : scan.ended = decide (rows.length ≤ place)
  row : scan.row = rows[place]?.getD []
  produced : scan.produced = min (place + 1) rows.length
  streaming : scan.stream.isSome = decide (place < rows.length)

/-- What the call returns that moves a scan to a place. -/
def outcomeAt (rows : List (List HostValue)) (ending : Ending) (place : Nat) :
    Except Failure Unit :=
  if place = rows.length then ending.outcome else .ok ()

variable {table : ConnectedTable G} {rows : List (List HostValue)} {ending : Ending}
  {scan : Scan G S}

/-- A stream that answers by a script moves the scan to the next place in its rows. -/
theorem at_moved {place : Nat} {answer : Except HostError Advance} (ofTable : scan.table = table)
    (running : scan.ended = false) (counted : scan.produced = place)
    (inRange : place ≤ rows.length) (follows : (script rows ending)[place]? = some answer)
    (rest : S) :
    At table rows place (scan.moved (answer, rest)).2 ∧
      (scan.moved (answer, rest)).1 = outcomeAt rows ending place := by
  rcases Nat.lt_or_eq_of_le inRange with before | atEnd
  · rw [script_getElem?_of_lt before] at follows
    cases follows
    refine ⟨?_, ?_⟩
    · exact
        { table := ofTable
          ended := by
            change scan.ended = _
            rw [running, decide_eq_false (Nat.not_le.mpr before)]
          row := by
            change rows[place] = _
            rw [List.getElem?_eq_getElem before, Option.getD_some]
          produced := by
            change scan.produced + 1 = _
            rw [counted, Nat.min_eq_left before]
          streaming := (decide_eq_true before).symm }
    · change Except.ok () = _
      rw [outcomeAt, if_neg (Nat.ne_of_lt before)]
  · subst atEnd
    rw [script_getElem?_length] at follows
    cases follows
    have moved : scan.moved (ending.answer, rest) = (ending.outcome, scan.finished) := by
      cases ending with
      | done => rfl
      | failed error => rfl
    rw [moved]
    refine ⟨?_, ?_⟩
    · exact
        { table := ofTable
          ended := by rw [decide_eq_true (Nat.le_refl _)]; rfl
          row := by rw [List.getElem?_eq_none (Nat.le_refl _)]; rfl
          produced := by
            change scan.produced = _
            rw [counted, Nat.min_eq_right (Nat.le_succ _)]
          streaming := (decide_eq_false (Nat.lt_irrefl _)).symm }
    · change ending.outcome = _
      rw [outcomeAt, if_pos rfl]

/-- Without a stream a scan stays at its end. -/
theorem At.stays {place : Nat} (here : At table rows place scan) (beyond : rows.length ≤ place)
    (ending : Ending) :
    At table rows (place + 1) { scan with ended := true } ∧
      Except.ok () = outcomeAt rows ending (place + 1) := by
  refine ⟨?_, ?_⟩
  · exact
      { table := here.table
        ended := (decide_eq_true (Nat.le_succ_of_le beyond)).symm
        row := by
          change scan.row = _
          rw [here.row, List.getElem?_eq_none beyond,
            List.getElem?_eq_none (Nat.le_succ_of_le beyond)]
        produced := by
          change scan.produced = _
          rw [here.produced, Nat.min_eq_right (Nat.le_succ_of_le beyond),
            Nat.min_eq_right (Nat.le_succ_of_le (Nat.le_succ_of_le beyond))]
        streaming := by
          change scan.stream.isSome = _
          rw [here.streaming, decide_eq_false (Nat.not_lt.mpr beyond),
            decide_eq_false (Nat.not_lt.mpr (Nat.le_succ_of_le beyond))] }
  · rw [outcomeAt, if_neg (by omega)]

/-! ### Reading a scan -/

/-- A scan that is being read, with the place where column values are put. -/
structure Reading (G S : Type) where
  scan : Scan G S
  sink : Option SqlValue := none
  /-- What the latest start or move has returned. -/
  result : Except Failure Unit := .ok ()

/-- What may happen between two starts of a scan. -/
inductive Use (σ : Type) where
  | next
  | column (position : Int)
  /-- Something else happens, and changes the world. -/
  | elsewhere (change : σ → σ)

def moves : List (Use σ) → Nat
  | [] => 0
  | .next :: rest => moves rest + 1
  | .column _ :: rest | .elsewhere _ :: rest => moves rest

namespace Reading

/-- One use, with the answers of the host on record. -/
def use (run : Generation (StateM σ) G S) (reading : Reading G S) :
    Use σ → StateM (Answering σ G S) (Except Failure Unit × Reading G S)
  | .next => do
      let (result, scan) ← reading.scan.next run.answering
      return (result, { reading with scan := scan, result := result })
  | .column position =>
      match reading.scan.column position with
      | .ok value => return (.ok (), { reading with sink := some value })
      | .error failure => return (.error failure, reading)
  | .elsewhere change => do
      modify fun host => { host with world := change host.world }
      return (.ok (), reading)

/-- A scan and its host after a list of uses. -/
def after (run : Generation (StateM σ) G S) :
    List (Use σ) → Reading G S × Answering σ G S → Reading G S × Answering σ G S
  | [], reached => reached
  | use :: rest, (reading, host) =>
      let outcome := reading.use run use host
      after run rest (outcome.1.2, outcome.2)

/-- A value that a column has is put into the sink. One that it does not have leaves sink and scan
as they were, and neither asks the host for anything. -/
theorem use_column (run : Generation (StateM σ) G S) (reading : Reading G S) (position : Int)
    (host : Answering σ G S) :
    reading.use run (.column position) host =
      match reading.scan.column position with
      | .ok value => ((.ok (), { reading with sink := some value }), host)
      | .error failure => ((.error failure, reading), host) := by
  change (match reading.scan.column position with
    | .ok _ => _ | .error _ => _ : StateM (Answering σ G S) _) host = _
  cases reading.scan.column position with
  | ok value => rfl
  | error failure => rfl

theorem use_next_of_no_stream (run : Generation (StateM σ) G S) {reading : Reading G S}
    (dropped : reading.scan.stream = none) (host : Answering σ G S) :
    reading.use run .next host =
      ((.ok (), { reading with scan := { reading.scan with ended := true }, result := .ok () }),
        host) :=
  bind_of_run (next_of_no_stream run.answering dropped host)

theorem use_next_of_stream {run : Generation (StateM σ) G S} {reading : Reading G S}
    {stream rest : S} {host : Answering σ G S} {answer : Except HostError Advance} {world : σ}
    (held : reading.scan.stream = some stream)
    (advanced : run.advance stream host.world = ((answer, rest), world)) :
    reading.use run .next host =
      let moved := reading.scan.moved (answer, rest)
      ((moved.1, { reading with scan := moved.2, result := moved.1 }),
        host.after (.advanced stream answer rest) world) := by
  have moves := next_of_stream run.answering held host
  rw [Generation.advance_answering advanced] at moves
  exact bind_of_run moves

/-- A reading at some place, with what its stream was asked since some earlier answers. By whatever
script the stream has answered so far, the reading has come to that place in the rows of it. -/
structure Follows (run : Generation (StateM σ) G S) (table : ConnectedTable G) (stream : S)
    (earlier : List (HostAnswer G S)) (place : Nat) (reading : Reading G S)
    (host : Answering σ G S) (log : List (HostAnswer G S)) (left : S) : Prop where
  recorded : host.answers = earlier ++ log
  advances : Advances run stream log left
  held : ∀ held, reading.scan.stream = some held → held = left
  shown : ∀ rows ending, log.filterMap HostAnswer.advance? <+: script rows ending →
    At table rows place reading.scan ∧ reading.result = outcomeAt rows ending place ∧
      (log.filterMap HostAnswer.advance?).length = min (place + 1) (rows.length + 1)

variable {run : Generation (StateM σ) G S} {stream left : S} {earlier log : List (HostAnswer G S)}
  {place : Nat} {reading : Reading G S} {host : Answering σ G S}

/-- An advance of the stream that is left, made when the scan is about to come to a place. -/
theorem Follows.of_advance {answer : Except HostError Advance} {rest : S} {world after : σ}
    (advanced : run.advance left world = ((answer, rest), after))
    (recorded : host.answers = earlier ++ log) (advances : Advances run stream log left)
    (arrives : ∀ rows ending, log.filterMap HostAnswer.advance? <+: script rows ending →
      reading.scan.table = table ∧ reading.scan.ended = false ∧ reading.scan.produced = place ∧
        place ≤ rows.length ∧ (log.filterMap HostAnswer.advance?).length = place) :
    let moved := reading.scan.moved (answer, rest)
    Follows run table stream earlier place { reading with scan := moved.2, result := moved.1 }
      (host.after (.advanced left answer rest) after) (log ++ [.advanced left answer rest]) rest
      where
  recorded := by
    change host.answers ++ [_] = _
    rw [recorded, List.append_assoc]
  advances := advances.more advanced
  held stream held := by
    rcases answer with error | values | _
    · cases held
    · cases held
      rfl
    · cases held
  shown rows ending follows := by
    rw [List.filterMap_append] at follows ⊢
    obtain ⟨ofTable, running, counted, inRange, length⟩ :=
      arrives rows ending ((List.prefix_append _ _).trans follows)
    have answered := getElem?_of_prefix_concat follows
    rw [length] at answered
    obtain ⟨arrived, returned⟩ := at_moved ofTable running counted inRange answered rest
    refine ⟨arrived, returned, ?_⟩
    rw [List.length_append, length]
    change place + 1 = _
    omega

variable (run)

theorem Follows.next (follows : Follows run table stream earlier place reading host log left) :
    let outcome := reading.use run .next host
    ∃ log left, Follows run table stream earlier (place + 1) outcome.1.2 outcome.2 log left := by
  cases held : reading.scan.stream with
  | none =>
      rw [use_next_of_no_stream run held]
      refine ⟨log, left, follows.recorded, follows.advances, fun stream streaming => ?_,
        fun rows ending scripted => ?_⟩
      · exact nomatch held.symm.trans streaming
      · obtain ⟨here, _, length⟩ := follows.shown rows ending scripted
        have streaming := here.streaming
        rw [held] at streaming
        have beyond : rows.length ≤ place := Nat.le_of_not_lt (of_decide_eq_false streaming.symm)
        obtain ⟨arrived, returned⟩ := here.stays beyond ending
        exact ⟨arrived, returned, by omega⟩
  | some current =>
      have same := follows.held current held
      subst same
      rcases advanced : run.advance current host.world with ⟨⟨answer, rest⟩, world⟩
      rw [use_next_of_stream held advanced]
      refine ⟨_, _, .of_advance advanced follows.recorded follows.advances
        fun rows ending scripted => ?_⟩
      obtain ⟨here, _, length⟩ := follows.shown rows ending scripted
      have streaming := here.streaming
      rw [held] at streaming
      have before : place < rows.length := of_decide_eq_true streaming.symm
      refine ⟨here.table, ?_, ?_, before, ?_⟩
      · rw [here.ended, decide_eq_false (Nat.not_le.mpr before)]
      · rw [here.produced, Nat.min_eq_left before]
      · omega

/-- The places of a reading and the answers of its stream, at any time after the start. -/
theorem Follows.after (uses : List (Use σ)) :
    ∀ {place : Nat} {reading : Reading G S} {host : Answering σ G S}
      {log : List (HostAnswer G S)} {left : S},
      Follows run table stream earlier place reading host log left →
      let reached := Reading.after run uses (reading, host)
      ∃ log left,
        Follows run table stream earlier (place + moves uses) reached.1 reached.2 log left := by
  -- Only a move changes the scan and its stream: the places and the answers go up together.
  induction uses with
  | nil =>
      intro place reading host log left follows
      exact ⟨log, left, follows⟩
  | cons use rest ih =>
      intro place reading host log left follows
      cases use with
      | next =>
          obtain ⟨log, left, moved⟩ := follows.next run
          rw [moves, Nat.add_comm (moves rest) 1, ← Nat.add_assoc]
          exact ih moved
      | column position =>
          rw [Reading.after, use_column, moves]
          cases reading.scan.column position with
          | ok value => exact ih ⟨follows.recorded, follows.advances, follows.held, follows.shown⟩
          | error failure => exact ih follows
      | elsewhere change =>
          rw [moves]
          exact ih ⟨follows.recorded, follows.advances, follows.held, follows.shown⟩

end Reading

/-! ### Columns -/

theorem column_natCast (scan : Scan G S) (column : Nat) :
    scan.column column =
      match scan.row[column]? with
      | none => .error (.columnValue scan.table.module (.missingColumn column))
      | some value => value.toSql.mapError (.columnValue scan.table.module) := by
  unfold Scan.column
  rw [if_neg (by omega), Int.toNat_natCast]
  cases scan.row[column]? with
  | none => rfl
  | some value =>
      dsimp only
      cases value.toSql with
      | ok native => rfl
      | error fault => rfl

theorem At.column {place : Nat} (here : At table rows place scan)
    (inRange : place < rows.length) (column : Nat) :
    scan.column column =
      match rows[place][column]? with
      | none => .error (.columnValue table.module (.missingColumn column))
      | some value => value.toSql.mapError (.columnValue table.module) := by
  have atRow : scan.row = rows[place] := by
    rw [here.row, List.getElem?_eq_getElem inRange, Option.getD_some]
  rw [column_natCast, atRow, here.table]

/-- Streams that draw their rows from the memory of the host. -/
def drawn : Generation (StateM RowList) Unit Unit where
  generate _ _ := pure (.ok ())
  advance _ rows := ((rows.advance.1, ()), rows.advance.2)

end Scan

end RowSource
