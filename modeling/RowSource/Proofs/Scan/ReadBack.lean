import RowSource.Proofs.Scan.Arguments
import RowSource.Proofs.Scan.Streaming
import RowSource.Proofs.Scan.Usage
import RowSource.Proofs.Table.Acceptance
import RowSource.Proofs.Value.Exchange

/-!
# Tables that read back their arguments

A blueprint's generator is given one argument for each parameter, and every row of the table shows
these arguments before the values that the generator yields. A row of another width than was declared
is not shown: it ends the scan.
-/

namespace RowSource

variable {σ τ G S : Type}

/-! ### Rows with their arguments -/

theorem Generation.generate_prefixed_of_ok {run : Generation (StateM σ) G S}
    {rows : PrefixedRows G} {args : List HostValue} {stream : S} {before after : σ}
    (generated : run.generate rows.inner args before = (.ok stream, after)) :
    run.prefixed.generate rows args before =
      (.ok ⟨rows.module, rows.width, args, stream⟩, after) :=
  bind_of_run generated

theorem Generation.generate_prefixed_of_error {run : Generation (StateM σ) G S}
    {rows : PrefixedRows G} {args : List HostValue} {error : HostError} {before after : σ}
    (refused : run.generate rows.inner args before = (.error error, after)) :
    run.prefixed.generate rows args before = (.error error, after) :=
  bind_of_run refused

theorem Generation.advance_prefixed {run : Generation (StateM σ) G S} {stream : PrefixedStream S}
    {answer : Except HostError Advance} {rest : S} {before after : σ}
    (advanced : run.advance stream.inner before = ((answer, rest), after)) :
    run.prefixed.advance stream before =
      ((stream.complete answer, { stream with inner := rest }), after) :=
  bind_of_run advanced

/-- What a row of another width comes to. -/
def misfit (rows : PrefixedRows G) (values : List HostValue) : Failure :=
  .host (.failure (.invalidDefinition rows.module
    ("yielded a row with " ++ toString values.length ++ " columns but declares " ++
      toString rows.width)))

def HostAnswer.isAdvance : HostAnswer G S → Bool
  | .generated _ _ _ => false
  | .advanced _ _ _ => true

/-- A generator was called once since then, and after that its stream was advanced. -/
def CalledOnce (generator : G) (arguments : List HostValue) (earlier later : Answering σ G S) :
    Prop :=
  ∃ answer advances,
    later.answers = earlier.answers ++ .generated generator arguments answer :: advances ∧
      advances.all HostAnswer.isAdvance = true

theorem CalledOnce.after_advance {generator : G} {arguments : List HostValue}
    {earlier later : Answering σ G S} (called : CalledOnce generator arguments earlier later)
    (stream rest : S) (answer : Except HostError Advance) (world : σ) :
    CalledOnce generator arguments earlier (later.after (.advanced stream answer rest) world) := by
  obtain ⟨first, advances, answers, all⟩ := called
  refine ⟨first, advances ++ [.advanced stream answer rest], ?_, ?_⟩
  · change later.answers ++ _ = _
    rw [answers, List.append_assoc, List.cons_append]
  · rw [List.all_append, all]
    rfl

/-- The host was asked since then, and its last answer was a row. -/
def Yields (before after : Answering σ G S) (values : List HostValue) : Prop :=
  after.answers ≠ before.answers ∧ ∃ rest, after.Yielded values rest

theorem not_yielded_generated {host : Answering σ G S} {values : List HostValue} {generator : G}
    {arguments : List HostValue} {answer : Except HostError S} {world : σ} {rest : S} :
    ¬(host.after (.generated generator arguments answer) world).Yielded values rest := by
  rintro ⟨stream, last⟩
  change (host.answers ++ [_]).getLast? = _ at last
  rw [List.getLast?_concat] at last
  cases last

namespace Used

variable {run : Generation (StateM σ) G S} {rows : PrefixedRows G} {arguments : List HostValue}
  {earlier : Answering σ G S}

/-- A scan since its generator was called, with the host as it was before. -/
structure Proceeds (rows : PrefixedRows G) (arguments : List HostValue) (earlier : Answering σ G S)
    (used : Used σ G S (PrefixedRows G) (PrefixedStream S)) : Prop where
  called : CalledOnce rows.inner arguments earlier used.host
  held : ∀ stream, used.scan.stream = some stream → used.scan.ended = false ∧
    ∃ inner, stream = ⟨rows.module, rows.width, arguments, inner⟩
  shown : used.scan.ended = false → ∃ values rest, used.host.Yielded values rest ∧
    values.length = rows.width ∧ used.scan.row = arguments ++ values

/-- A row that was yielded is there, unless its width is another one: then it has ended the scan. -/
def Meets (rows : PrefixedRows G) (before : Answering σ G S)
    (used : Used σ G S (PrefixedRows G) (PrefixedStream S)) : Prop :=
  ∀ values, Yields before used.host values →
    if values.length = rows.width then used.scan.ended = false ∧ used.result = .ok ()
    else
      used.scan.ended = true ∧ used.scan.stream = none ∧ used.scan.row = [] ∧
        used.result = .error (misfit rows values)

theorem Proceeds.of_ended {used : Used σ G S (PrefixedRows G) (PrefixedStream S)}
    (called : CalledOnce rows.inner arguments earlier used.host) (dropped : used.scan.stream = none)
    (ended : used.scan.ended = true) : Proceeds rows arguments earlier used where
  called := called
  held _ held := by rw [dropped] at held; cases held
  shown running := absurd running (by rw [ended]; decide)

variable (run)

/-- A move shows the arguments and the row that the host has yielded, or ends the scan. -/
theorem proceeds_next {scan : Scan (PrefixedRows G) (PrefixedStream S)} {host : Answering σ G S}
    (called : CalledOnce rows.inner arguments earlier host)
    (held : ∀ stream, scan.stream = some stream → scan.ended = false ∧
      ∃ inner, stream = ⟨rows.module, rows.width, arguments, inner⟩) :
    Proceeds rows arguments earlier (ofOutcome (scan.next run.answering.prefixed host)) ∧
      Meets rows host (ofOutcome (scan.next run.answering.prefixed host)) := by
  cases streaming : scan.stream with
  | none =>
      rw [Scan.next_of_no_stream _ streaming]
      exact ⟨.of_ended called streaming rfl, fun _values yields => absurd rfl yields.1⟩
  | some stream =>
      obtain ⟨running, inner, rfl⟩ := held stream streaming
      rcases advanced : run.advance inner host.world with ⟨⟨answer, rest⟩, world⟩
      have answered := Generation.advance_answering advanced
      rw [Scan.next_of_stream _ streaming, Generation.advance_prefixed answered]
      have later := called.after_advance inner rest answer world
      have last {values : List HostValue}
          (yields : Yields host (host.after (.advanced inner answer rest) world) values) :
          answer = .ok (.row values) := by
        obtain ⟨_, _, yielded⟩ := yields
        exact (Answering.yielded_after.mp yielded).1
      cases answer with
      | error error => exact ⟨.of_ended later rfl rfl, fun _values yields => nomatch last yields⟩
      | ok advance =>
          cases advance with
          | done => exact ⟨.of_ended later rfl rfl, fun _values yields => nomatch last yields⟩
          | row values =>
              unfold PrefixedStream.complete
              dsimp only
              by_cases fits : values.length = rows.width
              · rw [if_pos fits]
                refine ⟨⟨later, ?_, fun _running => ⟨values, rest, ?_, fits, rfl⟩⟩, ?_⟩
                · rintro _ ⟨⟩
                  exact ⟨running, rest, rfl⟩
                · exact Answering.yielded_after.mpr ⟨rfl, rfl⟩
                · intro other yields
                  cases last yields
                  rw [if_pos fits]
                  exact ⟨running, rfl⟩
              · rw [if_neg fits]
                refine ⟨.of_ended later rfl rfl, fun other yields => ?_⟩
                cases last yields
                rw [if_neg fits]
                exact ⟨rfl, rfl, rfl, rfl⟩

/-- A start with its values, none of them null, calls the generator once with the arguments. -/
theorem proceeds_start {scan : Scan (PrefixedRows G) (PrefixedStream S)} {number : Int32}
    {values : List SqlValue} {bound : List (Option SqlValue)}
    (placed : Plan.arguments number.toUInt32 scan.table.parameterNames.length values = .ok bound)
    (full : bound.any (fun value => value.any SqlValue.isNull) = false) (host : Answering σ G S) :
    let rows := scan.table.generator
    let started := ofOutcome (scan.start run.answering.prefixed number values host)
    Proceeds rows (Scan.hostArguments scan.table.integerMode bound) host started ∧
      Meets rows host started := by
  intro rows started
  let arguments := Scan.hostArguments scan.table.integerMode bound
  rcases generated : run.generate rows.inner arguments host.world with ⟨answer, world⟩
  have answered : run.answering.generate rows.inner arguments host =
      (answer, host.after (.generated rows.inner arguments answer) world) := by
    unfold Generation.answering
    simp only [generated]
  have called : CalledOnce rows.inner arguments host
      (host.after (.generated rows.inner arguments answer) world) := ⟨answer, [], rfl, rfl⟩
  cases answer with
  | error error =>
      have refused := Scan.start_of_refused _ placed full
        (Generation.generate_prefixed_of_error answered)
      change Proceeds _ _ _ (ofOutcome _) ∧ Meets _ _ (ofOutcome _)
      rw [refused]
      refine ⟨.of_ended called rfl rfl, fun _values yields => ?_⟩
      obtain ⟨_, _, yielded⟩ := yields
      exact absurd yielded not_yielded_generated
  | ok stream =>
      have ran := Scan.start_of_generated _ placed full
        (Generation.generate_prefixed_of_ok answered)
      change Proceeds _ _ _ (ofOutcome _) ∧ Meets _ _ (ofOutcome _)
      rw [ran]
      let moving := scan.opened (⟨rows.module, rows.width, arguments, stream⟩ : PrefixedStream S)
      have held (given : PrefixedStream S) (streaming : moving.stream = some given) :
          moving.ended = false ∧ ∃ inner, given = ⟨rows.module, rows.width, arguments, inner⟩ := by
        cases streaming
        exact ⟨rfl, stream, rfl⟩
      obtain ⟨proceeds, meets⟩ := proceeds_next run called held
      refine ⟨proceeds, fun values yields => meets values ⟨fun unasked => ?_, yields.2⟩⟩
      obtain ⟨_, rest, yielded⟩ := yields
      unfold Answering.Yielded at yielded
      rw [unasked] at yielded
      exact not_yielded_generated yielded

theorem Proceeds.use {used : Used σ G S (PrefixedRows G) (PrefixedStream S)}
    (proceeds : Proceeds rows arguments earlier used) {usage : Usage σ}
    (unstarted : usage.starts = false) :
    Proceeds rows arguments earlier (used.use run.answering.prefixed usage) ∧
      Meets rows used.host (used.use run.answering.prefixed usage) := by
  cases moves : usage.moves with
  | false =>
      obtain ⟨world, same⟩ := use_of_not_moves run.answering.prefixed moves used
      rw [same]
      exact ⟨⟨proceeds.called, proceeds.held, proceeds.shown⟩,
        fun _values yields => absurd rfl yields.1⟩
  | true =>
      cases usage with
      | elsewhere change => cases moves
      | call call =>
          cases call with
          | start number values => cases unstarted
          | next => exact proceeds_next run proceeds.called proceeds.held
          | isEnded => cases moves
          | column position => cases moves
          | rowid => cases moves

/-- A scan goes on with the same arguments until it is started again. -/
theorem Proceeds.after {used : Used σ G S (PrefixedRows G) (PrefixedStream S)}
    (proceeds : Proceeds rows arguments earlier used) {usages : List (Usage σ)}
    (unstarted : ∀ usage ∈ usages, usage.starts = false) :
    Proceeds rows arguments earlier (used.after run.answering.prefixed usages) := by
  induction usages generalizing used with
  | nil => exact proceeds
  | cons usage later ih =>
      have first := (proceeds.use run (unstarted usage (List.mem_cons_self ..))).1
      exact ih first fun usage member => unstarted usage (List.mem_cons_of_mem _ member)

end Used

/-! ### Columns -/

/-- The columns of a scan are the values that its parameters were given, as they read back, and then
those of a row of the generator. -/
structure ShowsRow (module : String) (mode : IntegerMode) (count : Nat)
    (given : Nat → Option SqlValue) (values : List HostValue) (scan : Scan G S) : Prop where
  bound : ∀ i v, i < count → given i = some v →
    ∃ shown, scan.column i = .ok shown ∧ v.ReadsBack mode shown
  unbound : ∀ i, i < count → given i = none → scan.column i = .ok .null
  yielded : ∀ (j : Nat) (inRange : j < values.length),
    scan.column (count + j : Nat) = values[j].toSql.mapError (.columnValue module)
  beyond : ∀ k : Nat, count + values.length ≤ k →
    scan.column k = .error (.columnValue module (.missingColumn k))

/-- What a generator is called with: one argument for each parameter. -/
def givenArguments (mode : IntegerMode) (count : Nat) (given : Nat → Option SqlValue) :
    List HostValue :=
  Scan.hostArguments mode ((List.range count).map given)

theorem givenArguments_length (mode : IntegerMode) (count : Nat) (given : Nat → Option SqlValue) :
    (givenArguments mode count given).length = count := by
  unfold givenArguments Scan.hostArguments
  rw [List.length_map, List.length_map, List.length_range]

theorem givenArguments_getElem? (mode : IntegerMode) {i count : Nat} (inRange : i < count)
    (given : Nat → Option SqlValue) :
    (givenArguments mode count given)[i]? =
      some (match given i with
        | some value => value.toHost mode
        | none => .missing) := by
  unfold givenArguments Scan.hostArguments
  rewrite [List.getElem?_map, List.getElem?_map, List.getElem?_range inRange, Option.map_some,
    Option.map_some]
  cases given i with
  | none => rfl
  | some value => rfl

theorem showsRow_of_row {mode : IntegerMode} {count : Nat} {given : Nat → Option SqlValue}
    {values : List HostValue} {scan : Scan G S}
    (row : scan.row = givenArguments mode count given ++ values) :
    ShowsRow scan.table.module mode count given values scan := by
  have length := givenArguments_length mode count given
  have atParameter {i : Nat} (inRange : i < count) := by
    have found := givenArguments_getElem? mode inRange given
    rw [← List.getElem?_append_left (length.symm ▸ inRange), ← row] at found
    exact found
  refine ⟨fun i v inRange isGiven => ?_, fun i inRange missing => ?_, fun j inRange => ?_,
    fun k above => ?_⟩
  · have found := atParameter inRange
    rw [isGiven] at found
    obtain ⟨shown, back, reads⟩ := v.toSql_toHost mode
    refine ⟨shown, ?_, reads⟩
    rw [Scan.column_natCast, found]
    dsimp only
    rw [back]
    rfl
  · have found := atParameter inRange
    rw [missing] at found
    rw [Scan.column_natCast, found]
    rfl
  · rw [Scan.column_natCast, row, List.getElem?_append_right (by omega), length,
      Nat.add_sub_cancel_left, List.getElem?_eq_getElem inRange]
  · rw [Scan.column_natCast, List.getElem?_eq_none (by rw [row, List.length_append]; omega)]

/-! ### The table as a whole -/

/-- A blueprint that is defined connects, and its table reads back its arguments. Every start with
enough values and no null among those of the parameters calls the generator once, with one argument
for each parameter. However the scan is used until it is started again, it shows the arguments and
the latest row of the generator, or it has ended. A row of another width is not shown: it ends the
scan with a failure that names the module and both widths. -/
theorem Blueprint.reads_back {module : TableModule (Blueprint G)} {args : List String}
    {definition : Definition (PrefixedRows G)} (defined : module.factory.define args = .ok definition)
    (mode : StateM τ IntegerMode) (before : τ) :
    let b := module.factory
    let effective := IntegerMode.resolve b.integerMode (mode before).1
    ∃ connected after declared,
      module.connect answer mode args before = (.ok connected, after) ∧
      connected.table.integerMode = effective ∧ args.head? = some declared ∧
      let rows : PrefixedRows G := ⟨declared, b.columns.length, b.generator⟩
      ∀ (σ S : Type) (run : Generation (StateM σ) G S)
        (used : Used σ G S (PrefixedRows G) (PrefixedStream S)) (number : Int32)
        (values : List SqlValue),
        let given := Plan.given number.toUInt32 values
        used.scan.table = connected.table →
        Plan.asked number.toUInt32 (List.range b.parameters.length) ≤ values.length →
        (∀ i < b.parameters.length, given i ≠ some .null) →
        let started := used.use run.answering.prefixed (.call (.start number values))
        started.Meets rows used.host ∧
        ∃ arguments : List HostValue, arguments.length = b.parameters.length ∧
          (∀ i < b.parameters.length, arguments[i]? = some (match given i with
            | some value => value.toHost effective
            | none => .missing)) ∧
          ∀ usages : List (Usage σ), (∀ usage ∈ usages, usage.starts = false) →
            let reached := started.after run.answering.prefixed usages
            CalledOnce b.generator arguments used.host reached.host ∧
            (∀ usage : Usage σ, usage.starts = false →
              (reached.use run.answering.prefixed usage).Meets rows reached.host) ∧
            (reached.scan.ended = false →
              ∃ row rest, reached.host.Yielded row rest ∧ row.length = b.columns.length ∧
                ShowsRow module.name effective b.parameters.length given row reached.scan) := by
  intro b effective
  obtain ⟨connected, after, declared, accepted, named, table⟩ := connects defined mode before
  have few := TableModule.parameters_le_of_connect accepted
  rw [table] at few
  refine ⟨connected, after, declared, accepted, congrArg ConnectedTable.integerMode table, named, ?_⟩
  intro rows σ S run used number values given ofTable enough full started
  have toTable := ofTable.trans table
  have placed : Plan.arguments number.toUInt32 used.scan.table.parameterNames.length values =
      .ok ((List.range b.parameters.length).map given) := by
    rw [toTable]
    exact Plan.arguments_of_enough few enough
  have noNull : ((List.range b.parameters.length).map given).any
      (fun value => value.any SqlValue.isNull) = false := by
    refine Bool.eq_false_iff.mpr fun null => ?_
    obtain ⟨i, inRange, isNull⟩ := List.mem_map.mp ((Scan.any_isNull_iff _).mp null)
    exact full i (List.mem_range.mp inRange) isNull
  obtain ⟨proceeds, meets⟩ := Used.proceeds_start run placed noNull used.host
  rw [toTable] at proceeds meets
  change Used.Proceeds rows (givenArguments effective b.parameters.length given) _ started
    at proceeds
  refine ⟨meets, givenArguments effective _ given, givenArguments_length .., fun i inRange =>
    givenArguments_getElem? effective inRange given, fun usages unstarted => ?_⟩
  have reached := proceeds.after run unstarted
  refine ⟨reached.called, fun usage unstarted => (reached.use run unstarted).2, fun running => ?_⟩
  obtain ⟨row, rest, yielded, fits, shown⟩ := reached.shown running
  have sameModule : (started.after run.answering.prefixed usages).scan.table.module = module.name := by
    rw [Used.after_table, Used.use_table, toTable]
  have shows := showsRow_of_row shown
  rw [sameModule] at shows
  exact ⟨row, rest, yielded, fits, shows⟩

/-- The second of two parameters is bound, to an integer that a loose table reads as a number. The
generator yields a row with a value that cannot be stored, and then one that is too short. -/
theorem Blueprint.reads_back_second :
    let source : RowList := [.ok [.bigint 1, .bool true], .ok [.null]]
    let b : Blueprint RowList :=
      { columns := ["n", "square"], parameters := ["from", "upto"], generator := source }
    let table : ConnectedTable (PrefixedRows RowList) :=
      ⟨"squares", ⟨"squares", 2, source⟩, ["from", "upto"], .loose⟩
    let run : Generation (StateM Unit) RowList RowList := RowList.generation
    let first := (Used.opened table ⟨(), []⟩).use run.answering.prefixed
      (.call (.start 2 [.integer 3]))
    let second := first.use run.answering.prefixed (.call .next)
    (∃ definition, b.define ["squares", "main", "t"] = .ok definition) ∧
      first.scan.column 0 = .ok .null ∧
      (∃ x, first.scan.column 1 = .ok (.real x) ∧ x.Nearest 3) ∧
      first.scan.column 2 = .ok (.integer 1) ∧
      first.scan.column 3 = .error (.columnValue "squares" (.unstorable "boolean")) ∧
      first.scan.column 4 = .error (.columnValue "squares" (.missingColumn 4)) ∧
      second.scan.ended = true ∧ second.result = .error (misfit ⟨"squares", 2, source⟩ [.null]) := by
  intro source b table run first second
  let module : TableModule (Blueprint RowList) := ⟨"squares", b⟩
  obtain ⟨definition, defined⟩ :
      ∃ definition, module.factory.define ["squares", "main", "t"] = .ok definition := ⟨_, rfl⟩
  obtain ⟨connected, after, declared, accepted, _mode, named, reads⟩ :=
    reads_back defined (pure .loose : StateM Unit IntegerMode) ()
  have sameTable : table = connected.table := by
    obtain ⟨connected', after', declared', accepted', named', table'⟩ :=
      connects defined (pure .loose : StateM Unit IntegerMode) ()
    rw [accepted] at accepted'
    cases accepted'
    rw [table']
    cases named'
    rfl
  cases named
  obtain ⟨_, arguments, _, _, later⟩ := reads Unit RowList run (Used.opened table ⟨(), []⟩) 2
    [.integer 3] sameTable (by decide) (by decide)
  obtain ⟨_, meets, shown⟩ := later [] (by simp)
  obtain ⟨row, rest, ⟨stream, yielded⟩, _, shows⟩ := shown rfl
  cases yielded
  obtain ⟨_, read, x, rfl, nearest⟩ := shows.bound 1 (.integer 3) (by decide) rfl
  have asked : (first.use run.answering.prefixed (.call .next)).host.answers ≠
      first.host.answers := fun same => absurd (congrArg List.length same) (by decide)
  have refused := meets (.call .next) rfl [.null] ⟨asked, [], _, rfl⟩
  rw [if_neg (by decide)] at refused
  exact ⟨⟨_, defined⟩, shows.unbound 0 (by decide) rfl, ⟨x, read, nearest⟩,
    shows.yielded 0 (by decide), shows.yielded 1 (by decide), shows.beyond 4 (by decide),
    refused.1, refused.2.2.2⟩

end RowSource
