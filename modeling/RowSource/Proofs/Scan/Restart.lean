import Mathlib.Data.List.Forall2
import RowSource.Proofs.Scan.Usage

/-!
# Starting again

A join starts the scan of its inner table anew for every row of the outer one. Nothing of what a
scan did before may show after that: two scans of one table that are started alike, on hosts that
answer alike from then on, cannot be told apart, whatever was done with either of them before. The
invariant is `Used.Alike`, which a start brings about and every later use preserves.
-/

namespace RowSource

variable {σ τ G S T : Type}

/-! ### Hosts that answer alike -/

/-- Two answers to a generator's call: related streams, or one and the same error. -/
inductive Handed (streams : S → T → Prop) : Except HostError S → Except HostError T → Prop where
  | stream {left : S} {right : T} : streams left right → Handed streams (.ok left) (.ok right)
  | error (error : HostError) : Handed streams (.error error) (.error error)

/-- In related worlds two hosts answer alike, and their worlds and streams stay related. -/
structure Generation.Alike (run : Generation (StateM σ) G S) (other : Generation (StateM τ) G T)
    (worlds : σ → τ → Prop) (streams : S → T → Prop) : Prop where
  generate : ∀ generator args {left : σ} {right : τ}, worlds left right →
    Handed streams (run.generate generator args left).1 (other.generate generator args right).1 ∧
      worlds (run.generate generator args left).2 (other.generate generator args right).2
  advance : ∀ {stream : S} {otherStream : T} {left : σ} {right : τ}, streams stream otherStream →
    worlds left right →
      (run.advance stream left).1.1 = (other.advance otherStream right).1.1 ∧
        streams (run.advance stream left).1.2 (other.advance otherStream right).1.2 ∧
        worlds (run.advance stream left).2 (other.advance otherStream right).2

/-- A host that answers by the arguments alone answers alike in any two worlds. -/
theorem Generation.Constant.alike {run : Generation (StateM σ) G S} (constant : run.Constant) :
    run.Alike run (fun _ _ => True) Eq where
  generate generator args left right _related := by
    rw [constant.generate generator args left right]
    cases (run.generate generator args right).1 with
    | error error => exact ⟨.error error, trivial⟩
    | ok stream => exact ⟨.stream rfl, trivial⟩
  advance := by
    rintro stream _ left right rfl _related
    rw [constant.advance stream left right]
    exact ⟨rfl, rfl, trivial⟩

/-- The same question with the same answer. -/
inductive HostAnswer.Alike (streams : S → T → Prop) : HostAnswer G S → HostAnswer G T → Prop where
  | generated (generator : G) (args : List HostValue) {answer : Except HostError S}
      {otherAnswer : Except HostError T} : Handed streams answer otherAnswer →
      Alike streams (.generated generator args answer) (.generated generator args otherAnswer)
  | advanced {stream rest : S} {otherStream otherRest : T} (answer : Except HostError Advance) :
      streams stream otherStream → streams rest otherRest →
      Alike streams (.advanced stream answer rest) (.advanced otherStream answer otherRest)

/-- Two hosts in related worlds that were asked alike, and have answered alike, since they had given
the answers at the front of theirs. -/
structure Answering.Alike (worlds : σ → τ → Prop) (streams : S → T → Prop)
    (since : List (HostAnswer G S)) (otherSince : List (HostAnswer G T)) (host : Answering σ G S)
    (other : Answering τ G T) : Prop where
  world : worlds host.world other.world
  asked : ∃ asked otherAsked,
    host.answers = since ++ asked ∧ other.answers = otherSince ++ otherAsked ∧
      List.Forall₂ (HostAnswer.Alike streams) asked otherAsked

section Hosts

variable {worlds : σ → τ → Prop} {streams : S → T → Prop} {since : List (HostAnswer G S)}
  {otherSince : List (HostAnswer G T)} {host : Answering σ G S} {other : Answering τ G T}

theorem Answering.Alike.after (hosts : Alike worlds streams since otherSince host other)
    {answer : HostAnswer G S} {otherAnswer : HostAnswer G T}
    (answers : answer.Alike streams otherAnswer) {left : σ} {right : τ}
    (related : worlds left right) :
    Alike worlds streams since otherSince (host.after answer left)
      (other.after otherAnswer right) where
  world := related
  asked := by
    obtain ⟨asked, otherAsked, split, otherSplit, alike⟩ := hosts.asked
    refine ⟨asked ++ [answer], otherAsked ++ [otherAnswer], ?_, ?_, ?_⟩
    · change host.answers ++ _ = _
      rw [split, List.append_assoc]
    · change other.answers ++ _ = _
      rw [otherSplit, List.append_assoc]
    · exact List.rel_append alike (.cons answers .nil)

variable {run : Generation (StateM σ) G S} {otherRun : Generation (StateM τ) G T}

/-- Alike hosts go on alike when a generator is called. -/
theorem Generation.Alike.generate_answering (alike : run.Alike otherRun worlds streams)
    (hosts : Answering.Alike worlds streams since otherSince host other) (generator : G)
    (args : List HostValue) :
    ∃ answer otherAnswer after otherAfter, Handed streams answer otherAnswer ∧
      run.answering.generate generator args host = (answer, after) ∧
      otherRun.answering.generate generator args other = (otherAnswer, otherAfter) ∧
      Answering.Alike worlds streams since otherSince after otherAfter := by
  obtain ⟨handed, related⟩ := alike.generate generator args hosts.world
  exact ⟨_, _, _, _, handed, rfl, rfl, hosts.after (.generated generator args handed) related⟩

/-- Alike hosts go on alike when a stream is advanced. -/
theorem Generation.Alike.advance_answering (alike : run.Alike otherRun worlds streams)
    (hosts : Answering.Alike worlds streams since otherSince host other) {stream : S}
    {otherStream : T} (held : streams stream otherStream) :
    ∃ answer rest otherRest after otherAfter, streams rest otherRest ∧
      run.answering.advance stream host = ((answer, rest), after) ∧
      otherRun.answering.advance otherStream other = ((answer, otherRest), otherAfter) ∧
      Answering.Alike worlds streams since otherSince after otherAfter := by
  obtain ⟨same, rests, related⟩ := alike.advance held hosts.world
  rcases advanced : run.advance stream host.world with ⟨⟨answer, rest⟩, world⟩
  rcases otherAdvanced : otherRun.advance otherStream other.world with
    ⟨⟨otherAnswer, otherRest⟩, otherWorld⟩
  rw [advanced, otherAdvanced] at same rests related
  obtain rfl : answer = otherAnswer := same
  exact ⟨answer, rest, otherRest, _, _, rests, Generation.advance_answering advanced,
    Generation.advance_answering otherAdvanced, hosts.after (.advanced answer held rests) related⟩

end Hosts

/-! ### Scans that stand alike -/

structure Scan.Alike (streams : S → T → Prop) (scan : Scan G S) (other : Scan G T) : Prop where
  table : scan.table = other.table
  stream : Option.Rel streams scan.stream other.stream
  row : scan.row = other.row
  ended : scan.ended = other.ended
  produced : scan.produced = other.produced

namespace Scan.Alike

variable {streams : S → T → Prop} {scan : Scan G S} {other : Scan G T}

theorem rewound (sameTable : scan.table = other.table) :
    Scan.Alike streams scan.rewound other.rewound where
  table := sameTable
  stream := .none
  row := rfl
  ended := rfl
  produced := rfl

theorem ending (alike : scan.Alike streams other) :
    Scan.Alike streams { scan with ended := true } { other with ended := true } where
  table := alike.table
  stream := alike.stream
  row := alike.row
  ended := rfl
  produced := alike.produced

theorem finished (alike : scan.Alike streams other) :
    Scan.Alike streams scan.finished other.finished where
  table := alike.table
  stream := .none
  row := rfl
  ended := rfl
  produced := alike.produced

theorem opened (sameTable : scan.table = other.table) {stream : S} {otherStream : T}
    (related : streams stream otherStream) :
    Scan.Alike streams (scan.opened stream) (other.opened otherStream) where
  table := sameTable
  stream := .some related
  row := rfl
  ended := rfl
  produced := rfl

theorem moved (alike : scan.Alike streams other) (answer : Except HostError Advance) {rest : S}
    {otherRest : T} (related : streams rest otherRest) :
    (scan.moved (answer, rest)).1 = (other.moved (answer, otherRest)).1 ∧
      Scan.Alike streams (scan.moved (answer, rest)).2 (other.moved (answer, otherRest)).2 := by
  cases answer with
  | error error => exact ⟨rfl, alike.finished⟩
  | ok advance =>
      cases advance with
      | done => exact ⟨rfl, alike.finished⟩
      | row values =>
          exact ⟨rfl,
            { table := alike.table
              stream := .some related
              row := rfl
              ended := alike.ended
              produced := congrArg (· + 1) alike.produced }⟩

theorem column (alike : scan.Alike streams other) (position : Int) :
    scan.column position = other.column position := by
  unfold Scan.column
  rw [alike.row, alike.table]

theorem rowid (alike : scan.Alike streams other) : scan.rowid = other.rowid := by
  unfold Scan.rowid
  rw [alike.produced]

end Scan.Alike

namespace Used

/-- Two scans in use that stand alike, on hosts that were asked alike since then. -/
structure Alike (worlds : σ → τ → Prop) (streams : S → T → Prop) (since : List (HostAnswer G S))
    (otherSince : List (HostAnswer G T)) (used : Used σ G S G S) (other : Used τ G T G T) :
    Prop where
  scan : used.scan.Alike streams other.scan
  result : used.result = other.result
  host : Answering.Alike worlds streams since otherSince used.host other.host

variable {run : Generation (StateM σ) G S} {otherRun : Generation (StateM τ) G T}
  {worlds : σ → τ → Prop} {streams : S → T → Prop} {since : List (HostAnswer G S)}
  {otherSince : List (HostAnswer G T)} {host : Answering σ G S} {other : Answering τ G T}

theorem alike_next (alike : run.Alike otherRun worlds streams) {scan : Scan G S}
    {otherScan : Scan G T} (scans : scan.Alike streams otherScan)
    (hosts : Answering.Alike worlds streams since otherSince host other) :
    Alike worlds streams since otherSince (ofOutcome (scan.next run.answering host))
      (ofOutcome (otherScan.next otherRun.answering other)) := by
  have held := scans.stream
  cases streaming : scan.stream with
  | none =>
      cases otherStreaming : otherScan.stream with
      | some otherStream =>
          rw [streaming, otherStreaming] at held
          cases held
      | none =>
          rw [Scan.next_of_no_stream _ streaming, Scan.next_of_no_stream _ otherStreaming]
          exact ⟨scans.ending, rfl, hosts⟩
  | some stream =>
      cases otherStreaming : otherScan.stream with
      | none =>
          rw [streaming, otherStreaming] at held
          cases held
      | some otherStream =>
          rw [streaming, otherStreaming] at held
          obtain ⟨related⟩ := held
          obtain ⟨answer, rest, otherRest, after, otherAfter, rests, advanced, otherAdvanced,
            later⟩ := alike.advance_answering hosts related
          rw [Scan.next_of_stream _ streaming, Scan.next_of_stream _ otherStreaming, advanced,
            otherAdvanced]
          obtain ⟨same, moved⟩ := scans.moved answer rests
          exact ⟨moved, same, later⟩

/-- However two scans of one table stood before, starts with the same values leave them alike. -/
theorem alike_start (alike : run.Alike otherRun worlds streams) {scan : Scan G S}
    {otherScan : Scan G T} (sameTable : scan.table = otherScan.table)
    (hosts : Answering.Alike worlds streams since otherSince host other) (number : Int32)
    (values : List SqlValue) :
    Alike worlds streams since otherSince (ofOutcome (scan.start run.answering number values host))
      (ofOutcome (otherScan.start otherRun.answering number values other)) := by
  cases placed : Plan.arguments number.toUInt32 scan.table.parameterNames.length values with
  | error failure =>
      have otherPlaced := placed
      rw [sameTable] at otherPlaced
      rw [Scan.start_of_misplaced _ placed, Scan.start_of_misplaced _ otherPlaced]
      exact ⟨.rewound sameTable, rfl, hosts⟩
  | ok bound =>
      have otherPlaced := placed
      rw [sameTable] at otherPlaced
      cases null : bound.any fun value => value.any SqlValue.isNull with
      | true =>
          rw [Scan.start_of_null _ placed null, Scan.start_of_null _ otherPlaced null]
          exact ⟨Scan.Alike.ending (.rewound sameTable), rfl, hosts⟩
      | false =>
          obtain ⟨answer, otherAnswer, after, otherAfter, handed, generated, otherGenerated,
            later⟩ := alike.generate_answering hosts scan.table.generator
              (Scan.hostArguments scan.table.integerMode bound)
          rw [sameTable] at otherGenerated
          cases handed with
          | error error =>
              rw [Scan.start_of_refused _ placed null generated,
                Scan.start_of_refused _ otherPlaced null otherGenerated]
              exact ⟨Scan.Alike.ending (.rewound sameTable), rfl, later⟩
          | stream related =>
              rw [Scan.start_of_generated _ placed null generated,
                Scan.start_of_generated _ otherPlaced null otherGenerated]
              exact alike_next alike (.opened sameTable related) later

end Used

/-! ### Uses side by side -/

/-- The same call of two scans, or two changes elsewhere that leave the worlds related. -/
inductive Usage.Alike (worlds : σ → τ → Prop) : Usage σ → Usage τ → Prop where
  | call (call : Scan.Call) : Alike worlds (.call call) (.call call)
  | elsewhere {change : σ → σ} {otherChange : τ → τ} :
      (∀ left right, worlds left right → worlds (change left) (otherChange right)) →
      Alike worlds (.elsewhere change) (.elsewhere otherChange)

theorem Usage.alike_self (usage : Usage σ) : usage.Alike (fun _ _ => True) usage := by
  cases usage with
  | call call => exact .call call
  | elsewhere change => exact .elsewhere fun _ _ _ => trivial

namespace Used

/-- What a scan replies when it is used. Nothing is heard of a change elsewhere. -/
def reply (run : Generation (StateM (Answering σ G S)) G S) (used : Used σ G S G S) :
    Usage σ → Option Scan.Reply
  | .call call => some (used.scan.call run call used.host).1.1
  | .elsewhere _ => none

/-- What a scan replies, use by use. -/
def replies (run : Generation (StateM (Answering σ G S)) G S) (used : Used σ G S G S) :
    List (Usage σ) → List (Option Scan.Reply)
  | [] => []
  | usage :: later => used.reply run usage :: (used.use run usage).replies run later

section Together

variable {run : Generation (StateM σ) G S} {otherRun : Generation (StateM τ) G T}
  {worlds : σ → τ → Prop} {streams : S → T → Prop} {since : List (HostAnswer G S)}
  {otherSince : List (HostAnswer G T)} {used : Used σ G S G S} {other : Used τ G T G T}

/-- Any two scans of one table are alike once they were started alike, and reply the same to it. -/
theorem Alike.of_start (alike : run.Alike otherRun worlds streams)
    (sameTable : used.scan.table = other.scan.table)
    (hosts : Answering.Alike worlds streams since otherSince used.host other.host) (number : Int32)
    (values : List SqlValue) :
    used.reply run.answering (.call (.start number values)) =
        other.reply otherRun.answering (.call (.start number values)) ∧
      Alike worlds streams since otherSince
        (used.use run.answering (.call (.start number values)))
        (other.use otherRun.answering (.call (.start number values))) := by
  have started := alike_start alike sameTable hosts number values
  exact ⟨congrArg (some ∘ Scan.Reply.done) started.result, started⟩

/-- What is alike stays alike, use by use, and replies the same. -/
theorem Alike.use (alike : run.Alike otherRun worlds streams)
    (both : Alike worlds streams since otherSince used other) {usage : Usage σ}
    {otherUsage : Usage τ} (usages : usage.Alike worlds otherUsage) :
    used.reply run.answering usage = other.reply otherRun.answering otherUsage ∧
      Alike worlds streams since otherSince (used.use run.answering usage)
        (other.use otherRun.answering otherUsage) := by
  cases usages with
  | elsewhere related =>
      exact ⟨rfl, both.scan, both.result, related _ _ both.host.world, both.host.asked⟩
  | call call =>
      cases call with
      | start number values => exact Alike.of_start alike both.scan.table both.host number values
      | next =>
          have moved := alike_next alike both.scan both.host
          exact ⟨congrArg (some ∘ Scan.Reply.done) moved.result, moved⟩
      | isEnded => exact ⟨congrArg (some ∘ Scan.Reply.ended) both.scan.ended, both⟩
      | column position =>
          exact ⟨congrArg (some ∘ Scan.Reply.value) (both.scan.column position), both⟩
      | rowid => exact ⟨congrArg (some ∘ Scan.Reply.row) both.scan.rowid, both⟩

/-- What is alike stays alike, whatever is done with both. -/
theorem Alike.replies (alike : run.Alike otherRun worlds streams)
    (both : Alike worlds streams since otherSince used other) {later : List (Usage σ)}
    {otherLater : List (Usage τ)} (usages : List.Forall₂ (Usage.Alike worlds) later otherLater) :
    used.replies run.answering later = other.replies otherRun.answering otherLater ∧
      Alike worlds streams since otherSince (used.after run.answering later)
        (other.after otherRun.answering otherLater) := by
  induction usages generalizing used other with
  | nil => exact ⟨rfl, both⟩
  | cons usage _ ih =>
      obtain ⟨reply, after⟩ := both.use alike usage
      obtain ⟨replies, last⟩ := ih after
      exact ⟨List.cons_eq_cons.mpr ⟨reply, replies⟩, last⟩

end Together

/-- Nothing of what was done with a scan survives a start. Whatever was done with two scans of one
table, and whatever their hosts were asked, they reply the same to equal starts and to all that
follows, and ask the same of hosts that answer alike from then on. -/
theorem start_forgets {run : Generation (StateM σ) G S} {otherRun : Generation (StateM τ) G T}
    {worlds : σ → τ → Prop} {streams : S → T → Prop} (alike : run.Alike otherRun worlds streams)
    (table : ConnectedTable G) (host : Answering σ G S) (otherHost : Answering τ G T)
    (before : List (Usage σ)) (otherBefore : List (Usage τ)) :
    let used := (opened table host).after run.answering before
    let other := (opened table otherHost).after otherRun.answering otherBefore
    worlds used.host.world other.host.world →
    ∀ (number : Int32) (values : List SqlValue) {later : List (Usage σ)}
      {otherLater : List (Usage τ)}, List.Forall₂ (Usage.Alike worlds) later otherLater →
      used.replies run.answering (.call (.start number values) :: later) =
          other.replies otherRun.answering (.call (.start number values) :: otherLater) ∧
        Alike worlds streams used.host.answers other.host.answers
          (used.after run.answering (.call (.start number values) :: later))
          (other.after otherRun.answering (.call (.start number values) :: otherLater)) := by
  intro used other related number values later otherLater usages
  -- The table is all that the two scans have in common before the start.
  have ofTable : used.scan.table = table := after_table (opened table host) before
  have otherOfTable : other.scan.table = table := after_table (opened table otherHost) otherBefore
  have hosts : Answering.Alike worlds streams used.host.answers other.host.answers used.host
      other.host :=
    ⟨related, [], [], (List.append_nil _).symm, (List.append_nil _).symm, .nil⟩
  obtain ⟨reply, started⟩ :=
    Alike.of_start alike (ofTable.trans otherOfTable.symm) hosts number values
  obtain ⟨replies, last⟩ := started.replies alike usages
  exact ⟨List.cons_eq_cons.mpr ⟨reply, replies⟩, last⟩

/-- One scan has run out of rows, and another has failed to start. Both begin with the first row of
what they are started with, and end at a null. -/
theorem start_forgets_run_out :
    let run : Generation (StateM Nat) Unit RowList :=
      ⟨fun _ args calls => (.ok [.ok args, .ok [.null]], calls + 1),
        fun rows calls => (rows.advance, calls + 1)⟩
    let table : ConnectedTable Unit := ⟨"m", (), ["p"], .strict⟩
    let before := [.call (.start 1 [.integer 7]), .call .next, .call .next]
    let otherBefore := [.call (.start 1 [])]
    let used := (opened table ⟨0, []⟩).after run.answering before
    let other := (opened table ⟨0, []⟩).after run.answering otherBefore
    let later := [.call (.column 0), .call .rowid, .elsewhere fun _ => 0, .call .next, .call .rowid,
      .call (.start 1 [.null]), .call .isEnded]
    used.scan.produced = 2 ∧ used.host.world = 4 ∧ other.result ≠ .ok () ∧ other.host.world = 0 ∧
      used.replies run.answering (.call (.start 1 [.integer 4]) :: later) =
        [some (.done (.ok ())), some (.value (.ok (.integer 4))), some (.row 0), none,
          some (.done (.ok ())), some (.row 1), some (.done (.ok ())), some (.ended true)] ∧
      other.replies run.answering (.call (.start 1 [.integer 4]) :: later) =
        used.replies run.answering (.call (.start 1 [.integer 4]) :: later) := by
  have usages (later : List (Usage Nat)) :
      List.Forall₂ (Usage.Alike fun _ _ => True) later later :=
    List.forall₂_same.mpr fun usage _ => usage.alike_self
  refine ⟨rfl, rfl, nofun, rfl, rfl, ?_⟩
  exact (start_forgets (Generation.Constant.alike ⟨fun _ _ _ _ => rfl, fun _ _ _ => rfl⟩) _ _ _ _ _
    trivial 1 [.integer 4] (usages _)).1.symm

end Used

end RowSource
