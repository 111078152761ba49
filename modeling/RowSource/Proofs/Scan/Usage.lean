import RowSource.Proofs.Scan.Isolation

/-!
# Scans in use

A scan is started, moved on and read in any order, and the world of its host changes in between.
`Used` keeps a scan together with what its latest start or move has returned, and with what host code
was asked and has answered.
-/

namespace RowSource

variable {σ G S G' S' : Type}

/-! ### Host code that is answering -/

/-- What host code was asked, with its answer. -/
inductive HostAnswer (G S : Type) where
  | generated (generator : G) (args : List HostValue) (answer : Except HostError S)
  | advanced (stream : S) (answer : Except HostError Advance) (rest : S)

/-- The state of a host, with its answers so far. -/
structure Answering (σ G S : Type) where
  world : σ
  answers : List (HostAnswer G S) := []

def Answering.after (host : Answering σ G S) (answer : HostAnswer G S) (world : σ) :
    Answering σ G S :=
  ⟨world, host.answers ++ [answer]⟩

/-- Host code whose answers are kept beside its own state. -/
def Generation.answering (run : Generation (StateM σ) G S) :
    Generation (StateM (Answering σ G S)) G S where
  generate generator args host :=
    let (answer, world) := run.generate generator args host.world
    (answer, host.after (.generated generator args answer) world)
  advance stream host :=
    let ((answer, rest), world) := run.advance stream host.world
    ((answer, rest), host.after (.advanced stream answer rest) world)

theorem Generation.advance_answering {run : Generation (StateM σ) G S} {stream rest : S}
    {host : Answering σ G S} {answer : Except HostError Advance} {world : σ}
    (advanced : run.advance stream host.world = ((answer, rest), world)) :
    run.answering.advance stream host =
      ((answer, rest), host.after (.advanced stream answer rest) world) := by
  unfold answering
  simp only [advanced]

/-- The latest answer of a host was that a stream has yielded a row. -/
def Answering.Yielded (host : Answering σ G S) (values : List HostValue) (rest : S) : Prop :=
  ∃ stream, host.answers.getLast? = some (.advanced stream (.ok (.row values)) rest)

theorem Answering.yielded_after {host : Answering σ G S} {stream rest after : S}
    {answer : Except HostError Advance} {world : σ} {values : List HostValue} :
    (host.after (.advanced stream answer rest) world).Yielded values after ↔
      answer = .ok (.row values) ∧ rest = after := by
  unfold Yielded Answering.after
  rw [List.getLast?_concat]
  constructor
  · rintro ⟨_, ⟨⟩⟩
    exact ⟨rfl, rfl⟩
  · rintro ⟨rfl, rfl⟩
    exact ⟨stream, rfl⟩

/-! ### Uses -/

inductive Usage (σ : Type) where
  | call (call : Scan.Call)
  /-- Something else happens, and changes the world. -/
  | elsewhere (change : σ → σ)

namespace Usage

def starts : Usage σ → Bool
  | .call (.start _ _) => true
  | _ => false

/-- Only a start or a move asks anything of the host, and only these return without a value. -/
def moves : Usage σ → Bool
  | .call (.start _ _) | .call .next => true
  | _ => false

end Usage

/-- A scan with its host. The host may be that of another generation, which the one of the scan is
made from. -/
structure Used (σ G' S' G S : Type) where
  scan : Scan G S
  host : Answering σ G' S'
  /-- What the latest start or move has returned. -/
  result : Except Failure Unit := .ok ()

namespace Used

/-- A scan that was just opened. -/
def opened (table : ConnectedTable G) (host : Answering σ G' S') : Used σ G' S' G S where
  scan := .idle table
  host := host

variable (run : Generation (StateM (Answering σ G' S')) G S)

def ofOutcome (outcome : (Except Failure Unit × Scan G S) × Answering σ G' S') :
    Used σ G' S' G S :=
  ⟨outcome.1.2, outcome.2, outcome.1.1⟩

def use (used : Used σ G' S' G S) : Usage σ → Used σ G' S' G S
  | .call (.start number values) => ofOutcome (used.scan.start run number values used.host)
  | .call .next => ofOutcome (used.scan.next run used.host)
  | .call call =>
      let ((_, scan), host) := used.scan.call run call used.host
      { used with scan := scan, host := host }
  | .elsewhere change =>
      { used with host := { used.host with world := change used.host.world } }

def after (used : Used σ G' S' G S) (usages : List (Usage σ)) : Used σ G' S' G S :=
  usages.foldl (use run) used

theorem after_concat (used : Used σ G' S' G S) (usages : List (Usage σ)) (usage : Usage σ) :
    used.after run (usages ++ [usage]) = (used.after run usages).use run usage := by
  unfold after
  rw [List.foldl_append]
  rfl

variable {run}

variable (run) in
/-- Whatever is neither a start nor a move leaves the scan, its result and the answers alone. -/
theorem use_of_not_moves {usage : Usage σ} (still : usage.moves = false)
    (used : Used σ G' S' G S) :
    ∃ world, used.use run usage = { used with host := { used.host with world := world } } := by
  cases usage with
  | elsewhere change => exact ⟨_, rfl⟩
  | call call =>
      cases call with
      | start number values => cases still
      | next => cases still
      | isEnded => exact ⟨_, rfl⟩
      | column position => exact ⟨_, rfl⟩
      | rowid => exact ⟨_, rfl⟩

theorem use_table (used : Used σ G' S' G S) (usage : Usage σ) :
    (used.use run usage).scan.table = used.scan.table := by
  cases moves : usage.moves with
  | false =>
      obtain ⟨world, same⟩ := use_of_not_moves run moves used
      rw [same]
  | true =>
      cases usage with
      | elsewhere change => cases moves
      | call call =>
          cases call with
          | start number values => exact Scan.start_table run used.scan used.host number values
          | next => exact Scan.next_table run used.scan used.host
          | isEnded => cases moves
          | column position => cases moves
          | rowid => cases moves

theorem after_table (used : Used σ G' S' G S) (usages : List (Usage σ)) :
    (used.after run usages).scan.table = used.scan.table := by
  induction usages generalizing used with
  | nil => rfl
  | cons usage later ih => exact (ih (used.use run usage)).trans (use_table used usage)

/-- What every start and every move bring about holds after any uses, if nothing else in the world
can end it. -/
theorem after_of_moves (holds : List (Usage σ) → Used σ G' S' G S → Prop)
    {used : Used σ G' S' G S} (begins : holds [] used)
    (still : ∀ usages usage used world, usage.moves = false → holds usages used →
      holds (usages ++ [usage]) { used with host := { used.host with world := world } })
    (moved : ∀ usages usage used, usage.moves = true → holds usages used →
      holds (usages ++ [usage]) (used.use run usage))
    (usages : List (Usage σ)) : holds usages (used.after run usages) := by
  induction usages using List.reverseRecOn with
  | nil => exact begins
  | append_singleton usages usage reached =>
      rw [after_concat]
      cases moves : usage.moves with
      | true => exact moved usages usage _ moves reached
      | false =>
          obtain ⟨world, same⟩ := use_of_not_moves run moves (used.after run usages)
          rw [same]
          exact still usages usage _ world moves reached

end Used

end RowSource
