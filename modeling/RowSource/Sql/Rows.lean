import RowSource.Sql.Evaluate
import RowSource.Sql.QueryPlan

/-!
# Going through rows

Nested loops over sources. The rows of a table are read live: each step looks for the next row in the
database as it is then. Host tables are scanned by demands, which are made only as rows are needed.
-/

namespace RowSource.Sql

abbrev Visit (S : Type) := Environment → S → Executing (S × Bool)

/-- How a query is run. Its rows are given one after another, as long as they are wanted; what comes
back tells whether further rows would have been. -/
abbrev Runner := (S : Type) → QueryPlan → Environment →
  (List Datum → S → Executing (S × Bool)) → S → Executing (S × Bool)

/-- How many rows a loop may go through: more than there are row identifiers. -/
def rowBudget : Nat := twoTo 64

/-! ### Choices -/

/-- Puts a value into a list in order. An equal one makes way. -/
def insertMember (collation : Collation) (value : Datum) : List Datum → List Datum
  | [] => [value]
  | other :: rest =>
      match compareValues collation value other with
      | .lt => value :: other :: rest
      | .eq => value :: rest
      | .gt => other :: insertMember collation value rest

def membersOf (env : Environment) (comparison : Comparison) (choice : Term) :
    Executing (List Datum) := do
  let (values, affinity) ← match choice with
    | .inList _ members =>
        pure (← evaluateAll env members, memberAffinity comparison.affinity)
    | .inQuery _ slot arguments _ => do
        let rows ← env.answer slot (← evaluateAll env arguments) none
        pure (rows.map fun row => row.headD .null, comparison.affinity)
    | other => pure ([← evaluate env other], memberAffinity comparison.affinity)
  let near := (values.filter fun value => !value.isNull).map (stored affinity)
  return near.foldl (fun known value => insertMember comparison.collation value known) []

/-! ### Probes -/

namespace Probe

/-- Whether a column meets a probe, given the values that it may be compared with. -/
def isMet (probe : Probe) (values : List Datum) (column : Datum) : Bool :=
  if probe.isPresence then !column.isNull
  else
    match probe.bounds with
    | some bounds => bounds.hold column
    | none =>
        let compares (test : Ordering → Bool) (value : Datum) : Bool :=
          !column.isNull && test (probe.comparison.order column value)
        match probe.op with
        | .isNull => column.isNull
        | .is => values.any (probe.comparison.same column)
        | .eq => values.any (compares (· == .eq))
        | .lt => values.any (compares (· == .lt))
        | .le => values.any (compares (· != .gt))
        | .gt => values.any (compares (· == .gt))
        | .ge => values.any (compares (· != .lt))
        | _ => true

def needsValue (probe : Probe) : Bool :=
  !probe.isPresence && probe.op != .isNull && probe.bounds.isNone

/-- The values of probes, unless one of them can only be met by nothing. -/
def values? (env : Environment) : List Probe → Executing (Option (List (Probe × List Datum)))
  | [] => return some []
  | probe :: rest => do
      let values ←
        if !probe.needsValue then pure []
        else if probe.isChoice then membersOf env probe.comparison probe.value
        else pure [← evaluate env probe.value]
      let isHopeless := probe.needsValue && probe.op != .is && values.all Datum.isNull
      if isHopeless then return none
      else return (← values? env rest).map ((probe, values) :: ·)

end Probe

/-! ### Rows in order -/

namespace StoredRow

/-- The value of a column in a row. The identifier of the row is in no position. -/
def column (row : StoredRow) : Option Nat → Datum
  | some position => row.2.getD position .null
  | none => .ofInteger row.1

def meets (row : StoredRow) (probes : List (Probe × List Datum)) : Bool :=
  probes.all fun (probe, values) => probe.isMet values (column row probe.column)

def compareBy (columns : List IndexColumn) (a b : StoredRow) : Ordering :=
  match columns with
  | [] => compare a.1 b.1
  | next :: rest =>
      let order := compareValues next.collation (column a next.position) (column b next.position)
      (if next.descending then order.swap else order).then (compareBy rest a b)

/-- The first of some rows after a row, in the order of some columns. -/
def after? (columns : List IndexColumn) (backwards : Bool) (last : Option StoredRow)
    (rows : List StoredRow) : Option StoredRow :=
  let precedes (a b : StoredRow) : Bool :=
    compareBy columns a b == (if backwards then .gt else .lt)
  rows.foldl
    (fun first row =>
      if (last.any fun last => !precedes last row) then first
      else if first.any fun other => !precedes row other then first
      else some row)
    none

end StoredRow

def positioned (rows : List (List Datum)) : List StoredRow :=
  rows.zipIdx.map fun (values, position) => ((position : Int) + 1, values)

/-! ### Sources -/

section Sources

variable {S : Type}

def eachStored (env : Environment) (table : TableId) (columns : List IndexColumn)
    (probes : List (Probe × List Datum)) (isOneRow backwards : Bool)
    (visit : Current → S → Executing (S × Bool)) :
    Nat → Option StoredRow → S → Executing (S × Bool)
  | 0, _, state => return (state, true)
  | fuel + 1, last, state => do
      requirePresent env
      let rows ← Executing.look fun store => (store.table env.connection table).rows
      let left := rows.filter fun row => StoredRow.meets row probes
      match StoredRow.after? columns backwards last left with
      | none => return (state, true)
      | some row => do
          let (state, wanted) ← visit (.live table row.1) state
          if wanted && !isOneRow then
            eachStored env table columns probes isOneRow backwards visit fuel (some row) state
          else return (state, wanted)

/-- The rows of a scan from its current one on. -/
def eachScanned (scan : Nat) (visit : S → Executing (S × Bool)) : Nat → S → Executing (S × Bool)
  | 0, state => return (state, true)
  | fuel + 1, state => do
      if ← Executing.ask (.isEnded scan) then return (state, true)
      else
        let (state, wanted) ← visit state
        if wanted then
          Executing.ask (.next scan)
          eachScanned scan visit fuel state
        else return (state, false)

def eachOfList {α : Type} (visit : α → S → Executing (S × Bool)) :
    List α → S → Executing (S × Bool)
  | [], state => return (state, true)
  | item :: rest, state => do
      let (state, wanted) ← visit item state
      if wanted then eachOfList visit rest state else return (state, false)

def eachKept (visit : Current → S → Executing (S × Bool)) (rows : List StoredRow) :
    S → Executing (S × Bool) :=
  eachOfList (fun (rowid, values) => visit (.row rowid values)) rows

def eachValues (env : Environment) (visit : List Datum → S → Executing (S × Bool)) :
    List HostValue → List Datum → S → Executing (S × Bool)
  | [], before, state => visit before state
  | value :: rest, before, state => do
      if value.isChoice then
        let members ← membersOf env value.comparison value.value
        eachOfList (fun member => eachValues env visit rest (before ++ [member])) members state
      else
        let one ← evaluate env value.value
        eachValues env visit rest (before ++ [one]) state

def passes (env : Environment) : List (HostValue × Datum) → Executing Bool
  | [] => return true
  | (value, member) :: rest => do
      match value.check with
      | none => passes env rest
      | some ref => do
          let column ← columnValue env ref
          let comparison : Comparison :=
            { affinity := ref.affinity.getD .blob, collation := value.comparison.collation }
          if !column.isNull && comparison.order column member == .eq then passes env rest
          else return false

def collected (run : Runner) (query : QueryPlan) (env : Environment) :
    Executing (List StoredRow) := do
  let (rows, _) ← run (List (List Datum)) query env.outside
    (fun values rows => return (values :: rows, true)) []
  return positioned rows.reverse

def indexed (run : Runner) (env : Environment) : Access QueryPlan → Executing (List StoredRow)
  | .stored table _ _ _ _ => do
      requirePresent env
      Executing.look fun store => (store.table env.connection table).rows
  | .derived query => collected run query env
  | .kept slot _ => do return ((← get).kept.lookup slot).getD []
  | _ => return []

def lookupRows (run : Runner) (env : Environment) (slot : Nat) (source : Access QueryPlan)
    (columns : List IndexColumn) : Executing (List StoredRow) := do
  match (← get).lookups.lookup slot with
  | some rows => return rows
  | none =>
      let rows ← indexed run env source
      let sorted := rows.mergeSort fun a b => StoredRow.compareBy columns a b != .gt
      modify fun memo => { memo with lookups := (slot, sorted) :: memo.lookups }
      return sorted

/-- The rows of a host table. It is scanned anew for each of several values. -/
def eachHosted (env : Environment) (source : Nat) (number : Int32) (values : List HostValue)
    (visit : Visit S) (state : S) : Executing (S × Bool) := do
  match (← get).scans.lookup source with
  | none => return (state, true)
  | some scan =>
      let here := env.withRow source (.scan scan)
      eachValues env
        (fun given state => do
          Executing.ask (.start scan number (given.map Datum.toValue))
          eachScanned scan
            (fun state => do
              if ← passes here (values.zip given) then visit here state
              else return (state, true))
            rowBudget state)
        values [] state

def lookupColumns (probes : List Probe) (others : List Nat) : List IndexColumn :=
  probes.map (fun probe =>
    { position := probe.column, collation := probe.comparison.collation }) ++
    others.map fun position => { position := some position }

def eachOf (run : Runner) (env : Environment) (loop : Loop QueryPlan) (visit : Visit S)
    (state : S) : Executing (S × Bool) := do
  let onRow (current : Current) : S → Executing (S × Bool) :=
    visit (env.withRow loop.source current)
  match loop.access with
  | .stored table columns probes isOneRow backwards => do
      match ← Probe.values? env probes with
      | none => return (state, true)
      | some probes =>
          eachStored env table columns probes isOneRow backwards onRow rowBudget none state
  | .hosted _ number values => eachHosted env loop.source number values visit state
  | .derived query =>
      let (result, _) ← run (S × Bool × Int) query env.outside
        (fun values (state, _, position) => do
          let (state, wanted) ← onRow (.row position values) state
          return ((state, wanted, position + 1), wanted))
        (state, true, 1)
      return (result.1, result.2.1)
  | .kept slot backwards => do
      let rows := ((← get).kept.lookup slot).getD []
      eachKept onRow (if backwards then rows.reverse else rows) state
  | .lookup slot source probes others => do
      let rows ← lookupRows run env slot source (lookupColumns probes others)
      match ← Probe.values? env probes with
      | none => return (state, true)
      | some probes => eachKept onRow (rows.filter fun row => StoredRow.meets row probes) state

/-! ### Nested loops -/

/-- Nested loops, with the conditions of each checked on its rows. Where the rows before a source stay
without any of its own, they are visited once with nothing in its columns. -/
def nested (run : Runner) (visit : Visit S) : List (Loop QueryPlan) → Visit S
  | [], env, state => visit env state
  | loop :: rest, env, state => do
      let onward : Visit S := fun env state => do
        if ← holdAll env loop.conditions then nested run visit rest env state
        else return (state, true)
      match loop.matching with
      | none => eachOf run env loop onward state
      | some matching =>
          let ((state, isMatched), wanted) ← eachOf run env loop
            (fun env (state, isMatched) => do
              if ← holdAll env matching then
                let (state, wanted) ← onward env state
                return ((state, true), wanted)
              else return ((state, isMatched), true))
            (state, false)
          if isMatched || !wanted then return (state, wanted)
          else onward (env.withRow loop.source .missing) state

/-- Opens scans of the host tables of a part. A scan that is open already stays. -/
def openScans : List (Loop QueryPlan) → Executing Unit
  | [] => return
  | loop :: rest => do
      match loop.access, (← get).scans.lookup loop.source with
      | .hosted table _ _, none => do
          let scan ← Executing.ask (.openScan table)
          modify fun memo => { memo with scans := (loop.source, scan) :: memo.scans }
      | _, _ => pure ()
      openScans rest

def keepAll (run : Runner) (env : Environment) : List (Kept QueryPlan) → Executing Unit
  | [] => return
  | kept :: rest => do
      if kept.isDependent || ((← get).kept.lookup kept.slot).isNone then
        let rows ← collected run kept.query env
        modify fun memo => { memo with
          kept := (kept.slot, rows) :: memo.kept.filter fun entry => entry.1 != kept.slot }
      keepAll run env rest

def eachRow (run : Runner) (part : Part QueryPlan) (visit : Visit S) : Visit S := fun env state => do
  if ← holdAll env part.conditions then
    openScans part.loops
    nested run visit part.loops env state
  else return (state, true)

end Sources

end RowSource.Sql
