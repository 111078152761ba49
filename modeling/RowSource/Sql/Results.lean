import RowSource.Sql.Groups

/-!
# Results of queries

The rows that a query gives: those of its parts, each row once if equal ones count but once, in order,
and within limits.
-/

namespace RowSource.Sql

/-! ### Limits -/

/-- How many rows are still to be skipped, and how many to be given, if that is limited. -/
structure Window where
  skip : Nat := 0
  left : Option Nat := none

def Window.reach (window : Window) : Option Nat := window.left.map (window.skip + ·)

def limitValue (value : Datum) : Except EngineFault Int :=
  match withNumericAffinity value with
  | .integer i => .ok i.toInt
  | .real x =>
      match wholeInteger? x with
      | some i => .ok i.toInt
      | none => .error (.failed 20 (some "datatype mismatch"))
  | _ => .error (.failed 20 (some "datatype mismatch"))

/-- The window that a query gives, if there is anything in it. A negative limit is none, and a
negative offset is zero. -/
def window? (plan : QueryPlan) (env : Environment) : Executing (Option Window) := do
  let limit ← plan.limit.mapM fun limit => do
    Executing.ofExcept (limitValue (← evaluate env limit))
  if limit = some 0 then return none
  else
    let offset ← plan.offset.mapM fun offset => do
      Executing.ofExcept (limitValue (← evaluate env offset))
    let left := limit.bind fun limit => if limit < 0 then none else some limit.toNat
    return some ⟨(offset.getD 0).toNat, left⟩

/-- The rows that have been given, and those that are still to be. -/
structure Giving (S : Type) where
  window : Window
  state : S
  isWanted : Bool := true

section Giving

variable {S : Type}

/-- Gives a row if it is in the window, and tells whether there may be more. The row is worked out
only if it is given. -/
def Giving.offer (giving : Giving S) (give : S → Executing (S × Bool)) :
    Executing (Giving S × Bool) := do
  let window := giving.window
  if 0 < window.skip then
    return ({ giving with window := { window with skip := window.skip - 1 } }, true)
  else
    let (state, isWanted) ← give giving.state
    let left := window.left.map (· - 1)
    return (⟨{ window with left := left }, state, isWanted⟩, isWanted && left != some 0)

def Giving.offerAll (give : List Datum → S → Executing (S × Bool)) (rows : List (List Datum))
    (giving : Giving S) : Executing (Giving S × Bool) :=
  eachOfList (fun values (giving : Giving S) => giving.offer (give values)) rows giving

end Giving

/-! ### Sorted parts -/

namespace Part

variable {Q : Type}

def copies (part : Part Q) : List (Option Nat) :=
  (List.range part.results.length).map fun position =>
    if part.mode = .whole then none
    else
      ((part.keys.zipIdx.drop part.met).filter fun entry =>
        entry.1.copy == some position).getLast?.map (·.2)

def besideKeys (part : Part Q) : List Term :=
  (part.results.zip part.copies).filterMap fun (term, copy) =>
    if copy.isNone then some term else none

def sameResults (part : Part Q) (a b : List Datum) : Bool :=
  (part.results.zip (a.zip b)).all fun (term, x, y) =>
    (⟨.blob, term.collation?.getD .binary⟩ : Comparison).same x y

end Part

def assembled (keys : List SortValue) : List (Option Nat) → List Datum → List Datum
  | [], _ => []
  | some key :: rest, values =>
      ((keys[key]?).map (·.value)).getD .null :: assembled keys rest values
  | none :: rest, value :: values => value :: assembled keys rest values
  | none :: rest, [] => .null :: assembled keys rest []

def keyValues (env : Environment) (results : Option (List Datum)) :
    List OrderKey → Executing (List SortValue)
  | [] => return []
  | key :: rest => do
      let value ← match results, key.copy with
        | some results, some position => pure (results.getD position .null)
        | _, _ => evaluate env key.term
      return ⟨value, key.direction, key.collation⟩ :: (← keyValues env results rest)

structure Sorting (S : Type) where
  sorter : Sorter
  /-- The keys, of those by which the rows come in order, that the rows in the sorter have. -/
  block : Option (List SortValue) := none
  giving : Giving S

section Parts

variable {S : Type}

def onceEach (part : Part QueryPlan) (visit : List Datum → Visit S) :
    Visit (S × List (List Datum)) := fun env (state, seen) => do
  let results ← evaluateAll env part.results
  if seen.any (part.sameResults results) then return ((state, seen), true)
  else
    let (state, wanted) ← visit results env state
    return ((state, results :: seen), wanted)

def Sorting.flushed (sorting : Sorting S) (give : List Datum → S → Executing (S × Bool)) :
    Executing (Sorting S × Bool) := do
  let (giving, wanted) ← Giving.offerAll give (sorting.sorter.sorted.map (·.values)) sorting.giving
  return ({ sorting with sorter := { sorting.sorter with rows := [] }, giving := giving },
    wanted && sorting.sorter.room != some 0)

/-- Takes a row into the sorter, after the rows that come before it in any case have been given. -/
def Sorting.insert (sorting : Sorting S) (part : Part QueryPlan)
    (give : List Datum → S → Executing (S × Bool)) (row : SortedRow) :
    Executing (Sorting S × Bool) := do
  let block := row.keys.take part.met
  let isSame := sorting.block.all fun other => compareKeys other block == .eq
  let (sorting, wanted) ← if isSame then pure (sorting, true) else sorting.flushed give
  let sorting := { sorting with block := some block }
  if wanted && sorting.sorter.admits row.keys then
    return ({ sorting with sorter := sorting.sorter.insert row }, true)
  else return (sorting, wanted)

def Sorting.visit (part : Part QueryPlan) (isLimited : Bool)
    (give : List Datum → S → Executing (S × Bool)) : Visit (Sorting S) := fun env sorting => do
  let isLate := part.mode = .late && isLimited
  let early ← if isLate then pure [] else evaluateAll env part.besideKeys
  let keys ← keyValues env (if part.mode = .whole then some early else none) part.keys
  if isLate && part.met == 0 && !sorting.sorter.admits keys then return (sorting, true)
  else
    let others ← if isLate then evaluateAll env part.besideKeys else pure early
    sorting.insert part give ⟨keys, assembled keys part.copies others⟩

def Sorting.visitKnown (part : Part QueryPlan) (give : List Datum → S → Executing (S × Bool))
    (results : List Datum) : Visit (Sorting S) := fun env sorting => do
  let keys ← keyValues env (some results) part.keys
  sorting.insert part give ⟨keys, results⟩

def Sorting.finished (sorting : Sorting S) (give : List Datum → S → Executing (S × Bool)) :
    Executing (Giving S × Bool) := do
  if sorting.giving.isWanted then
    let (sorting, _) ← sorting.flushed give
    return (sorting.giving, sorting.giving.isWanted && sorting.giving.window.left != some 0)
  else return (sorting.giving, false)

def givePart (run : Runner) (part : Part QueryPlan) (isLimited : Bool) (env : Environment)
    (give : List Datum → S → Executing (S × Bool)) (giving : Giving S) :
    Executing (Giving S × Bool) := do
  let start : Sorting S := { sorter := { room := giving.window.reach }, giving := giving }
  match part.keys.isEmpty, part.isDistinct with
  | true, false =>
      eachOfPart run part
        (fun env giving => giving.offer fun state => do
          give (← evaluateAll env part.results) state)
        env giving
  | true, true => do
      let ((giving, _), wanted) ← eachOfPart run part
        (onceEach part fun results _ (giving : Giving S) => giving.offer (give results))
        env (giving, [])
      return (giving, wanted)
  | false, false => do
      let (sorting, _) ← eachOfPart run part (Sorting.visit part isLimited give) env start
      sorting.finished give
  | false, true => do
      let ((sorting, _), _) ← eachOfPart run part
        (onceEach part fun results => Sorting.visitKnown part give results) env (start, [])
      sorting.finished give

def giveParts (run : Runner) (isLimited : Bool) (env : Environment)
    (give : List Datum → S → Executing (S × Bool)) :
    List (Part QueryPlan) → Giving S → Executing (Giving S)
  | [], giving => return giving
  | part :: rest, giving => do
      let (giving, wanted) ← givePart run part isLimited env give giving
      if wanted then giveParts run isLimited env give rest giving else return giving

end Parts

/-! ### Several parts -/

def commonKeys (order : List CommonKey) (values : List Datum) : List SortValue :=
  order.map fun key => ⟨values.getD key.position .null, key.direction, key.collation⟩

def compareRows (order : List CommonKey) (a b : List Datum) : Ordering :=
  compareKeys (commonKeys order a) (commonKeys order b)

def sortedRows (order : List CommonKey) (rows : List (List Datum)) : List (List Datum) :=
  rows.mergeSort fun a b => compareRows order a b != .gt

def withoutRepeated (order : List CommonKey) : List (List Datum) → List (List Datum)
  | [] => []
  | row :: rest =>
      match withoutRepeated order rest with
      | [] => [row]
      | next :: others =>
          if compareRows order row next == .eq then row :: others else row :: next :: others

def combinedRows (order columns : List CommonKey) (link : Compound)
    (left right : List (List Datum)) : List (List Datum) :=
  let keys := order ++ columns
  let once (rows : List (List Datum)) := withoutRepeated keys (sortedRows keys rows)
  let isIn (rows : List (List Datum)) (row : List Datum) : Bool :=
    rows.any fun other => compareRows keys row other == .eq
  match link with
  | .unionAll => if order.isEmpty then left ++ right else sortedRows order (left ++ right)
  | .union =>
      let added := once right
      sortedRows keys ((once left).filter (fun row => !isIn added row) ++ added)
  | .intersect => (once left).filter (isIn right)
  | .except => (once left).filter fun row => !isIn right row

def rowsOfPart (run : Runner) (isLimited : Bool) (most : Option Nat) (env : Environment)
    (part : Part QueryPlan) : Executing (List (List Datum)) := do
  let (giving, _) ← givePart run part isLimited env
    (fun values rows => return (values :: rows, true))
    { window := { left := most }, state := ([] : List (List Datum)) }
  return giving.state.reverse

def rowsOfParts (run : Runner) (plan : QueryPlan) (most : Option Nat) (env : Environment) :
    List (Part QueryPlan) → List Compound → List (List Datum) → Executing (List (List Datum))
  | [], _, rows => return rows
  | part :: rest, links, rows => do
      let more ← rowsOfPart run plan.limit.isSome most env part
      let rows := combinedRows plan.order plan.columns (links.headD .unionAll) rows more
      rowsOfParts run plan most env rest (links.drop 1) rows

def QueryPlan.isSequence (plan : QueryPlan) : Bool :=
  plan.order.isEmpty && plan.links.all (· == .unionAll)

/-! ### Queries -/

/-- The rows of the query in a slot. One that takes nothing of the query around it is run but once. -/
def answered (run : Runner) (queries : List QueryPlan) (env : Environment) (slot : Nat)
    (arguments : List Datum) (most : Option Nat) : Executing (List (List Datum)) := do
  let known := (← get).answers.lookup slot
  match if arguments.isEmpty then known else none with
  | some rows => return rows
  | none => do
      let plan := queries.getD slot default
      let (rows, _) ← run (List (List Datum)) plan { env.outside with arguments := arguments }
        (fun values rows => return (values :: rows, most != some (rows.length + 1))) []
      if arguments.isEmpty then
        modify fun memo => { memo with answers := (slot, rows.reverse) :: memo.answers }
      return rows.reverse

def Environment.answering (env : Environment) (run : Runner) (queries : List QueryPlan) :
    Environment :=
  { env with answer := answered run queries env }

def runWith (run : Runner) (queries : List QueryPlan) : Runner := fun S plan env give state => do
  let env := env.answering run queries
  let first := if plan.isSequence then plan.parts.head? else none
  keepAll run env (((first.map (·.kept)).getD []).filter fun kept => !kept.isDependent)
  match ← window? plan env with
  | none => return (state, true)
  | some window => do
      let start : Giving S := { window := window, state := state }
      if plan.isSequence then
        let giving ← giveParts run plan.limit.isSome env give plan.parts start
        return (giving.state, giving.isWanted)
      else
        let most := if plan.links.all (· == .unionAll) then window.reach else none
        let rows ← rowsOfParts run plan most env plan.parts (.unionAll :: plan.links) []
        let (giving, _) ← Giving.offerAll give rows start
        return (giving.state, giving.isWanted)

def runTo (queries : List QueryPlan) : Nat → Runner
  | 0 => fun _ _ _ _ state => return (state, true)
  | depth + 1 => runWith (runTo queries depth) queries

def depthOf (queries : List QueryPlan) : Nat :=
  (queries.map (·.depth)).foldl Nat.add 0

def startingEnvironment (connection : Nat) (queries : List QueryPlan) (parameters : List Datum) :
    Running Environment := do
  let undone ← Routine.look fun store => (store.connection connection).undone
  let env : Environment := { connection := connection, parameters := parameters, undone := undone }
  return env.answering (runTo queries (depthOf queries)) queries

def asReader {T : Type} (connection : Nat) (hosts : List Nat) (routine : Running T) : Running T :=
  Routine.closing
    (Store.updateConnection connection fun c =>
      { c with readers := c.readers - 1, scanned := hosts.foldl List.erase c.scanned }) do
      Routine.update (Store.updateConnection connection fun c =>
        { c with readers := c.readers + 1, scanned := hosts ++ c.scanned })
      routine

/-- Runs a compiled query and gives its rows as long as they are wanted. While it runs it counts as a
reader. -/
def runQuery {T : Type} (connection : Nat) (queries : List QueryPlan) (query : CompiledQuery)
    (parameters : List Datum) (give : List Datum → T → Running (T × Bool)) (given : T) :
    Running T :=
  if query.isReading then do
    if query.readsMain then transact (Store.read connection)
    asReader connection query.hosts body
  else body
where
  body : Running T := do
    let env ← startingEnvironment connection queries parameters
    let depth := query.plan.depth + depthOf queries
    let ((given, _), _) ← (runTo queries depth T query.plan env
      (fun values given => (give values given : Running (T × Bool))) given).run {}
    return given

end RowSource.Sql
