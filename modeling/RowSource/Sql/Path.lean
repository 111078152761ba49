import RowSource.Sql.Way.Stored

/-!
# Paths

A path is an order in which sources are read, with a way to the rows of each. The cheapest one is
looked for from the first source on, with a few of the best beginnings kept at every step. Rows that
come out in the order that is asked for need not be sorted, which makes a path cheaper.
-/

namespace RowSource.Sql

inductive Arrangement where
  | sorted
  | grouped
  /-- So they do, to be given but once. -/
  | distinct
  deriving DecidableEq

structure Goal where
  numbers : List Nat
  columns : List (List Column)
  conditions : List Condition
  order : List OrderKey := []
  arrangement : Arrangement := .sorted
  /-- How the rows of queries come out, by place: the results they are sorted by, in which direction,
  and whether they can be read backwards as well. -/
  sorted : List (Nat × List OrderKey × Bool) := []
  width : Nat := 1
  limit : Option Estimate := none

structure Path where
  ways : List Way := []
  done : Places := 0
  rows : Estimate := 0
  cost : Estimate := 0
  unsorted : Estimate := 0
  ordered : Option Nat
  reversed : List Nat := []

/-! ### Order -/

namespace Goal

structure Progress where
  met : List Nat := []
  /-- The rows so far all differ in what they are ordered by. -/
  isDistinct : Bool := true
  /-- The places of the sources of which that is so. -/
  distinct : Places := 0
  reversed : List Nat := []
  read : Places := 0
  /-- No more can be said. -/
  isOver : Bool := false

def nextKey? (goal : Goal) (met : List Nat) : Option Nat :=
  (List.range goal.order.length).find? fun index => !met.contains index

/-- Whether some conditions say what a column is, given the sources read, and take the same texts for
equal as a key does. -/
def isKnown (goal : Goal) (place : Nat) (ref : ColumnRef) (collation : Collation)
    (read : Places) : Bool :=
  goal.conditions.any fun condition =>
    match condition.column with
    | some (owner, other) =>
        owner == place && other.position == ref.position && !condition.isForHost &&
          Places.within condition.valueNeeds read &&
          (condition.op == some .isNull || (condition.isEquality &&
            (ref.position.isNone || condition.comparison.collation == collation)))
    | none => false

def keyAt? (goal : Goal) (place index : Nat) : Option (ColumnRef × Collation) :=
  (goal.order[index]?).bind fun key => key.term.bare.column?.bind fun ref =>
    if goal.numbers[place]? = some ref.source then some (ref, key.collation) else none

def withKnown (goal : Goal) (place : Nat) (progress : Progress) : Progress :=
  let more := (List.range goal.order.length).filter fun index =>
    !progress.met.contains index && (goal.keyAt? place index).any fun (ref, collation) =>
      goal.isKnown place ref collation progress.read
  { progress with met := progress.met ++ more }

/-- The keys met by the order in which a query gives its rows, with whether they are backwards. -/
def metByQuery (goal : Goal) (place : Nat) (canTurn : Bool) :
    Option Bool → Nat → List OrderKey → List Nat × Bool
  | turned, _, [] => ([], turned.getD false)
  | turned, index, key :: rest =>
      match key.copy, goal.order[index]? with
      | some position, some wanted =>
          let isIt := wanted.term.column?.any fun ref =>
            goal.numbers[place]? == some ref.source && ref.position == some position
          let isFree := goal.arrangement == .grouped
          let isTurned := !isFree && key.direction.descending != wanted.direction.descending
          let clashes := !isFree && (key.direction.nullsLarge != wanted.direction.nullsLarge ||
            turned.any (· != isTurned) || (turned.isNone && isTurned && !canTurn))
          if !isIt || clashes then ([], turned.getD false)
          else
            let (met, turned) := metByQuery goal place canTurn (some isTurned) (index + 1) rest
            (index :: met, turned)
      | _, _ => ([], turned.getD false)

/-- What is known while the columns are gone through by which the rows of a source are ordered. -/
structure Walk where
  progress : Progress
  turned : Option Bool := none
  hasIdentifier : Bool := false

/-- The key that a column of an index at a place meets, if it is one of those that may be met next. -/
def keyFor? (goal : Goal) (place : Nat) (met : List Nat) (column : IndexColumn) : Option Nat :=
  let fits (index : Nat) : Bool :=
    (goal.keyAt? place index).any fun (ref, collation) =>
      ref.position == column.position &&
        (column.position.isNone || collation == column.collation)
  match goal.arrangement with
  | .sorted => (goal.nextKey? met).filter fits
  | _ => (List.range goal.order.length).find? fun index => !met.contains index && fits index

def equality? (goal : Goal) (way : Way) (position : Nat) : Option Condition :=
  if position < way.equals then
    (way.terms[position]?).bind fun term => goal.conditions[term]?
  else none

/-- Goes through the columns by which the rows of a source are ordered, from the column at
`position` on. -/
def alongColumns (goal : Goal) (way : Way) (keyCount : Nat) :
    Nat → List IndexColumn → Walk → Walk
  | _, [], walk => walk
  | position, column :: rest, walk =>
      match (goal.equality? way position).filter fun condition => !condition.isChoice with
      | some condition =>
          let progress :=
            if condition.op = some .eq then walk.progress
            else { walk.progress with isDistinct := false }
          alongColumns goal way keyCount (position + 1) rest { walk with progress := progress }
      | none =>
          let isFilled := position < way.equals || match column.position with
            | none => true
            | some column => (((goal.columns[way.place]?).getD [])[column]?).any (·.notNull)
          let progress := { walk.progress with
            isDistinct := walk.progress.isDistinct && isFilled }
          let direction (index : Nat) : Direction :=
            ((goal.order[index]?).map (·.direction)).getD {}
          let isTurned (index : Nat) : Bool := (direction index).descending != column.descending
          let met := (goal.keyFor? way.place progress.met column).filter fun index =>
            goal.arrangement == .grouped ||
              (walk.turned.all (· == isTurned index) && !(direction index).nullsLarge)
          match met with
          | some index =>
              alongColumns goal way keyCount (position + 1) rest
                { progress := { progress with met := progress.met ++ [index] }
                  turned := if goal.arrangement = .grouped then walk.turned else some (isTurned index)
                  hasIdentifier := walk.hasIdentifier || column.position.isNone }
          | none =>
              let isDistinct :=
                progress.isDistinct && position != 0 && decide (keyCount ≤ position)
              { walk with progress := { progress with isDistinct := isDistinct } }

def withDistinct (goal : Goal) (place : Nat) (progress : Progress) : Progress :=
  if !progress.isDistinct then progress
  else
    let distinct := progress.distinct ||| Places.single place
    let more := goal.order.zipIdx.filterMap fun (key, index) =>
      let needs := Places.ofTerm goal.numbers key.term
      if !progress.met.contains index && Places.within needs distinct &&
          (needs != 0 || key.term.isConstant) then some index else none
    { progress with distinct := distinct, met := progress.met ++ more }

def after (goal : Goal) (progress : Progress) (way : Way) : Progress :=
  if progress.isOver ∨ !progress.isDistinct ∨ goal.order.length ≤ progress.met.length then progress
  else if way.isHosted then { progress with isOver := true, isDistinct := false }
  else
    let known := goal.withKnown way.place progress
    let walked : Progress :=
      if way.isOneRow then known
      else
        match way.means with
        | .lookup | .hosted _ _ =>
            { known with isOver := true, isDistinct := false, met := [] }
        | .ordered index _ _ _ _ =>
            let sorted := match index, goal.sorted.lookup way.place, goal.nextKey? known.met with
              | none, some (keys, canTurn), some key => goal.metByQuery way.place canTurn none key keys
              | _, _, _ => ([], false)
            let turn (isTurned : Bool) : List Nat :=
              if isTurned then known.reversed ++ [way.place] else known.reversed
            if !sorted.1.isEmpty then
              { known with met := known.met ++ sorted.1, isDistinct := false
                           reversed := turn sorted.2 }
            else
              let columns := (index.map (·.columns)).getD [{ position := none }]
              let walk := goal.alongColumns way ((index.map (·.keyCount)).getD 0) 0 columns
                { progress := known }
              { walk.progress with
                isDistinct := walk.progress.isDistinct || walk.hasIdentifier
                reversed := turn (walk.turned.getD false) }
    if walked.isOver then walked
    else
      { goal.withDistinct way.place walked with
        read := walked.read ||| Places.single way.place }

/-- How many keys of the order a path meets, if that is settled, and which sources have to be read
backwards for it. -/
def satisfied (goal : Goal) (ways : List Way) : Option Nat × List Nat :=
  let progress := ways.foldl goal.after {}
  let count := goal.order.length
  let settled :=
    if count ≤ progress.met.length then some count
    else if progress.isDistinct then none
    else
      some (((List.range count).reverse.find? fun length =>
        (List.range length).all progress.met.contains).getD 0)
  (settled, progress.reversed)

/-! ### Costs -/

def sortingCost (goal : Goal) (rows : Estimate) (met : Nat) : Estimate :=
  let count := goal.order.length
  let whole := rows + Estimate.ofCount ((goal.width + 59) / 30)
  let part :=
    if met = 0 then whole
    else whole + Estimate.ofCount ((count - met) * 100 / count) - 66
  match goal.limit with
  | none =>
      part + Estimate.search (if goal.arrangement = .distinct ∧ 10 < rows then rows - 10 else rows)
  | some limit =>
      part + 10 + (if met = 0 then 0 else 6) + Estimate.search (min limit rows)

def extended (goal : Goal) (rows : Estimate) (path : Path) (way : Way) : Option Path :=
  let self := Places.single way.place
  if !Places.within way.needs path.done ∨ !Places.disjoint self path.done then none
  else if way.isLookup ∧ path.rows < 3 then none
  else
    let each := way.run + path.rows
    let here := if way.setup = 0 then each else Estimate.sum way.setup each
    let unsorted := Estimate.sum here path.unsorted
    let ways := path.ways ++ [way]
    let (ordered, reversed) := match path.ordered with
      | some count => (some count, path.reversed)
      | none => goal.satisfied ways
    let isSorted := ordered.all fun count => decide (goal.order.length ≤ count)
    some
      { ways := ways
        done := path.done ||| self
        rows := path.rows + way.rows
        cost :=
          if isSorted then unsorted
          else Estimate.sum unsorted (goal.sortingCost rows (ordered.getD 0)) + 3
        unsorted := if isSorted then unsorted - 2 else unsorted
        ordered := ordered
        reversed := reversed }

end Goal

/-! ### The best path -/

namespace Path

def isNoWorse (old new : Path) : Bool :=
  if old.cost ≠ new.cost then decide (old.cost < new.cost)
  else if old.rows ≠ new.rows then decide (old.rows < new.rows)
  else if old.unsorted ≠ new.unsorted then decide (old.unsorted < new.unsorted)
  else
    match (old.ways.getLast?).bind Way.index?, (new.ways.getLast?).bind Way.index? with
    | some a, some b => decide (a.size ≤ b.size)
    | _, _ => true

def worst (paths : List Path) : Nat × Estimate × Estimate :=
  let start := match paths with
    | first :: _ => (0, first.cost, first.rows)
    | [] => (0, 0, 0)
  (paths.zipIdx.drop 1).foldl
    (fun (index, cost, unsorted) (path, position) =>
      if cost < path.cost ∨ (path.cost = cost ∧ unsorted < path.unsorted) then
        (position, path.cost, path.unsorted)
      else (index, cost, unsorted))
    start

def keep (most : Nat) (isLast : Bool) (best : List Path) (path : Path) : List Path :=
  match best.findIdx? fun other =>
      other.done == path.done && (isLast || other.ordered.isSome == path.ordered.isSome) with
  | some index =>
      if ((best[index]?).any fun other => isNoWorse other path) then best else best.set index path
  | none =>
      if best.length < most then best ++ [path]
      else
        let (index, cost, unsorted) := worst best
        if cost < path.cost ∨ (path.cost = cost ∧ unsorted ≤ path.unsorted) then best
        else best.set index path

def further (goal : Goal) (ways : List Way) (rows : Estimate) (most : Nat) (isLast : Bool)
    (paths : List Path) : List Path :=
  paths.foldl
    (fun best path => ways.foldl
      (fun best way =>
        match goal.extended rows path way with
        | some path => keep most isLast best path
        | none => best)
      best)
    []

def longer (goal : Goal) (ways : List Way) (rows : Estimate) (most : Nat) :
    Nat → List Path → List Path
  | 0, paths => paths
  | count + 1, paths =>
      longer goal ways rows most count (further goal ways rows most (count == 0) paths)

def cheapest? (goal : Goal) (ways : List Way) (rows : Estimate) : Option Path :=
  let count := goal.numbers.length
  let most := if count ≤ 1 then 1 else if count = 2 then 5 else 12
  let start : Path := { ordered := if goal.order.isEmpty then some 0 else none }
  (longer goal ways rows most count [start]).foldl
    (fun best path =>
      match best with
      | some other => if path.cost < other.cost then some path else best
      | none => some path)
    none

/-- The ways that are left when the first sources of a path are found by equality: other ways to
them are no longer thought of, unless conditions narrow them down. -/
def favoured (path : Path) (ways : List Way) : List Way :=
  let places := (path.ways.takeWhile fun way => !way.isHosted && 0 < way.equals).map (·.place)
  ways.filter fun way => !places.contains way.place || !way.terms.isEmpty || way.isHosted

/-- The best path through all sources. Without the order in mind first, and then with it. -/
def best? (goal : Goal) (ways : List Way) : Option Path := do
  let plain ← cheapest? { goal with order := [] } ways 0
  if goal.order.isEmpty then return plain
  else cheapest? goal (plain.favoured ways) (if plain.rows < 0 then 1 else plain.rows + 1)

end Path

end RowSource.Sql
