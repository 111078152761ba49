import RowSource.Sql.Seats

/-!
# Compiling queries

From a query to its plan. Every way to every source of an arm is thought of, and the order of its rows is
chosen together with the order of its loops. A host table may turn a plan down because a value is not
there yet; when no order of the sources is left, the query has no solution.
-/

namespace RowSource.Sql

namespace Arm

/-! ### Groups -/

/-- Whether a term is the same for all rows of a group, given what they have in common. -/
def isCommon (groups : List Term) (term : Term) : Bool :=
  let isGroup (term : Term) : Bool :=
    groups.any fun group => group == term && (group.collation?.getD .binary) == .binary
  (term.transform fun part => if isGroup part then .literal .null else part).isConstant

/-- An arm whose conditions on groups are conditions on rows where that makes no difference. -/
def withEarlyConditions (arm : Arm Query) : Arm Query :=
  if !arm.isGrouped then arm
  else
    let (early, late) := arm.having.partition fun term =>
      isCommon arm.groups term && !term.isZero
    { arm with
      conditions := early.foldl withCondition arm.conditions
      having := late ++ early.map fun _ => .literal (.integer 1) }

def isSortedByResults (arm : Arm Query) (order : List OrderKey) : Bool :=
  order.length == arm.results.length && (order.zip arm.results).all fun (key, term) =>
    key.term == term && key.direction == {} && key.order.isNone

/-- Whether the groups of an arm are to be sorted by what their rows have in common. -/
def isSortedByGroups (arm : Arm Query) (order : List OrderKey) : Bool :=
  order.length == arm.groups.length && (order.zip arm.groups).all fun (key, term) =>
    key.term == term && !key.direction.nullsLarge

def groupKeys (arm : Arm Query) (order : List OrderKey) : List OrderKey :=
  if arm.isSortedByGroups order then
    (arm.groups.zip order).map fun (term, key) =>
      { term := term, direction := { descending := key.direction.descending }, copy := none }
  else arm.groups.map fun term => { term := term, direction := {}, copy := none }

/-- What the rows of an arm are sorted by so that the first one has the least or the greatest value of
the only function over all rows. -/
def extremeKeys (arm : Arm Query) : List OrderKey :=
  match arm.totals with
  | [total] =>
      match total.function, total.arguments with
      | .least, [term] | .greatest, [term] =>
          if arm.having.isEmpty && total.filter.isNone then
            let direction : Direction :=
              if total.function = .greatest then { descending := true }
              else if term.isFilled then {}
              else { nullsFirst := some false }
            [{ term := term, direction := direction, copy := none }]
          else []
      | _, _ => []
  | _ => []

/-- Whether the rows of an arm are all different: they show the identifiers of those of its only
source. -/
def isDistinctAnyway (arm : Arm Query) : Bool :=
  arm.sources.length == 1 && arm.results.any fun term =>
    match term.bare with
    | .column ref => ref.position.isNone && arm.sources.any fun source => source.number == ref.source
    | _ => false

def distinctColumns (terms : List Term) : List ColumnRef :=
  (terms.flatMap Term.columns).foldl
    (fun known ref => if (known.any fun other => other.isSame ref) then known else known ++ [ref])
    []

def bareColumns (arm : Arm Query) (order : List OrderKey) : List ColumnRef :=
  if arm.isAggregate then
    distinctColumns (arm.results ++ order.map (·.term) ++ arm.having)
  else []

def keptColumns (arm : Arm Query) (order : List OrderKey) : List ColumnRef :=
  let all := distinctColumns (arm.results ++ order.map (·.term) ++ arm.having ++
    arm.totals.flatMap Aggregate.terms)
  all.filter fun ref => !arm.groups.any fun term =>
    match term with
    | .column key => key.isSame ref
    | _ => false

end Arm

namespace Compiling

/-! ### Arms -/

/-- The estimate of a limit, if it is known and less than what any query may have. -/
def limitEstimate? (limit : Option Int) : Option Estimate :=
  limit.bind fun count =>
    let estimate := Estimate.ofCount count.toNat
    if 0 < count ∧ estimate < Estimate.query then some estimate else none

/-- How many groups there are thought to be at most. -/
def groupEstimate : Estimate := 66

structure Asked where
  keys : List OrderKey
  arrangement : Arrangement := .sorted
  limit : Option Estimate := none

/-- What is asked of the order of the rows of an arm, which may once have been one that gives equal rows
once. -/
def asked (arm : Arm Query) (order : List OrderKey) (limit : Option Estimate)
    (wasDistinct : Bool) : Asked :=
  if arm.isGrouped then
    ⟨arm.groupKeys order, if wasDistinct then .distinct else .grouped, none⟩
  else if arm.isAggregate then { keys := arm.extremeKeys }
  else if arm.isDistinct && order.isEmpty && !arm.isDistinctAnyway then
    ⟨arm.results.map fun term => { term := term, direction := {}, copy := none }, .distinct, limit⟩
  else { keys := order, limit := limit }

/-- The order in which groups still have to be sorted, and the path on which they come in groups. -/
def groupOrder (goal : Goal) (arm : Arm Query) (order : List OrderKey) (path : Path) :
    List OrderKey × Path :=
  let inOrder := path.ordered == some goal.order.length
  if !arm.isGrouped || !arm.isSortedByGroups order then (order, path)
  else if !inOrder then ([], path)
  else
    let (met, reversed) := { goal with arrangement := .sorted }.satisfied path.ways
    if met == some goal.order.length && !path.ways.isEmpty then
      ([], { path with reversed := reversed })
    else (order, path)

def plannedArm (planner : Planner) (mode : SortMode) (context : Context) (query : Query)
    (arm : Arm Query) : Compiling Planned := do
  let arm := { arm with conditions := withFixedColumns arm.conditions }
  let seats ← seated planner context arm query.order {} arm.sources
  refuseOversized context (query.limit.toList ++ query.offset.toList)
  let wasDistinct := arm.isDistinct && !arm.isAggregate && arm.isSortedByResults query.order
  let arm := if wasDistinct then
      { arm with isDistinct := false, isGrouped := true, groups := arm.results }
    else arm.withEarlyConditions
  let sighting := sightingOf arm
  let conditions := sighting.analysed (← placedConditions context arm)
  let limit := limitEstimate? query.fixedLimit?
  let asked := asked arm query.order limit wasDistinct
  let goal : Goal :=
    { numbers := sighting.numbers
      columns := arm.sources.map (·.columns)
      conditions := conditions
      order := asked.keys
      arrangement := asked.arrangement
      sorted := seats.sorted
      width := arm.results.length
      limit := asked.limit }
  let wishes : Wishes :=
    { conditions := conditions, order := asked.keys.filterMap fun key => key.term.column? }
  let path ← bestPath wishes goal arm seats
  refuseTotals context arm
  refuseOversized context (arm.terms query.order)
  let (order, path) := groupOrder goal arm query.order path
  let used := (arm.results ++ order.map (·.term)).foldl
    (fun places term => places ||| sighting.needs term) 0
  let outer := (arm.sources.zipIdx.filter fun entry => entry.1.outer.isSome).map (·.2)
  let path := if arm.isAggregate then path
    else path.withoutIdle conditions outer used arm.isDistinct
  let (first, loops) := path.loops conditions seats.sources
  let met := path.ordered.getD 0
  let inOrder := asked.keys.length ≤ met
  let grouping : Grouping := ⟨asked.keys, inOrder, arm.keptColumns query.order⟩
  let isPlain := !arm.isAggregate && !(arm.isDistinct && query.order.isEmpty)
  let part : Part QueryPlan :=
    { kept := seats.kept
      conditions := first
      loops := loops
      results := arm.results
      totals := arm.totals
      bare := arm.bareColumns query.order
      grouping := if arm.isGrouped then some grouping else none
      having := arm.having
      isSettledByFirst := !arm.isGrouped && !asked.keys.isEmpty && arm.isAggregate && inOrder &&
        !conditions.any Condition.isChoice
      isDistinct := arm.isDistinct && !arm.isDistinctAnyway
      keys := if arm.isAggregate then (if arm.isGrouped then order else [])
        else if isPlain && inOrder then [] else query.order
      met := if isPlain then met else 0
      mode := if arm.isDistinct then .whole else mode }
  let most := limit.getD Estimate.query
  let rows :=
    if arm.isGrouped then min most groupEstimate
    else if arm.isAggregate || arm.sources.isEmpty then 0
    else min most path.rows
  return {
    plan :=
      { parts := [part], links := [], order := [], limit := query.limit, offset := query.offset
        depth := seats.depth + 1 }
    rows := rows
    order := query.order }

/-! ### Queries -/

def columnKeys (query : Query) : List CommonKey :=
  query.collations.zipIdx.map fun (collation, position) =>
    ⟨position, {}, collation.getD .binary⟩

def commonKeys (query : Query) : List CommonKey :=
  query.order.map fun key => ⟨key.copy.getD 0, key.direction, key.collation⟩

/-- An arm of a query as a query of its own. Its rows are sorted by all columns if they are to be
compared with those of other arms. -/
def armAlone (query : Query) (arm : Arm Query) : Query :=
  let keys := commonKeys query
  let others := if query.isConcatenation then []
    else (columnKeys query).filter fun key => !keys.any fun known => known.position == key.position
  { query with
    arms := [arm]
    links := []
    order := (keys ++ others).map fun key =>
      { term := (arm.results[key.position]?).getD (.literal .null), direction := key.direction
        copy := some key.position, order := some key.collation }
    limit := none
    offset := none }

/-- Plans arms one after another. Only the first one can work its results out late, unless all rows
are sorted together. -/
def plannedArms (planner : Planner) (mode : SortMode) (context : Context) (query : Query) :
    List (Arm Query) → Compiling (List Planned)
  | [] => return []
  | arm :: rest => do
      let own := if query.order.isEmpty && query.isConcatenation then mode else .late
      let here ← planner own context (armAlone query arm)
      let later := if mode = .late then .early else mode
      return here :: (← plannedArms planner later context query rest)

/-- How many rows two arms are thought to have together. -/
def linkedRows (link : Compound) (left right : Estimate) : Estimate :=
  match link with
  | .unionAll | .union => Estimate.sum left right
  | .intersect => min left right
  | .except => left

def together (query : Query) (arms : List Planned) : Planned :=
  let rows := match arms with
    | [] => 0
    | first :: rest =>
        (query.links.zip rest).foldl (fun rows (link, arm) => linkedRows link rows arm.rows)
          first.rows
  { plan :=
      { parts := arms.flatMap fun arm => arm.plan.parts
        links := query.links
        order := commonKeys query
        columns := columnKeys query
        limit := query.limit
        offset := query.offset
        depth := (arms.map fun arm => arm.plan.depth).foldl max 1 }
    rows := min rows ((limitEstimate? query.fixedLimit?).getD rows)
    order := query.order }

/-- Plans a query. Every step either takes a query apart, after a view has been merged into it, or
goes on to the query of a view. -/
def plannedTo : Nat → Planner
  | 0 => fun _ _ _ => fail (.failed 1 none)
  | fuel + 1 => fun mode context query => do
      let query ← if query.arms.length = 1 then merged context query else pure query
      match query.arms with
      | [arm] => plannedArm (plannedTo fuel) mode context query arm
      | arms => do
          refuseOversized context (query.limit.toList ++ query.offset.toList)
          return together query (← plannedArms (plannedTo fuel) mode context query arms)

def planned (mode : SortMode) (context : Context) (query : Query) : Compiling Planned :=
  plannedTo (2 * query.views + 3) mode context query

/-- Compiles a query whose names are resolved. What it reads includes what the queries within its terms
read. -/
def compiled (context : Context) (mode : SortMode) (named : NamedQuery) :
    Compiling CompiledQuery := do
  let query := named.query
  let planned ← planned mode context query
  let (tables, hosts) := Query.reading (query :: (← get).queries)
  return {
    plan := planned.plan
    names := named.names
    shape := query.shape
    isReading := (query.arms.any fun arm => !arm.sources.isEmpty) || !tables.isEmpty ||
      !hosts.isEmpty
    readsMain := !hosts.isEmpty || tables.any fun id => id.schema == .main
    tables := tables
    hosts := hosts }

def query (context : Context) (mode : SortMode) (select : Select) : Compiling CompiledQuery := do
  compiled context mode (← resolved context select)

def innerPlans (context : Context) : Compiling (List QueryPlan) := do
  (← get).queries.mapM fun query => do return (← planned .early context query).plan

/-! ### Changes -/

/-- The loops over the rows of some sources that are to be changed, with the conditions that are checked
before. -/
def changeLoops (context : Context) (source : Source Query) (conditions : List Term) :
    Compiling (List Term × List (Loop QueryPlan)) := do
  refuseOversized context conditions
  let arm : Arm Query :=
    { results := [], sources := [source], conditions := conditions, totals := []
      isComplex := false, isCompound := false }
  let sighting := sightingOf arm
  let conditions := sighting.analysed (conditions.map fun term => (none, term))
  let seats ← seated (fun _ _ _ => fail (.failed 1 none)) context arm [] {} arm.sources
  let wishes : Wishes := { conditions := conditions, changing := true }
  let goal : Goal :=
    { numbers := sighting.numbers, columns := [source.columns], conditions := conditions }
  let path ← bestPath wishes goal arm seats
  return path.loops conditions seats.sources

end Compiling

end RowSource.Sql
