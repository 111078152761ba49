import RowSource.Sql.Fixed
import RowSource.Sql.Loops
import RowSource.Sql.Merge
import RowSource.Sql.Way.Hosted

/-!
# Seats

The sources of an arm as its loops will read them. Queries that are left after merging are planned
before the query that reads them. Their rows are gone through anew each time, or kept.
-/

namespace RowSource.Sql

namespace Compiling

structure Planned where
  plan : QueryPlan
  rows : Estimate
  order : List OrderKey

abbrev Planner := SortMode → Context → Query → Compiling Planned

/-! ### Refusals -/

def refuseOversized (context : Context) (terms : List Term) : Compiling Unit :=
  match terms.findSome? Term.oversized? with
  | some (source, place) =>
      complain context { message := "hex literal too big: " ++ source, place := place }
  | none => return

def refuseTotals (context : Context) (arm : Arm Query) : Compiling Unit :=
  match (arm.conditions.flatMap Term.totals).head?.bind fun index => arm.totals[index]? with
  | some total =>
      complain context { message := "misuse of aggregate: " ++ total.name ++ "()"
                         place := total.place }
  | none => return

/-! ### Sources -/

/-- A query whose rows are kept, under the name of the view that it is the query of. -/
structure KeptView where
  view : String
  slot : Nat
  rows : Estimate

/-- The sources of an arm that were gone through, with the queries that come before the arm. -/
structure Seats where
  sources : List (LoopSource QueryPlan) := []
  kept : List (Kept QueryPlan) := []
  sorted : List (Nat × List OrderKey × Bool) := []
  views : List KeptView := []
  depth : Nat := 0

def isUnchanged (view : String) (source : Source Query) : Bool :=
  match source.origin with
  | .derived (some name) query => sameName name view && !query.isChanged
  | _ => false

/-- Whether a source has to be read after those before it. -/
def followsOthers (source : Source Query) : Bool := source.crossed || source.outer.isSome

/-- Whether the query at a place is run anew whenever its rows are gone through. The rows of a view that
is named again are kept, as are those of a query after another one or after a source that has to be
read first. -/
def isRunAnew (sources : List (Source Query)) (place : Nat) (view : Option String)
    (query : Query) : Bool :=
  let before := sources.take place
  let isNamedAgain := !query.isChanged && view.any fun view =>
    (sources.drop (place + 1)).any (isUnchanged view)
  !isNamedAgain && (place == 0 ||
    ((sources.take (place + 1)).all (fun source => !followsOthers source) &&
      before.all fun source => source.query?.isNone))

def Seats.add (seats : Seats) (source : Source Query) (base : Origin.Base QueryPlan)
    (table : Option Table) (rows : Estimate) (isDependent : Bool := false) : Seats :=
  { seats with sources := seats.sources ++
      [{ number := source.number
         base := base
         stored :=
           { place := seats.sources.length, table := table, columns := source.columns
             used := source.used, rows := rows, isOuter := source.outer.isSome
             hint := source.hint, isDependent := isDependent } }] }

/-- Adds a query. Rows that are kept already are not kept twice. -/
def Seats.withQuery (planner : Planner) (context : Context) (arm : Arm Query) (seats : Seats)
    (source : Source Query) (view : Option String) (query : Query) : Compiling Seats := do
  let place := seats.sources.length
  let isDependent := query.takesOuter
  let earlier := if query.isChanged then none
    else seats.views.find? fun known => view.any (sameName known.view)
  if isRunAnew arm.sources place view query then
    let planned ← planner .late context query
    let seats := seats.add source (.derived planned.plan) none planned.rows isDependent
    return { seats with
      sorted := seats.sorted ++ [(place, planned.order, false)]
      depth := max seats.depth planned.plan.depth }
  else
    match earlier with
    | some known =>
        let seats := seats.add source (.kept known.slot) none known.rows isDependent
        return { seats with sorted := seats.sorted ++ [(place, query.order, true)] }
    | none =>
        let planned ← planner .whole context query
        let slot := source.number
        let seats := seats.add source (.kept slot) none planned.rows isDependent
        let views := if query.isChanged then []
          else view.toList.map fun view => (⟨view, slot, planned.rows⟩ : KeptView)
        return { seats with
          kept := seats.kept ++ [⟨slot, planned.plan, isDependent⟩]
          sorted := seats.sorted ++ [(place, planned.order, true)]
          views := seats.views ++ views
          depth := max seats.depth planned.plan.depth }

def seated (planner : Planner) (context : Context) (arm : Arm Query) (order : List OrderKey)
    (seats : Seats) : List (Source Query) → Compiling Seats
  | [] => return seats
  | source :: rest => do
      let seats ← match source.origin with
        | .stored id table => pure (seats.add source (.stored id) (some table) Estimate.table)
        | .hosted table => pure (seats.add source (.hosted table.number) none 0)
        | .derived view query =>
            seats.withQuery planner context arm source view (arm.prepared order source query)
      seated planner context arm order seats rest

/-! ### Conditions -/

def joinPlace (source : Source Query) (place : Nat) : Option Nat :=
  source.outer.map fun _ => place

def argumentConditions (context : Context) (source : Source Query) (place : Nat) :
    Compiling (List (Option Nat × Term)) := do
  let hidden := source.columns.zipIdx.filter fun entry => entry.1.hidden
  if hidden.length < source.arguments.length then
    let name := match source.origin with
      | .hosted table => table.name
      | _ => ""
    let most := toString hidden.length
    complain context { message := "too many arguments on " ++ name ++ "() - max " ++ most }
  else
    return (hidden.zip source.arguments).map fun ((column, position), argument) =>
      (joinPlace source place,
        .binary .eq (.column (source.ref position column)) (.unary .identity argument))

/-- The conditions of an arm, each with the place of the source that it joins if it belongs to one. -/
def placedConditions (context : Context) (arm : Arm Query) :
    Compiling (List (Option Nat × Term)) := do
  let arguments ← arm.sources.zipIdx.mapM fun (source, place) =>
    argumentConditions context source place
  let joining := arm.sources.zipIdx.flatMap fun (source, place) =>
    (source.outer.getD []).map fun term => (some place, term)
  return arm.conditions.map (fun term => (none, term)) ++ joining ++ arguments.flatten

def sightingOf (arm : Arm Query) : Sighting where
  numbers := arm.sources.map (·.number)
  hosted := arm.hosted

/-! ### Ways -/

def followersOf (sources : List (Source Query)) (place : Nat) : Places :=
  let later := sources.zipIdx.drop (place + 1)
  (later.dropWhile fun entry => !followsOthers entry.1).foldl
    (fun places entry => places ||| Places.single entry.2) 0

def allWays (wishes : Wishes) (all : List (Source Query)) (seats : Seats) (place : Nat)
    (before : Places) (ways : List Way) : List (Source Query) → Compiling (List Way)
  | [] => return ways
  | source :: rest => do
      let needs := if followsOthers source then before else 0
      let ways ← match source.origin, seats.sources[place]? with
        | .hosted table, _ =>
            let offers := Offer.ofConditions place source.outer.isSome (followersOf all place)
              wishes.conditions
            hostedWays table place needs offers (twoTo all.length - 1) ways
        | _, some seat => pure (seat.stored.ways wishes needs source.number ways)
        | _, none => pure ways
      allWays wishes all seats (place + 1) (before ||| Places.single place) ways rest

def bestPath (wishes : Wishes) (goal : Goal) (arm : Arm Query) (seats : Seats) :
    Compiling Path := do
  let direct := match seats.sources with
    | [seat] => seat.stored.direct? wishes
    | _ => none
  match direct with
  | some way =>
      return { ways := [way], rows := way.rows, ordered := some goal.order.length }
  | none =>
      if seats.sources.isEmpty then return { ordered := some goal.order.length }
      else
        let ways ← allWays wishes arm.sources seats 0 0 [] arm.sources
        match Path.best? goal ways with
        | some path => return path
        | none => fail (.failed 1 (some "no query solution"))

end Compiling

end RowSource.Sql
