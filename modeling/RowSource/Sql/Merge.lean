import RowSource.Sql.Resolve
import RowSource.Sql.Strength

/-!
# Merging queries

A query that another one reads is read as if its tables stood there themselves, if it is plain enough.
What is left of such queries gets the conditions that speak of it alone, and no longer works out the
columns that nobody uses.
-/

namespace RowSource.Sql

/-! ### Which queries can be merged -/

/-- Whether two terms have the same affinity. A column of a view that has none is of a kind of its
own. -/
def sameAffinity (a b : Term) : Bool :=
  a.affinity? == b.affinity? &&
    (a.affinity?.isSome || a.standsFor?.isSome == b.standsFor?.isSome)

/-- Whether the columns of a query have the same affinities in all its arms. -/
def Query.isUniform (query : Query) : Bool :=
  match query.arms with
  | [] => true
  | first :: rest => rest.all fun arm => (first.results.zip arm.results).all fun (a, b) =>
      sameAffinity a b

/-- Whether an arm gives one row for several, or equal rows once. -/
def Arm.isCondensed (arm : Arm Query) : Bool := arm.isAggregate || arm.isDistinct

/-- Whether a query can be merged into a simple query that reads it. -/
def Query.admits (outer : Query) (arm : Arm Query) (inner : Query) : Bool :=
  let joined := decide (1 < arm.sources.length)
  let unlimited := inner.limit.isNone ||
    (outer.limit.isNone && !arm.isCompound && !joined && !arm.isCondensed && arm.conditions.isEmpty)
  let ordered := inner.order.isEmpty || (outer.order.isEmpty && !arm.isAggregate)
  let several := inner.arms.length ≤ 1 ||
    (inner.order.isEmpty && !arm.isCondensed && inner.isConcatenation &&
      inner.arms.all (fun part => !part.isCondensed) &&
      outer.order.all (fun key => key.copy.isSome) && inner.isUniform)
  unlimited && inner.offset.isNone && ordered && several &&
    inner.arms.all fun part => !part.sources.isEmpty && !part.isDistinct

/-! ### Copies -/

def Term.renumbered (numbers : List (Nat × Nat)) (term : Term) : Term :=
  term.substitute fun ref =>
    match numbers.lookup ref.source with
    | some number => .column { ref with source := number }
    | none => .column ref

namespace Compiling

/-- New numbers for the sources of an arm but one, given how the queries in it get them. -/
def renumberedArm (inner : Query → Compiling Query) (kept : Option Nat) (arm : Arm Query) :
    Compiling (Arm Query × List (Nat × Nat)) := do
  let sources ← arm.sources.mapM fun source => do
    if some source.number = kept then return (source, (source.number, source.number))
    else
      let number ← fresh
      let renewed := match source.query? with
        | some query => do return source.withQuery (← inner query)
        | none => pure source
      return ({ (← renewed) with number := number }, (source.number, number))
  let numbers := sources.map (·.2)
  let moved : Arm Query := { arm with sources := sources.map (·.1) }
  return (moved.substitute fun ref => Term.renumbered numbers (.column ref), numbers)

def renumbered : Nat → Query → Compiling Query
  | 0, query => return query
  | fuel + 1, query => do
      let arms ← query.arms.mapM (renumberedArm (renumbered fuel) none)
      let numbers := arms.flatMap (·.2)
      return { query with
        arms := arms.map (·.1)
        order := query.order.map fun key => key.substitute fun ref =>
          Term.renumbered numbers (.column ref) }

end Compiling

/-! ### Merging -/

def Term.isOrdered : Term → Bool
  | .column _ | .collate _ _ _ => true
  | _ => false

/-- A result in the order of texts of the column that it is. It asks for that order no longer. -/
def Term.inColumn (term : Term) (collation : Option Collation) : Term :=
  match term with
  | .collate operand own _ =>
      if some own = collation then .collate operand own false
      else .collate (.collate operand own false) (collation.getD .binary) false
  | _ =>
      if term.isOrdered && term.collation? == collation then term
      else .collate term (collation.getD .binary) false

/-- What the columns of a query, whose orders of texts are given, stand for in one of its arms. -/
def Arm.meaning (arm : Arm Query) (collations : List (Option Collation)) (number : Nat)
    (ref : ColumnRef) : Term :=
  match if ref.source = number then ref.position else none with
  | some position =>
      match arm.results[position]? with
      | some term => term.inColumn (collations.getD position none)
      | none => .column ref
  | none => .column ref

/-- An arm with the sources and conditions of an arm of another query in place of that query. -/
def Arm.merged (outer : Arm Query) (position : Nat) (view : Source Query) (inner : Arm Query)
    (meaning : ColumnRef → Term) : Arm Query :=
  let here := match inner.sources with
    | [] => []
    | first :: rest => { first with crossed := first.crossed || view.crossed } :: rest
  let substituted := outer.substitute meaning
  { substituted with
    sources := substituted.sources.take position ++ here ++ substituted.sources.drop (position + 1)
    conditions := inner.conditions ++ substituted.conditions
    isCompound := outer.isCompound || inner.isCompound }

namespace Compiling

/-- Merges a query into a simple query that reads it at some position. There is an arm for every arm of
the merged query. -/
def mergedQuery (outer : Query) (arm : Arm Query) (position : Nat) (view : Source Query)
    (inner : Query) : Compiling Query := do
  let last := inner.arms.length - 1
  let meaning (part : Arm Query) : ColumnRef → Term := part.meaning inner.collations view.number
  let arms : List (Arm Query × Arm Query) ← inner.arms.zipIdx.mapM fun (part, index) => do
    let host ←
      if index = last then pure arm
      else Prod.fst <$> renumberedArm (renumbered outer.views) (some view.number) arm
    return (host.merged position view part (meaning part), part)
  let order := match arms with
    | [(_, part)] =>
        outer.order.map (fun key => key.substitute (meaning part)) ++
          inner.order.map fun key => { key with copy := none }
    | _ => outer.order
  return { outer with
    arms := arms.map fun (merged, part) =>
      merged.withUsed (if inner.arms.length = 1 then order else [])
        (part.sources.map fun source => source.number)
    links := if arms.length ≤ 1 then [] else inner.links
    order := order
    limit := inner.limit <|> outer.limit }

/-- Whether the value of a function over all rows does not depend on their order. -/
def isUnordered : Summary → Bool
  | .count | .least | .greatest => true
  | _ => false

/-- A query without an order that does not matter to the query that reads it. -/
def withoutIdleOrder (outer : Query) (arm : Arm Query) (inner : Query) : Query :=
  if (!outer.order.isEmpty || 1 < arm.sources.length) && inner.limit.isNone &&
      arm.totals.all fun total => isUnordered total.function then
    { inner with order := [] }
  else inner

/-- Whether an order would be lost on a query that calls functions in its results. -/
def keepsOrder (arm : Arm Query) (position : Nat) (inner : Query) : Bool :=
  !inner.order.isEmpty && position == 0 && arm.isComplex &&
    match arm.sources[1]? with
    | none => true
    | some next => next.crossed || next.outer.isSome

/-- Merges the queries that a simple query reads, one after another from its source at `position` on.
After a merger the sources are gone through anew, unless there are several arms now. -/
def mergedFrom (context : Context) : Nat → Nat → Query → Compiling Query
  | 0, _, outer => return outer
  | fuel + 1, position, outer => do
      match outer.arms with
      | [arm] =>
          let arm := arm.strengthened position
          let outer := { outer with arms := [arm] }
          match arm.sources[position]? with
          | none => return outer
          | some source =>
              match source.origin with
              | .derived view inner => do
                  if inner.width ≠ source.columns.length then
                    let counts := " columns for '" ++ view.getD "" ++ "' but got "
                    complain context { message := "expected " ++ toString source.columns.length ++
                      counts ++ toString inner.width }
                  if (inner.arms.getLast?.any fun part => part.isAggregate) then
                    mergedFrom context fuel (position + 1) outer
                  else
                    let inner := withoutIdleOrder outer arm inner
                    let source := source.withQuery inner
                    let arm := { arm with sources := arm.sources.set position source }
                    if keepsOrder arm position inner || source.outer.isSome ||
                        !outer.admits arm inner then
                      mergedFrom context fuel (position + 1) { outer with arms := [arm] }
                    else
                      mergedFrom context fuel 0 (← mergedQuery outer arm position source inner)
              | _ => mergedFrom context fuel (position + 1) outer
      | _ => return outer

/-- Merges the queries that a simple query reads as far as possible. There are no more mergers than
queries, and no more sources than there were before a merger and the arms of the merged query have
together. -/
def merged (context : Context) (outer : Query) : Compiling Query :=
  let width := (outer.arms.flatMap fun arm => arm.sources).length
  mergedFrom context ((outer.views + 1) * (outer.views + width + 65)) 0 outer

end Compiling

/-! ### What is left of other queries -/

def speaksOf (number : Nat) (condition : Term) : Bool :=
  condition.columns.all (fun ref => ref.source == number) && condition.totals.isEmpty &&
    !condition.varies && !condition.isDependent

/-- A query with a condition on its columns. Where rows are put in groups it is a condition on
groups. -/
def Query.restricted (query : Query) (number : Nat) (condition : Term) : Query :=
  { query with
    isChanged := true
    arms := query.arms.map fun arm =>
      let condition := condition.substitute (arm.meaning query.collations number)
      if arm.isAggregate then { arm with having := withCondition arm.having condition }
      else { arm with conditions := withCondition arm.conditions condition } }

def Query.takesConditions (query : Query) : Bool :=
  query.limit.isNone && (query.isConcatenation ||
    query.arms.all fun arm => arm.results.all fun term =>
      (term.collation?.getD .binary) == .binary)

/-- A query with the conditions that speak of it alone, the last one first. -/
def Query.restrictedBy (query : Query) (number : Nat) (conditions : List Term) : Query :=
  if query.takesConditions then
    (conditions.reverse.filter (speaksOf number)).foldl
      (fun query condition => query.restricted number condition) query
  else query

def Query.trimmed (query : Query) (used : List Nat) : Query :=
  if (query.arms.any fun arm => arm.isCondensed) || !query.isConcatenation then query
  else
    let needed := used ++ query.order.filterMap (·.copy)
    let idle (position : Nat) (term : Term) : Bool :=
      !needed.contains position && term != .literal .null
    if (query.arms.any fun arm => arm.results.zipIdx.any fun (term, position) =>
        idle position term) then
      { query with
        isChanged := true
        arms := query.arms.map fun arm =>
          { arm with results := arm.results.zipIdx.map fun (term, position) =>
              if idle position term then .literal .null else term } }
    else query

/-- Whether a simple query only counts the rows of a query with several arms, each of which just gives
its rows. -/
def Arm.countsRows (arm : Arm Query) (order : List OrderKey) (inner : Query) : Bool :=
  match arm.results, arm.totals with
  | [.total 0 _], [total] =>
      total.function == .count && total.arguments.isEmpty && total.filter.isNone &&
        !arm.isGrouped && arm.conditions.isEmpty && order.isEmpty && arm.having.isEmpty &&
        arm.sources.length == 1 && 1 < inner.arms.length && inner.isConcatenation &&
        inner.limit.isNone && inner.arms.all fun part => part.conditions.isEmpty && !part.isCondensed
  | _, _ => false

def Arm.prepared (arm : Arm Query) (order : List OrderKey) (source : Source Query) (inner : Query) :
    Query :=
  let inner := if arm.countsRows order inner then { inner with order := [] } else inner
  let conditions := source.outer.getD arm.conditions
  (inner.restrictedBy source.number conditions).trimmed source.used

end RowSource.Sql
