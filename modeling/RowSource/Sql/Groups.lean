import RowSource.Sql.Rows
import RowSource.Sql.Sorter
import RowSource.Sql.Tally

/-!
# Groups of rows

One row for several. The rows of a group follow each other, or else they are sorted first; then only the
columns are kept that are needed. Columns beside functions over all rows are those of the first row of
a group, or of the row that has the least or the greatest value if there is a function for that.
-/

namespace RowSource.Sql

namespace Aggregate

def isExtreme (aggregate : Aggregate) : Bool :=
  aggregate.function == .least || aggregate.function == .greatest

/-- Takes the current row, and tells whether a function for the least or the greatest value takes the
columns of that row. -/
def take (env : Environment) (isFirst : Bool) (aggregate : Aggregate) (tally : Tally) :
    Executing (Tally × Option Bool) := do
  let isTaken ← match aggregate.filter with
    | none => pure true
    | some condition => decides env true condition
  if !isTaken then return (tally, if aggregate.isExtreme then some isFirst else none)
  else
    let keys ← evaluateAll env (aggregate.order.map (·.1))
    let values ← evaluateAll env aggregate.arguments
    let value := values.headD .null
    if aggregate.isDistinct && tally.hasSeen aggregate.collation value then return (tally, none)
    else
      let tally := if aggregate.isDistinct then { tally with seen := value :: tally.seen } else tally
      if aggregate.order.isEmpty then
        let (tally, isBest) := tally.take aggregate.function aggregate.collation values
        return (tally, if aggregate.isExtreme then some isBest else none)
      else return ({ tally with waiting := (keys, values) :: tally.waiting }, none)

/-- Takes the rows that were waiting, in their order. -/
def takeWaiting (aggregate : Aggregate) (tally : Tally) : Tally :=
  let keyed := tally.waiting.reverse.map fun (keys, values) =>
    ((aggregate.order.zip keys).map fun ((term, direction), value) =>
      (⟨value, direction, (Term.collation? term).getD .binary⟩ : SortValue), values)
  (keyed.mergeSort fun a b => keysInOrder a.1 b.1).foldl
    (fun tally entry => (tally.take aggregate.function aggregate.collation entry.2).1) tally

end Aggregate

structure Totals where
  tallies : List (Aggregate × Tally)
  /-- The columns that are needed beside functions over all rows. -/
  bare : Option (List (ColumnRef × Datum)) := none

namespace Totals

def start (totals : List Aggregate) : Totals := { tallies := totals.map fun total => (total, {}) }

/-- Adds the current row to functions over all rows. The last function for the least or the greatest
value decides whether the columns of the row count. -/
def addTo (env : Environment) (isFirst : Bool) :
    List (Aggregate × Tally) → Option Bool → Executing (List (Aggregate × Tally) × Option Bool)
  | [], decision => return ([], decision)
  | (aggregate, tally) :: rest, decision => do
      let (tally, own) ← aggregate.take env isFirst tally
      let (rest, decision) ← addTo env isFirst rest (own <|> decision)
      return ((aggregate, tally) :: rest, decision)

def add (bare : List ColumnRef) (env : Environment) (totals : Totals) : Executing Totals := do
  let isFirst := totals.bare.isNone
  let (tallies, decision) ← addTo env isFirst totals.tallies none
  if decision.getD isFirst then
    let values ← evaluateAll env (bare.map .column)
    return ⟨tallies, some (bare.zip values)⟩
  else return { totals with tallies := tallies }

def values : List (Aggregate × Tally) → Except EngineFault (List Datum)
  | [] => .ok []
  | (aggregate, tally) :: rest => do
      let value ← (aggregate.takeWaiting tally).value aggregate.function
      return value :: (← values rest)

end Totals

section Groups

variable {S : Type}

def visitTotals (part : Part QueryPlan) (visit : Visit S) (env : Environment) (totals : Totals)
    (state : S) : Executing (S × Bool) := do
  let values ← Executing.ofExcept (Totals.values totals.tallies)
  let env := { env.capturing (totals.bare.getD []) with totals := values }
  if ← holdAll env part.having then visit env state else return (state, true)

def onlyRow (run : Runner) (part : Part QueryPlan) (visit : Visit S) : Visit S := fun env state => do
  let (totals, _) ← eachRow run part
    (fun env totals => do
      return (← totals.add part.bare env, !part.isSettledByFirst))
    env (Totals.start part.totals)
  visitTotals part visit env totals state

structure Group (S : Type) where
  keys : Option (List SortValue) := none
  totals : Totals
  state : S
  isWanted : Bool := true

/-- Takes a row with its keys. If they are those of another group, the one before is complete. -/
def Group.add (part : Part QueryPlan) (visit : Visit S) (outside : Environment) (group : Group S)
    (env : Environment) (keys : List SortValue) : Executing (Group S) := do
  let isSame := group.keys.all fun known => compareKeys known keys == .eq
  let group ← if isSame then pure group else do
    let (state, isWanted) ← visitTotals part visit outside group.totals group.state
    pure { totals := Totals.start part.totals, state := state, isWanted := isWanted }
  if group.isWanted then
    return { group with keys := some (group.keys.getD keys), totals := ← group.totals.add part.bare env }
  else return group

def Group.close (part : Part QueryPlan) (visit : Visit S) (outside : Environment)
    (group : Group S) : Executing (S × Bool) := do
  if group.keys.isSome && group.isWanted then
    visitTotals part visit outside group.totals group.state
  else return (group.state, group.isWanted)

def sortValues (keys : List OrderKey) (values : List Datum) : List SortValue :=
  (keys.zip values).map fun (key, value) => ⟨value, key.direction, key.collation⟩

def keyColumns (keys : List OrderKey) (values : List Datum) : List (ColumnRef × Datum) :=
  (keys.zip values).filterMap fun (key, value) => key.term.column?.map fun ref => (ref, value)

def eachGroup (run : Runner) (part : Part QueryPlan) (grouping : Grouping) (visit : Visit S) :
    Visit S := fun outside state => do
  let start : Group S := { totals := Totals.start part.totals, state := state }
  let terms := grouping.keys.map (·.term)
  if grouping.inOrder then
    let (group, _) ← eachRow run part
      (fun env group => do
        let values ← evaluateAll env terms
        let group ← group.add part visit outside env (sortValues grouping.keys values)
        return (group, group.isWanted))
      outside start
    group.close part visit outside
  else
    let (rows, _) ← eachRow run part
      (fun env rows => do
        let values ← evaluateAll env terms
        let columns ← evaluateAll env (grouping.columns.map .column)
        let captured := keyColumns grouping.keys values ++ grouping.columns.zip columns
        return ((sortValues grouping.keys values, captured) :: rows, true))
      outside ([] : List (List SortValue × List (ColumnRef × Datum)))
    let sorted := rows.reverse.mergeSort fun a b => keysInOrder a.1 b.1
    let (group, _) ← eachOfList
      (fun (keys, captured) group => do
        let group ← Group.add part visit outside group (outside.capturing captured) keys
        return (group, group.isWanted))
      sorted start
    group.close part visit outside

def eachOfPart (run : Runner) (part : Part QueryPlan) (visit : Visit S) : Visit S :=
  fun env state => do
    keepAll run env part.kept
    match part.grouping with
    | some grouping => eachGroup run part grouping visit env state
    | none =>
        if part.totals.isEmpty then eachRow run part visit env state
        else onlyRow run part visit env state

end Groups

end RowSource.Sql
