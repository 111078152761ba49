import RowSource.Engine.Program
import RowSource.Sql.Function.Apply
import RowSource.Sql.Term
import RowSource.Sql.Transaction

/-!
# Evaluating terms

The value of a term where every source has a current row. A column of a host table is asked for
only when the value is needed, so that a host table may fail in the middle of a term. Queries within
a term are answered by whoever runs the statement.
-/

namespace RowSource.Sql

abbrev Running := Routine Store

def transact (step : Step) : Running Unit :=
  fun store => let (result, store) := step store; .finish result store

structure Memo where
  /-- The rows of queries that were run, by slot. -/
  kept : List (Nat × List StoredRow) := []
  lookups : List (Nat × List StoredRow) := []
  scans : List (Nat × Nat) := []
  /-- The rows of queries within terms that are run but once, by slot. -/
  answers : List (Nat × List (List Datum)) := []

abbrev Executing := StateT Memo Running

namespace Executing

def look {α : Type} (f : Store → α) : Executing α := (Routine.look f : Running α)

def fail {α : Type} (fault : EngineFault) : Executing α := (Routine.fail fault : Running α)

def ofExcept {α : Type} (result : Except EngineFault α) : Executing α :=
  (Routine.ofExcept result : Running α)

def ask (demand : Demand) : Executing demand.Reply := (Routine.ask demand : Running demand.Reply)

end Executing

inductive Current where
  | row (rowid : Int) (values : List Datum)
  /-- A row of a table, as it is by now. -/
  | live (table : TableId) (rowid : Int)
  | scan (scan : Nat)
  | missing

structure Environment where
  connection : Nat := 0
  parameters : List Datum := []
  arguments : List Datum := []
  /-- How often changes to the list of tables had been undone when the statement began. -/
  undone : Nat := 0
  rows : List (Nat × Current) := []
  /-- The results of the functions over all rows. -/
  totals : List Datum := []
  /-- What is kept of the columns, once the rows themselves are gone. -/
  captured : Option (List (ColumnRef × Datum)) := none
  /-- The rows of the query in a slot, given its arguments, and no more of them than are asked for. -/
  answer : Nat → List Datum → Option Nat → Executing (List (List Datum)) := fun _ _ _ => pure []

namespace Environment

def current? (env : Environment) (source : Nat) : Option Current :=
  (env.rows.find? fun entry => entry.1 == source).map (·.2)

def among (captured : List (ColumnRef × Datum)) (ref : ColumnRef) : Datum :=
  ((captured.find? fun entry => entry.1.isSame ref).map (·.2)).getD .null

def outside (env : Environment) : Environment :=
  { env with rows := [], totals := [], captured := none }

def capturing (env : Environment) (captured : List (ColumnRef × Datum)) : Environment :=
  { env with rows := [], captured := some captured }

def withRow (env : Environment) (source : Nat) (current : Current) : Environment :=
  { env with rows := (source, current) :: env.rows.filter fun entry => entry.1 != source }

end Environment

/-! ### Operators -/

def arithmetic (whole : Int → Int → Datum) (real : Binary64 → Binary64 → Binary64)
    (left right : Datum) : Datum :=
  match numberOf left, numberOf right with
  | .null, _ | _, .null => .null
  | .integer i, .integer j => whole i.toInt j.toInt
  | a, b => (Datum.real (real (realOf a) (realOf b))).withoutNaN

def bitwise (operation : Int64 → Int64 → Int64) (left right : Datum) : Datum :=
  if left.isNull || right.isNull then .null
  else .integer (operation (Int64.ofInt (wholeOf left)) (Int64.ofInt (wholeOf right)))

/-- The bits of an integer moved to the left, or to the right by a negative number. -/
def shifted (value : Int64) (count : Int) : Int64 :=
  if 0 ≤ count then
    if 64 ≤ count then 0 else Int64.ofInt (value.toInt * twoTo count.toNat)
  else Int64.ofInt (value.toInt / twoTo (min 64 (-count).toNat))

/-- The remainder of a division of integers, which has the sign of what is divided. -/
def remainder (left right : Datum) : Datum :=
  if left.isNull || right.isNull then .null
  else
    match numberOf left, numberOf right with
    | .integer i, .integer j =>
        if j = 0 then .null else .ofInteger (i.toInt.tmod j.toInt)
    | _, _ =>
        let divisor := wholeOf right
        if divisor = 0 then .null
        else .real (Binary64.ofInt ((wholeOf left).tmod divisor))

def compared (comparison : Comparison) (test : Ordering → Bool) (left right : Datum) : Datum :=
  if left.isNull || right.isNull then .null
  else .ofTruth (some (test (comparison.order left right)))

def operate (comparison : Comparison) (op : BinaryOp) (left right : Datum) : Datum :=
  match op with
  | .eq => compared comparison (· == .eq) left right
  | .ne => compared comparison (· != .eq) left right
  | .lt => compared comparison (· == .lt) left right
  | .le => compared comparison (· != .gt) left right
  | .gt => compared comparison (· == .gt) left right
  | .ge => compared comparison (· != .lt) left right
  | .is => .ofTruth (some (comparison.same left right))
  | .isNot => .ofTruth (some (!comparison.same left right))
  | .bitAnd => bitwise (· &&& ·) left right
  | .bitOr => bitwise (· ||| ·) left right
  | .shiftLeft => bitwise (fun i j => shifted i j.toInt) left right
  | .shiftRight => bitwise (fun i j => shifted i (-j.toInt)) left right
  | .add => arithmetic (fun i j => .ofInteger (i + j)) Binary64.add left right
  | .subtract =>
      arithmetic (fun i j => .ofInteger (i - j)) (fun x y => x.add y.negate) left right
  | .multiply => arithmetic (fun i j => .ofInteger (i * j)) Binary64.multiply left right
  | .divide =>
      arithmetic (fun i j => if j = 0 then .null else .ofInteger (i.tdiv j))
        (fun x y => if y.significand = 0 then Binary64.nan else x.divide y) left right
  | .remainder => remainder left right
  | .concat =>
      match textOf left, textOf right with
      | some a, some b => .text (a ++ b)
      | _, _ => .null
  | .or | .and => .null

def operateOn (op : UnaryOp) (value : Datum) : Datum :=
  match op with
  | .identity => value
  | .isNull => .ofTruth (some value.isNull)
  | .isNotNull => .ofTruth (some (!value.isNull))
  | .not => .ofTruth ((truth value).map (!·))
  | .negate => operate {} .subtract (.integer 0) value
  | .complement => bitwise (fun i _ => -1 - i) value value

def both (a b : Option Bool) : Option Bool :=
  if a = some false ∨ b = some false then some false
  else if a = some true ∧ b = some true then some true
  else none

def either (a b : Option Bool) : Option Bool := (both (a.map (!·)) (b.map (!·))).map (!·)

/-- The comparison of two rows by their parts: the first two parts that differ decide, unless it is not
known whether they do. -/
def compareParts (op : BinaryOp) (parts : List (Comparison × Datum × Datum)) : Option Bool :=
  match op with
  | .is => some (parts.all fun (comparison, a, b) => comparison.same a b)
  | .isNot => some (!parts.all fun (comparison, a, b) => comparison.same a b)
  | .eq => equal parts
  | .ne => (equal parts).map (!·)
  | _ => ordered parts
where
  equal (parts : List (Comparison × Datum × Datum)) : Option Bool :=
    parts.foldl (fun known (comparison, a, b) => both known (truth (operate comparison .eq a b)))
      (some true)
  strict : BinaryOp := if op = .le then .lt else if op = .ge then .gt else op
  ordered : List (Comparison × Datum × Datum) → Option Bool
    | [] => some (op == .le || op == .ge)
    | (comparison, a, b) :: rest =>
        match truth (operate comparison .eq a b) with
        | none => none
        | some true => ordered rest
        | some false => truth (operate comparison strict a b)

/-! ### Columns -/

/-- Rows of tables are gone when a rollback has undone changes to the list of tables since the
statement began. -/
def requirePresent (env : Environment) : Executing Unit := do
  if (← Executing.look fun store => (store.connection env.connection).undone) ≠ env.undone then
    Executing.fail (.failed 516 (some "abort due to ROLLBACK"))

def columnValue (env : Environment) (ref : ColumnRef) : Executing Datum :=
  let inRow (rowid : Int) (values : List Datum) : Datum :=
    match ref.position with
    | some position => values.getD position .null
    | none => .ofInteger rowid
  match env.captured, env.current? ref.source with
  | some captured, _ => return Environment.among captured ref
  | none, some (.row rowid values) => return inRow rowid values
  | none, some (.live table rowid) => do
      requirePresent env
      match (← Executing.look fun store => store.table env.connection table).row? rowid with
      | some values => return inRow rowid values
      | none => return .null
  | none, some (.scan scan) =>
      match ref.position with
      | some position => do
          return (Datum.ofValue (← Executing.ask (.column scan position))).withoutNaN
      | none => do return .ofInteger (← Executing.ask (.rowid scan))
  | none, some .missing | none, none => return .null

/-! ### Functions -/

/-- The value of a function that asks for the state of the connection, if it is one. -/
def stateValue? (connection : Connection) : Scalar → Option Datum
  | .changes => some (.ofInteger connection.changes)
  | .totalChanges => some (.ofInteger connection.totalChanges)
  | .lastRowid => some (.integer connection.lastRowid)
  | _ => none

def callCollation (arguments : List Term) : Collation :=
  (arguments.findSome? Term.collation?).getD .binary

/-- Whether the right side of `AND` or `OR` is worked out first: queries are put off. -/
def rightFirst (left right : Term) : Bool := left.hasQuery && !right.hasQuery

/-! ### Members -/

/-- How a value is compared with the members of a list: as its own affinity has it. -/
def memberComparison (operand : Term) : Comparison where
  affinity := operand.affinity?.getD .blob
  collation := operand.collation?.getD .binary

/-- What the members of a list are brought near to: whole numbers stay integers beside real ones. -/
def memberAffinity : Affinity → Affinity
  | .real => .numeric
  | affinity => affinity

/-- Whether a value is among some members, where it may not be known. Members that are looked up all
at once are brought near to an affinity beforehand, and so is the value. -/
def isMember (comparison : Comparison) (near : Option Affinity) (value : Datum)
    (members : List Datum) : Option Bool :=
  let value := if near.isSome then stored comparison.affinity value else value
  let brought (member : Datum) : Datum := (near.map fun near => stored near member).getD member
  if members.isEmpty then some false
  else if value.isNull then none
  else if members.any fun member =>
      !member.isNull && comparison.order value (brought member) == .eq then some true
  else if members.any Datum.isNull then none
  else some false

def isRowMember (comparisons : List Comparison) (values : List Datum)
    (rows : List (List Datum)) : Option Bool :=
  rows.foldl
    (fun known row =>
      either known (compareParts .eq (comparisons.zip (values.zip row))))
    (some false)

def resultComparison (operand : Term) (column : Option Affinity × Option Collation) :
    Comparison where
  affinity := comparisonAffinity column.1 operand.affinity?
  collation := (if operand.explicit?.isSome then operand.explicit?
    else operand.collation? <|> column.2).getD .binary

/-! ### Terms -/

mutual

def evaluate (env : Environment) : Term → Executing Datum
  | .literal value => return value
  | .oversized _ _ => return .null
  | .parameter number => return env.parameters.getD (number - 1) .null
  | .column ref => columnValue env ref
  | .fixed ref value => do return stored (ref.affinity.getD .blob) (← evaluate env value)
  | .outer index _ => return env.arguments.getD index .null
  | .total index _ => return env.totals.getD index .null
  | .call .coalesce arguments => firstFilled env arguments
  | .call function arguments => do
      let values ← evaluateAll env arguments
      match stateValue? (← Executing.look (·.connection env.connection)) function with
      | some value => return value
      | none => Executing.ofExcept (function.apply (callCollation arguments) values)
  | .cast operand type => do return castTo type (← evaluate env operand)
  | .collate operand _ _ => evaluate env operand
  | .unary op operand => do return operateOn op (← evaluate env operand)
  | .truth operand negated wanted => do
      let holds := truth (← evaluate env operand) == some wanted
      return .ofTruth (some (holds != negated))
  | .binary .and left right => do
      match Term.side? .and left right with
      | some true => return .ofTruth (truth (← evaluate env left))
      | some false => return .ofTruth (truth (← evaluate env right))
      | none => together env .and left right
  | .binary .or left right => do
      match Term.side? .or left right with
      | some true => return .ofTruth (truth (← evaluate env left))
      | some false => return .ofTruth (truth (← evaluate env right))
      | none => together env .or left right
  | .binary op left right => do
      if 1 < left.width then
        let a ← evaluateParts env left
        let b ← evaluateParts env right
        let comparisons := (List.range left.width).map fun index =>
          (left.part index).comparison (right.part index)
        return .ofTruth (compareParts op (comparisons.zip (a.zip b)))
      else
        let a ← evaluate env left
        return operate (left.comparison right) op a (← evaluate env right)
  | .between operand low high => do
      let value ← evaluate env operand
      let a ← evaluate env low
      let b ← evaluate env high
      return .ofTruth (both (truth (operate (operand.comparison low) .ge value a))
        (truth (operate (operand.comparison high) .le value b)))
  | .row items => do return (← evaluateAll env items).headD .null
  | .inList operand members => do
      let value ← evaluate env operand
      let values ← evaluateAll env members
      let comparison := memberComparison operand
      let near :=
        if 2 < members.length && members.all Term.isConstant then
          some (memberAffinity comparison.affinity)
        else none
      return .ofTruth (isMember comparison near value values)
  | .inQuery operand slot arguments shape => do
      let arguments ← evaluateAll env arguments
      let rows ← env.answer slot arguments none
      let values ← evaluateParts env operand
      match shape.columns, values with
      | [column], [value] =>
          let members := rows.map fun row => row.headD .null
          let comparison := resultComparison operand column
          return .ofTruth (isMember comparison (some comparison.affinity) value members)
      | columns, values =>
          let comparisons := (columns.zip operand.items).map fun (column, item) =>
            resultComparison item column
          return .ofTruth (isRowMember comparisons values rows)
  | .nonempty slot arguments => do
      let rows ← env.answer slot (← evaluateAll env arguments) (some 1)
      return .ofTruth (some (!rows.isEmpty))
  | .query slot arguments _ => do
      let rows ← env.answer slot (← evaluateAll env arguments) (some 1)
      return ((rows.head?.bind List.head?).getD .null)
  | .choice condition result otherwise => do
      if ← decides env true condition then evaluate env result else evaluate env otherwise
  | .caseOf operand choices => do chosen env operand (← evaluate env operand) choices
  | .raise _ _ => return .null
termination_by term => (sizeOf term, 0)

/-- Both sides of `AND` or `OR`, but for a query that cannot matter any more. -/
def together (env : Environment) (op : BinaryOp) (left right : Term) : Executing Datum := do
  let settles := some (op == .or)
  let combine (a b : Option Bool) : Option Bool := if op = .and then both a b else either a b
  if rightFirst left right then
    let b := truth (← evaluate env right)
    if b = settles then return .ofTruth b
    else return .ofTruth (combine (truth (← evaluate env left)) b)
  else
    let a := truth (← evaluate env left)
    if right.hasQuery && a == settles then return .ofTruth a
    else return .ofTruth (combine a (truth (← evaluate env right)))
termination_by (sizeOf left + sizeOf right + 1, 0)

def firstFilled (env : Environment) : List Term → Executing Datum
  | [] => return .null
  | term :: rest => do
      let value ← evaluate env term
      if value.isNull then firstFilled env rest else return value
termination_by terms => (sizeOf terms, 0)

def chosen (env : Environment) (operand : Term) (value : Datum) : Term → Executing Datum
  | .choice condition result otherwise => do
      let other ← evaluate env condition
      if truth (operate (operand.comparison condition) .eq value other) = some true then
        evaluate env result
      else chosen env operand value otherwise
  | term => evaluate env term
termination_by term => (sizeOf term, 1)

def evaluateAll (env : Environment) : List Term → Executing (List Datum)
  | [] => return []
  | term :: rest => do
      let value ← evaluate env term
      return value :: (← evaluateAll env rest)
termination_by terms => (sizeOf terms, 0)

def evaluateParts (env : Environment) : Term → Executing (List Datum)
  | .row items => evaluateAll env items
  | .query slot arguments shape => do
      let rows ← env.answer slot (← evaluateAll env arguments) (some 1)
      return rows.headD (shape.columns.map fun _ => .null)
  | term => do return [← evaluate env term]
termination_by term => (sizeOf term, 1)

/-- Whether a condition is true, or false, as wanted. What cannot matter any more is not worked
out. -/
def decides (env : Environment) (wanted : Bool) : Term → Executing Bool
  | .binary .and left right => do
      match Term.side? .and left right with
      | some true => decides env wanted left
      | some false => decides env wanted right
      | none =>
          if rightFirst left right then
            if ← decides env wanted right then
              if wanted then decides env wanted left else return true
            else if wanted then return false else decides env wanted left
          else if ← decides env wanted left then
            if wanted then decides env wanted right else return true
          else if wanted then return false else decides env wanted right
  | .binary .or left right => do
      match Term.side? .or left right with
      | some true => decides env wanted left
      | some false => decides env wanted right
      | none =>
          if rightFirst left right then
            if ← decides env wanted right then
              if wanted then return true else decides env wanted left
            else if wanted then decides env wanted left else return false
          else if ← decides env wanted left then
            if wanted then return true else decides env wanted right
          else if wanted then decides env wanted right else return false
  | .unary .not operand => decides env (!wanted) operand
  | .truth operand negated value => do
      return ((← decides env value operand) != negated) == wanted
  | .between operand low high => do
      let value ← evaluate env operand
      let a ← evaluate env low
      let above := truth (operate (operand.comparison low) .ge value a)
      if above = some true ∨ (above = none ∧ !wanted) then
        let b ← evaluate env high
        return truth (operate (operand.comparison high) .le value b) = some wanted
      else return above = some false && !wanted
  | term => do return truth (← evaluate env term) = some wanted
termination_by term => (sizeOf term, 1)

end

/-- Whether conditions hold, checked one after another up to the first that does not. -/
def holdAll (env : Environment) : List Term → Executing Bool
  | [] => return true
  | condition :: rest => do
      if ← decides env true condition then holdAll env rest else return false

end RowSource.Sql
