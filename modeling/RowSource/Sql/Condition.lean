import RowSource.Plan.Constraint
import RowSource.Sql.Function.PatternStart
import RowSource.Sql.Query

/-!
# Conditions

What the conditions of an arm are good for. A comparison with a column may narrow the rows of its
source down before they are read. Some conditions imply others that are good for that; those are
never checked themselves, and settling them settles the condition that implies them.

Sources go by their places in the arm. A set of places is a number with a bit for each.
-/

namespace RowSource.Sql

abbrev Places := Nat

namespace Places

def single (place : Nat) : Places := twoTo place

def within (a b : Places) : Bool := a &&& b == a

def disjoint (a b : Places) : Bool := a &&& b == 0

def without (a b : Places) : Places := a - (a &&& b)

def before (place : Nat) : Places := twoTo place - 1

/-- The places of the sources that a term reads, given the numbers of all sources in order. -/
def ofTerm (numbers : List Nat) (term : Term) : Places :=
  term.sources.foldl
    (fun places number =>
      match numbers.findIdx? (· == number) with
      | some place => places ||| single place
      | none => places)
    0

end Places

structure Condition where
  term : Term
  needs : Places
  /-- It has to be checked, unless it is settled. -/
  isBase : Bool := true
  /-- The place of the source whose rows it joins to those before, if they stay without any. -/
  join : Option Nat := none
  column : Option (Nat × ColumnRef) := none
  op : Option ConstraintOp := none
  value : Term := .literal .null
  valueNeeds : Places := 0
  comparison : Comparison := {}
  isChoice : Bool := false
  bounds : Option Pattern.Bounds := none
  /-- The condition that implies it, by its position. -/
  parent : Option Nat := none
  isForHost : Bool := false
  /-- It says no more than that the column holds something. -/
  isPresence : Bool := false
  deriving Inhabited

namespace Condition

def isEquality (condition : Condition) : Bool :=
  !condition.isChoice && (condition.op == some .eq || condition.op == some .is)

/-- A condition that another one at `index` implies. -/
def implied (condition : Condition) (index : Nat) : Condition :=
  { condition with isBase := false, parent := some index }

end Condition

structure Sighting where
  numbers : List Nat
  hosted : List Nat
  parameters : List Datum := []

namespace Sighting

def needs (sighting : Sighting) (term : Term) : Places := Places.ofTerm sighting.numbers term

def placed? (sighting : Sighting) (ref : ColumnRef) : Option (Nat × ColumnRef) :=
  (sighting.numbers.findIdx? (· == ref.source)).map fun place => (place, ref)

def hostColumn? (sighting : Sighting) (term : Term) : Option (Nat × ColumnRef) :=
  match term.standsFor? with
  | some ref => if sighting.hosted.contains ref.source then sighting.placed? ref else none
  | none => none

def narrowing? : BinaryOp → Option ConstraintOp
  | .eq => some .eq
  | .is => some .is
  | .lt => some .lt
  | .le => some .le
  | .gt => some .gt
  | .ge => some .ge
  | _ => none

def commuted : BinaryOp → BinaryOp
  | .lt => .gt
  | .le => .ge
  | .gt => .lt
  | .ge => .le
  | op => op

/-- A comparison with its sides in the other order. Texts are still compared in the same way. -/
def turned (op : BinaryOp) (left right : Term) : Term :=
  let collation := (left.comparison right).collation
  if (right.comparison left).collation = collation then .binary (commuted op) right left
  else .binary (commuted op) (.collate right collation true) left

/-! ### Host tables -/

structure HostUse where
  side : Term
  op : ConstraintOp
  value : Term

def hostUses : Term → List HostUse
  | .binary .ne left right => [⟨right, .ne, left⟩, ⟨left, .ne, right⟩]
  | .binary .isNot left right => [⟨right, .isNot, left⟩, ⟨left, .isNot, right⟩]
  | .call .like [pattern, operand] => [⟨operand, .like, pattern⟩]
  | .call .glob [pattern, operand] => [⟨operand, .glob, pattern⟩]
  | .call .matches [pattern, operand] => [⟨operand, .matches, pattern⟩]
  | .unary .isNotNull operand => [⟨operand, .isNotNull, .literal .null⟩]
  | _ => []

def plain (sighting : Sighting) (join : Option Nat) (term : Term) : Condition :=
  let own := match join with
    | some place => Places.single place
    | none => 0
  { term := term, needs := sighting.needs term ||| own, join := join }

/-- What a value needs beside what it reads: all sources before the one that the condition joins. -/
def extraNeeds (condition : Condition) : Places :=
  match condition.join with
  | some place => Places.before place
  | none => 0

def forHosts (sighting : Sighting) (condition : Condition) (index : Nat) : List Condition :=
  (hostUses condition.term).filterMap fun use =>
    let valueNeeds := sighting.needs use.value
    match sighting.hostColumn? use.side with
    | some column =>
        if Places.disjoint valueNeeds (sighting.needs use.side) then
          some { condition.implied index with
            column := some column, op := some use.op, value := use.value
            valueNeeds := valueNeeds ||| extraNeeds condition, isForHost := true }
        else none
    | none => none

/-! ### Comparisons -/

/-- A comparison, and the same one with its sides in the other order if both are columns. One whose
only column is on the right is turned round. -/
def comparison (sighting : Sighting) (condition : Condition) (index : Nat) (op : BinaryOp)
    (use : ConstraintOp) (left right : Term) : Condition × List Condition :=
  let narrows := Places.disjoint (sighting.needs left) (sighting.needs right)
  let compared := left.comparison right
  let turned : Option Condition := (right.uncollated.column?.bind sighting.placed?).map fun column =>
    { condition with
      term := turned op left right
      column := some column
      op := if narrows then narrowing? (commuted op) else none
      value := left
      valueNeeds := sighting.needs left ||| extraNeeds condition
      comparison := compared }
  match left.uncollated.standsFor?.bind sighting.placed?, turned with
  | some column, _ =>
      ({ condition with
          column := some column, op := if narrows then some use else none
          value := right, valueNeeds := sighting.needs right ||| extraNeeds condition
          comparison := compared },
        (turned.map fun turned => turned.implied index).toList)
  | none, some turned => (turned, [])
  | none, none => (condition, [])

def partsOf (op : BinaryOp) (left right : Term) : List Term :=
  match left, right with
  | .row _, _ | _, .row _ =>
      if (op == .eq || op == .is) && left.width == right.width then
        match left, right with
        | .row lefts, .row rights => (lefts.zip rights).map fun (a, b) => .binary op a b
        | _, _ => []
      else []
  | _, _ => []

def choice (sighting : Sighting) (condition : Condition) (operand : Term) (valueNeeds : Places)
    (affinity : Affinity) : Condition :=
  match operand.uncollated.standsFor?.bind sighting.placed? with
  | some column =>
      { condition with
        column := some column
        op := if Places.disjoint (sighting.needs operand) valueNeeds then some .eq else none
        value := condition.term
        valueNeeds := valueNeeds ||| extraNeeds condition
        comparison := ⟨affinity, operand.collation?.getD .binary⟩
        isChoice := true }
  | none => condition

/-! ### Alternatives -/

/-- What a condition compares with the same column as the one at a place, if all of some alternatives
do: the column and the values. -/
def commonChoice? (sighting : Sighting) (terms : List Term) (side : Nat × ColumnRef) :
    Option (List Term) :=
  terms.mapM fun term =>
    match term with
    | .binary .eq left right =>
        let ofSide (column other : Term) : Option Term := do
          let ref ← column.uncollated.standsFor?
          let placed ← sighting.placed? ref
          if placed.1 == side.1 && ref.position == side.2.position &&
              Places.disjoint (sighting.needs column) (sighting.needs other) &&
              (other.affinity?.isNone || other.affinity? == column.affinity?) then
            return other
          else none
        ofSide left right <|> (right.column?.bind fun _ => ofSide right left)
    | _ => none

def equalColumns (sighting : Sighting) : Term → List (Nat × ColumnRef × Term)
  | .binary .eq left right =>
      let of (term : Term) (ref? : Option ColumnRef) : List (Nat × ColumnRef × Term) :=
        ((ref?.bind sighting.placed?).map fun (place, ref) => (place, ref, term)).toList
      of left left.uncollated.standsFor? ++ of right right.uncollated.column?
  | _ => []

def choiceOf? (sighting : Sighting) (terms : List Term) : Option Term :=
  match terms with
  | first :: _ :: _ =>
      (sighting.equalColumns first).findSome? fun (place, ref, column) =>
        (sighting.commonChoice? terms (place, ref)).map fun values => .inList column values
  | _ => none

def combined? (a b : Term) : Option Term :=
  let whole (a b : BinaryOp) : Option BinaryOp :=
    if a = b then some a
    else if [BinaryOp.eq, .lt, .le].contains a && [BinaryOp.eq, .lt, .le].contains b then some .le
    else if [BinaryOp.eq, .gt, .ge].contains a && [BinaryOp.eq, .gt, .ge].contains b then some .ge
    else none
  match a, b with
  | .binary p left right, .binary q left' right' =>
      if left.same left' && right.same right' && (narrowing? p).isSome && (narrowing? q).isSome &&
          p != .is && q != .is then
        (whole p q).map fun op => .binary op left right
      else none
  | _, _ => none

/-! ### Analysis -/

def styleOf? : Scalar → List Term → Option (Pattern.Style × Term × Term)
  | .like, [pattern, operand] => some (.like, pattern, operand)
  | .glob, [pattern, operand] => some (.glob, pattern, operand)
  | .like, [pattern, operand, .literal (.text [escape])] =>
      if escape = 37 || escape = 95 || escape = 0 then none
      else some (.likeEscaped escape.toNat, pattern, operand)
  | _, _ => none

def patternBytes? (sighting : Sighting) (term : Term) : Option (List UInt8) :=
  match term.uncollated with
  | .literal (.text bytes) => some bytes
  | .parameter number =>
      match sighting.parameters[number - 1]? with
      | some (.text bytes) => some bytes
      | _ => none
  | _ => none

def start? (sighting : Sighting) (function : Scalar) (arguments : List Term) :
    Option (Pattern.Start × Term) := do
  let (style, pattern, operand) ← styleOf? function arguments
  let start ← style.start? (← sighting.patternBytes? pattern)
  let isText := match operand.column? with
    | some ref => ref.affinity == some .text && !sighting.hosted.contains ref.source
    | none => false
  if !isText && start.isNumeric then none else some (start, operand)

def beginning (sighting : Sighting) (condition : Condition) (index : Nat) (start : Pattern.Start)
    (operand : Term) : List Condition :=
  match operand.uncollated.standsFor?.bind sighting.placed? with
  | some column =>
      let affinity := operand.affinity?.getD .blob
      [{ condition.implied index with
          parent := if start.isWhole then some index else none
          column := some column, op := some .ge, valueNeeds := extraNeeds condition
          comparison := ⟨affinity, if start.folds then .noCase else .binary⟩
          bounds := some start.bounds }]
  | none => []

/-- What a condition at `index` is good for, with the conditions that it implies, which are put at
`next` and after. -/
def analysis (sighting : Sighting) (condition : Condition) (index next : Nat) :
    Condition × List Condition :=
  match condition.term with
  | .binary .or left right =>
      let terms := Term.disjuncts (.binary .or left right)
      let implied (term : Term) (parent : Option Nat) : Condition :=
        { (sighting.plain condition.join term).implied index with parent := parent }
      let whole := match terms with
        | [a, b] => (combined? a b).toList
        | _ => []
      let first := whole.flatMap fun term =>
        match term with
        | .binary op left right =>
            match narrowing? op with
            | some use =>
                let (one, more) := sighting.comparison (implied term none) next op use left right
                one :: more
            | none => []
        | _ => []
      let second := (sighting.choiceOf? terms).toList.map fun term =>
        match term with
        | .inList operand members =>
            let needs := (members.map sighting.needs).foldl (· ||| ·) 0
            sighting.choice (implied term (some index)) operand needs
              (operand.affinity?.getD .blob)
        | _ => implied term (some index)
      (condition, first ++ second)
  | .binary op left right =>
      match narrowing? op with
      | some use => sighting.comparison condition index op use left right
      | none => (condition, sighting.forHosts condition index)
  | .inList operand members =>
      let needs := (members.map sighting.needs).foldl (· ||| ·) 0
      (sighting.choice condition operand needs (operand.affinity?.getD .blob), [])
  | .inQuery operand _ arguments shape =>
      let needs := (arguments.map sighting.needs).foldl (· ||| ·) 0
      match shape.columns with
      | [column] =>
          (sighting.choice condition operand needs
            (comparisonAffinity column.1 operand.affinity?), [])
      | _ => (condition, [])
  | .call function arguments =>
      let begins := match sighting.start? function arguments with
        | some (start, operand) => sighting.beginning condition index start operand
        | none => []
      (condition, begins ++ sighting.forHosts condition index)
  | .unary .isNull operand =>
      if operand.isFilled && condition.join.isNone then
        ({ condition with term := .literal (.integer 0), needs := 0 }, [])
      else
        match operand.uncollated.standsFor?.bind sighting.placed? with
        | some column =>
            ({ condition with
                column := some column, op := some .isNull, valueNeeds := extraNeeds condition }, [])
        | none => (condition, [])
  | .unary .isNotNull operand =>
      let presence : List Condition :=
        match operand.standsFor?.bind sighting.placed? with
        | some (place, ref) =>
            if ref.position.isSome && condition.join.isNone then
              [{ condition.implied index with
                  term := .binary .gt operand (.literal .null), column := some (place, ref)
                  op := some .gt, isPresence := true
                  comparison := operand.comparison (.literal .null) }]
            else []
        | none => []
      (condition, presence ++ sighting.forHosts condition index)
  | .between operand low high =>
      let bound (op : BinaryOp) (use : ConstraintOp) (value : Term) (place : Nat) : List Condition :=
        let implied := (sighting.plain condition.join (.binary op operand value)).implied index
        let (implied, more) := sighting.comparison implied place op use operand value
        implied :: more
      let first := bound .ge .ge low next
      (condition, first ++ bound .le .le high (next + first.length))
  | _ => (condition, [])

def apart : Term → List Term
  | .binary op left right =>
      match partsOf op left right with
      | [] => [.binary op left right]
      | parts => parts
  | term => [term]

/-- Finds out what conditions are good for, the last one first. Those that they imply follow all of
them. Each condition comes with the place of the source that it joins, if it belongs to one. -/
def analysed (sighting : Sighting) (terms : List (Option Nat × Term)) : List Condition :=
  let start := terms.flatMap fun (join, term) => (apart term).map (sighting.plain join)
  (List.range start.length).reverse.foldl
    (fun conditions index =>
      match conditions[index]? with
      | some condition =>
          let (condition, implied) := sighting.analysis condition index conditions.length
          conditions.set index condition ++ implied
      | none => conditions)
    start

end Sighting

end RowSource.Sql
