import RowSource.Sql.Parser.Basic
import RowSource.Sql.Query

/-!
# Scopes

What the names in an expression stand for. Resolving complains of names that stand for nothing, or
for more than one thing, and of functions that do not exist or are not called as they should be. A
query within an expression is resolved where it stands, and may use the columns of the queries
around it.
-/

namespace RowSource.Sql

structure ScopeColumn where
  name : String
  hidden : Bool
  ref : ColumnRef
  /-- It is the same as a column of a table before it, which goes by the plain name. -/
  isShared : Bool := false

structure ScopeTable where
  name : String
  schema : Option Schema := none
  columns : List ScopeColumn
  /-- The identifier of its rows, if it shows, with the name that it has as a result. -/
  rowid : Option (String × ColumnRef)

structure Label where
  name : String
  term : Term

inductive Declaration where
  | check | generated
  deriving DecidableEq

def Declaration.name : Declaration → String
  | .check => "CHECK constraints"
  | .generated => "generated columns"

structure Scope where
  tables : List ScopeTable := []
  labels : List Label := []
  around : List (List ScopeTable) := []
  /-- Whether complaints point to a place. -/
  pointed : Bool := true
  totals : Bool := false
  windows : Bool := false
  isCondition : Bool := false
  declaration : Option Declaration := none

structure Gathered where
  totals : List Aggregate := []
  /-- What the query takes of those around it. -/
  free : List ColumnRef := []
  queries : List Query := []

abbrev Resolving := StateT Gathered (Except Complaint)

abbrev QueryResolver (Q : Type) := Scope → Q → Resolving Query

namespace Scope

def complain {α : Type} (scope : Scope) (message : String) (place : Nat)
    (missing : Bool := false) : Resolving α :=
  throw { message := message, place := if scope.pointed then some place else none
          missing := missing }

/-! ### Columns -/

def isRowidName (name : String) : Bool :=
  ["rowid", "oid", "_rowid_"].contains (foldCase name)

def admitted (tables : List ScopeTable) (database table : Option String) : List ScopeTable :=
  tables.filter fun known =>
    table.all (sameName known.name) && database.all fun database =>
      known.schema.isSome && known.schema == Schema.ofName? database

def candidates (tables : List ScopeTable) (isQualified : Bool) (name : String) :
    List (String × ColumnRef) :=
  tables.filterMap fun table =>
    (table.columns.find? fun column =>
      sameName column.name name && (isQualified || !column.isShared)).map fun column =>
        (column.name, column.ref)

/-- What a name stands for among the columns of some tables, with its name as a result. Nothing if it
is ambiguous. -/
def columnOf (tables : List ScopeTable) (database table : Option String) (name : String) :
    Option (Option (String × ColumnRef)) :=
  let tables := admitted tables database table
  match candidates tables table.isSome name with
  | [found] => some (some found)
  | _ :: _ :: _ => none
  | [] =>
      match if isRowidName name then tables.filterMap (·.rowid) else [] with
      | [found] => some (some found)
      | _ :: _ :: _ => none
      | [] => some none

def writtenName (database table : Option String) (name : String) : String :=
  let qualified := match table with
    | some table => table ++ "." ++ name
    | none => name
  match database with
  | some database => database ++ "." ++ qualified
  | none => qualified

/-- A column of a query around this one, as one of the things that this one takes. -/
def takenColumn (ref : ColumnRef) : Resolving Term := do
  let state ← get
  match state.free.findIdx? (·.isSame ref) with
  | some index => return .outer index ref
  | none =>
      set { state with free := state.free ++ [ref] }
      return .outer state.free.length ref

def columnAround (scope : Scope) (database table : Option String) (name : String) (place : Nat) :
    List (List ScopeTable) → Resolving (Option (String × Term))
  | [] => return none
  | tables :: rest =>
      match columnOf tables database table name with
      | none =>
          scope.complain ("ambiguous column name: " ++ writtenName database table name) place
      | some (some (label, ref)) => do return some (label, ← takenColumn ref)
      | some none => columnAround scope database table name place rest

def column (scope : Scope) (database table : Option String) (name : String) (quote : Option Char)
    (place : Nat) : Resolving (Option String × Term) := do
  match columnOf scope.tables database table name with
  | none => scope.complain ("ambiguous column name: " ++ writtenName database table name) place
  | some (some (label, ref)) => return (some label, .column ref)
  | some none =>
      match scope.labels.find? fun label => table.isNone && sameName label.name name with
      | some label =>
          if !scope.totals && !label.term.totals.isEmpty then
            throw { message := "misuse of aliased aggregate " ++ label.name }
          else return (none, label.term)
      | none =>
          match ← scope.columnAround database table name place scope.around with
          | some (label, term) => return (some label, term)
          | none => other
where
  other : Resolving (Option String × Term) := do
    if table.isNone && quote = some '"' then
      return (none, .literal (.ofString name))
    else if table.isNone && quote.isNone && sameName name "true" then
      return (none, .literal (.integer 1))
    else if table.isNone && quote.isNone && sameName name "false" then
      return (none, .literal (.integer 0))
    else scope.complain ("no such column: " ++ writtenName database table name) place true

/-- The truth value that a plain name writes, if it is no column. -/
def truthValue? {Q : Type} (scope : Scope) : Expr Q → Option Bool
  | .column none none name none _ =>
      if ((scope.tables :: scope.around).any fun tables =>
          !(candidates tables false name).isEmpty) then none
      else if scope.labels.any fun label => sameName label.name name then none
      else if sameName name "true" then some true
      else if sameName name "false" then some false
      else none
  | .collate operand _ _ => truthValue? scope operand
  | _ => none

/-! ### Functions -/

def addTotal (aggregate : Aggregate) : Resolving Term := do
  let state ← get
  let collation := aggregate.arguments.findSome? Term.explicit?
  match state.totals.findIdx? aggregate.same with
  | some index => return .total index collation
  | none =>
      set { state with totals := state.totals ++ [aggregate] }
      return .total state.totals.length collation

structure Extras where
  isOrdered : Bool := false
  isFiltered : Bool := false

def callDefect? (scope : Scope) (name : String) (count : Nat) (extras : Extras) : Option String :=
  match Function.find? name count with
  | none =>
      if (Function.named name).isEmpty then some ("no such function: " ++ name)
      else some ("wrong number of arguments to function " ++ name ++ "()")
  | some (.scalar function) =>
      if function = .extension then
        some ("unable to use function " ++ name ++ " in the requested context")
      else if extras.isFiltered then some ("FILTER may not be used with non-aggregate " ++ name ++ "()")
      else if extras.isOrdered then
        some ("ORDER BY may not be used with non-aggregate " ++ name ++ "()")
      else none
  | some (.summary _) =>
      if scope.totals then none else some ("misuse of aggregate function " ++ name ++ "()")
  | some (.ranking _) => some ("misuse of window function " ++ name ++ "()")

def changeDefect? (scope : Scope) (name : String) (count : Nat) : Option String :=
  match scope.declaration, Function.find? name count with
  | some .generated, some function =>
      if function.isConstant || function.isSummary then none
      else some "non-deterministic functions prohibited in generated columns"
  | _, _ => none

/-- Choices in the order of their conditions. The last argument is what is left, if it is not a
condition. -/
def choices : List Term → Term
  | condition :: result :: rest => .choice condition result (choices rest)
  | [otherwise] => otherwise
  | [] => .literal .null

def called (function : Scalar) (arguments : List Term) : Term :=
  match function with
  | .choose => choices arguments
  | .coalesce => .call .coalesce arguments
  | _ => .call function arguments

/-- Whether a result of a query stands for a part of a term, where it has to have a width. -/
def requireWidth (expected : Nat) (query : Query) : Resolving Unit :=
  if query.width = expected then return
  else
    throw { message := "sub-select returns " ++ toString query.width ++ " columns - expected " ++
      toString expected }

def requireSameWidth (scope : Scope) (left right : Term) (place : Option Nat) : Resolving Unit :=
  if left.width = right.width then return
  else
    throw { message := "row value misused", place := if scope.pointed then place else none }

/-- Adds a query to those within expressions. What it takes of the query around it is a column of
that, or else something that it takes itself. -/
def addQuery (scope : Scope) (query : Query) (free : List ColumnRef) :
    Resolving (Nat × List Term) := do
  let numbers := scope.tables.flatMap fun table =>
    table.columns.map (·.ref.source) ++ (table.rowid.map (·.2.source)).toList
  let arguments ← free.mapM fun ref =>
    if numbers.contains ref.source then pure (.column ref) else takenColumn ref
  let state ← get
  set { state with queries := state.queries ++ [query] }
  return (state.queries.length, arguments)

section

variable {Q : Type} (read : QueryResolver Q)

def nested (scope : Scope) (query : Q) (expected : Option Nat) :
    Resolving (Nat × List Term × Shape) := do
  match scope.declaration with
  | some declaration =>
      throw { message := "subqueries prohibited in " ++ declaration.name }
  | none =>
      let before ← get
      set { before with totals := [], free := [] }
      let inner : Scope :=
        { around := scope.tables :: scope.around, pointed := scope.pointed
          isCondition := scope.isCondition }
      let resolved ← read inner query
      let free := (← get).free
      modify fun state => { state with totals := before.totals, free := before.free }
      if let some expected := expected then requireWidth expected resolved
      let (slot, arguments) ← addQuery scope resolved free
      return (slot, arguments, resolved.shape)

def place? : Expr Q → Option Nat
  | .number _ place | .parameter _ place | .column _ _ _ _ place => some place
  | .call call _ => some call.place
  | .ordered inner _ _ | .filtered inner _ => place? inner
  | .cast operand _ | .collate operand _ _ | .unary _ operand => place? operand
  | .binary _ left _ | .caseOf left _ | .choice left _ _ => place? left
  | .between operand _ _ | .inList operand _ | .inQuery operand _ => place? operand
  | _ => none

/-- The value of a literal number, with a sign if it is to be negative. A number that is too large
stays as it is. -/
def numberTerm (scope : Scope) (source : String) (place : Nat) : Term :=
  match Numeral.value? false source with
  | some value => .literal value
  | none => .oversized source (if scope.pointed then some place else none)

/-- A negative number. One that could be written without its sign is not worked out yet. -/
def negativeTerm (scope : Scope) (source : String) (place : Nat) : Term :=
  match Numeral.value? false source, Numeral.value? true source with
  | some (.integer i), _ => .unary .negate (.literal (.integer i))
  | _, some value => .literal value
  | _, none =>
      .oversized ("-" ++ source) (if scope.pointed then some place else none)

mutual

/-- Resolves the arguments of a call with which something is wrong. A complaint of a column or of a
function takes the place of that of the call, unless another kind of argument comes before. -/
def defective (scope : Scope) : List (Expr Q) → Resolving Unit
  | [] => return
  | argument :: rest => do
      if ← defectiveArgument scope argument then defective scope rest

/-- Resolves an argument of a call with which something is wrong, and tells whether further ones
are resolved. -/
def defectiveArgument (scope : Scope) : Expr Q → Resolving Bool
  | .column database table name quote place => do
      let _ ← scope.column database table name quote place
      return true
  | .call call arguments => do
      defective scope arguments
      match scope.callDefect? call.name arguments.length {} with
      | some defect => scope.complain defect call.place
      | none => return true
  | _ => return false

end

def functionOf (scope : Scope) (call : Call) (arguments : List (Expr Q)) (extras : Extras) :
    Resolving (Function × Scope) := do
  match scope.callDefect? call.name arguments.length extras with
  | some defect => do
      defective scope arguments
      scope.complain defect call.place
  | none =>
      match scope.changeDefect? call.name arguments.length with
      | some defect => throw { message := defect }
      | none =>
          let function := (Function.find? call.name arguments.length).getD default
          return (function,
            if function.isSummary then { scope with totals := false, windows := false } else scope)

def callTerm (scope : Scope) (call : Call) (function : Function) (arguments : List Term)
    (order : List (Term × Direction)) (filter : Option Term) : Resolving Term :=
  match function with
  | .scalar function => return called function arguments
  | .summary function =>
      addTotal
        { function := function, arguments := arguments, isDistinct := call.isDistinct
          order := order, filter := filter, name := call.name
          place := if scope.pointed then some call.place else none }
  | .ranking _ => scope.complain ("misuse of window function " ++ call.name ++ "()") call.place

mutual

def resolve (scope : Scope) : Expr Q → Resolving Term
  | .literal value => return .literal value
  | .number source place => return scope.numberTerm source place
  | .parameter number place =>
      match scope.declaration with
      | some declaration => scope.complain ("parameters prohibited in " ++ declaration.name) place
      | none => return .parameter number
  | .column database table name quote place => do
      return (← scope.column database table name quote place).2
  | .call call arguments => do
      let (function, inner) ← functionOf scope call arguments {}
      let terms ← resolveAll inner arguments
      callTerm scope call function terms [] none
  | .ordered (.call call arguments) keys directions => do
      let (function, inner) ← functionOf scope call arguments { isOrdered := true }
      let terms ← resolveAll inner arguments
      let keys ← resolveAll inner keys
      callTerm scope call function terms (keys.zip directions) none
  | .filtered (.call call arguments) condition => do
      let (function, inner) ← functionOf scope call arguments { isFiltered := true }
      let terms ← resolveAll inner arguments
      callTerm scope call function terms [] (some (← resolve inner condition))
  | .filtered (.ordered (.call call arguments) keys directions) condition => do
      let (function, inner) ← functionOf scope call arguments
        { isOrdered := true, isFiltered := true }
      let terms ← resolveAll inner arguments
      let keys ← resolveAll inner keys
      callTerm scope call function terms (keys.zip directions) (some (← resolve inner condition))
  | .ordered call _ _ | .filtered call _ => resolve scope call
  | .cast operand type => return .cast (← resolve scope operand) type
  | .collate operand collation _ => do
      let term ← resolve scope operand
      match Collation.ofName? collation with
      | some collation => return .collate term collation true
      | none => throw (Complaint.noCollation collation)
  | .unary op operand => do
      match op, operand with
      | .negate, .number source place => return scope.negativeTerm source place
      | _, _ =>
          let term ← resolve scope operand
          if scope.isCondition && term.isFilled && (op = .isNull || op = .isNotNull) then
            return .literal (.integer (if op = .isNotNull then 1 else 0))
          else return .unary op term
  | .binary op left right => do
      match if op = .is ∨ op = .isNot then scope.truthValue? right else none with
      | some wanted => return .truth (← resolve scope left) (op == .isNot) wanted
      | none =>
          let first ← resolve scope left
          let second ← resolve scope right
          if op.compares then requireSameWidth scope first second (place? left)
          return .binary op first second
  | .between operand low high => do
      let term ← resolve scope operand
      let low ← resolve scope low
      let high ← resolve scope high
      requireSameWidth scope term low (place? operand)
      requireSameWidth scope term high (place? operand)
      return .between term low high
  | .row items => return .row (← resolveAll scope items)
  | .inList operand members => do
      let term ← resolve scope operand
      let members ← resolveAll scope members
      if term.width ≠ 1 then throw { message := "row value misused" }
      return .inList term members
  | .inQuery operand query => do
      let term ← resolve scope operand
      let (slot, arguments, shape) ← nested read scope query (some term.width)
      return .inQuery term slot arguments shape
  | .nonempty query => do
      let (slot, arguments, _) ← nested read scope query none
      return .nonempty slot arguments
  | .query query => do
      let (slot, arguments, shape) ← nested read scope query none
      return .query slot arguments shape
  | .choice condition result otherwise => do
      let condition ← resolve scope condition
      let result ← resolve scope result
      return .choice condition result (← resolve scope otherwise)
  | .caseOf operand choices => do
      let operand ← resolve scope operand
      return .caseOf operand (← resolve scope choices)
  | .raise resolution message _ => return .raise resolution (← resolve scope message)

def resolveAll (scope : Scope) : List (Expr Q) → Resolving (List Term)
  | [] => return []
  | argument :: rest => do
      let term ← resolve scope argument
      return term :: (← resolveAll scope rest)

end

end

end Scope

end RowSource.Sql
