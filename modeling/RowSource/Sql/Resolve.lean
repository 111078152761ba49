import RowSource.Sql.Found

/-!
# Resolving queries

From a query whose tables are found to one whose names are resolved. Of the arms the last comes
first: its limits, then the queries that it reads, its results, its conditions, the arguments of its
tables, its order and its groups.
-/

namespace RowSource.Sql

namespace Compiling

/-! ### Results -/

structure Result where
  name : String
  /-- The name is its own, and the conditions and the order may use it. -/
  isNamed : Bool
  term : Term

section

variable {Q : Type} (read : QueryResolver Q)

/-- Resolves a result. A column that a star stands for goes by the name of its table if there are
several. -/
def result (scope : Scope) : ResultItem Q → Resolving Result
  | .shown table column =>
      let isJoined := decide (1 < scope.tables.length)
      let tables := if isJoined then Scope.admitted scope.tables none (some table) else scope.tables
      match Scope.candidates tables isJoined column with
      | [(name, ref)] => return ⟨name, true, .column ref⟩
      | _ => throw { message := "ambiguous column name: main." ++ table ++ "." ++ column }
  | .expr (.column database table name quote place) label text => do
      let (own, term) ← scope.column database table name quote place
      return ⟨label.getD (own.getD text), label.isSome, term⟩
  | .expr value label text => do
      return ⟨label.getD text, label.isSome, ← Scope.resolve read scope value⟩

def results (scope : Scope) : List (ResultItem Q) → Resolving (List Result)
  | [] => return []
  | item :: rest => do
      let here ← result read scope item
      return here :: (← results scope rest)

def resolved? (scope : Scope) (value : Option (Expr Q)) : Resolving (Option Term) :=
  match value with
  | none => return none
  | some value => return some (← Scope.resolve read scope value)

end

def labelsOf (results : List Result) : List Label :=
  (results.filter (·.isNamed)).map fun result => ⟨result.name, result.term⟩

/-! ### Sources -/

def scopeTable (label : String) (schema : Option Schema) (shared : List Nat)
    (source : Source Query) : ScopeTable where
  name := label
  schema := schema
  columns := source.columns.zipIdx.map fun (column, position) =>
    { name := column.name, hidden := column.hidden, ref := source.ref position column
      isShared := shared.contains position }
  rowid :=
    let key : Option Column := match source.origin with
      | .stored _ table => table.key.bind fun key => table.columns[key]?
      | _ => none
    let name := key.map (·.name)
    source.rowid?.map fun ref => (name.getD "rowid", ref)

def sourceOf (read : QueryResolver FoundQuery) (around : List (List ScopeTable))
    (table : FoundTable FoundQuery) : Resolving (Source Query × ScopeTable) := do
  let (source, schema) ← match table.item with
    | .source source schema => pure (source, schema)
    | .query number names query => do
        let query ← read { around := around } query
        let (columns, untyped) := derivedColumns names query
        let source : Source Query :=
          { number := number, origin := .derived none query, columns := columns, untyped := untyped
            crossed := table.join.crossed, hint := table.hint }
        pure (source, none)
  let source := if table.join.keepsLeft then { source with outer := some [] } else source
  let shared := table.shared.map (·.rightPosition)
  return (source, scopeTable table.label schema shared source)

def sharedConditions (sources : List (Source Query)) (place : Nat)
    (table : FoundTable FoundQuery) : List Term :=
  table.shared.filterMap fun shared => do
    let left ← sources[shared.left]?
    let right ← sources[place]?
    let leftColumn ← left.columns[shared.leftPosition]?
    let rightColumn ← right.columns[shared.rightPosition]?
    return .binary .eq (.column (left.ref shared.leftPosition leftColumn))
      (.column (right.ref shared.rightPosition rightColumn))

/-- Resolves the conditions under which tables are joined. Those of a table whose rows need not join
any others belong to it; the rest come back. -/
def withJoins (read : QueryResolver FoundQuery) (scope : Scope)
    (tables : List (FoundTable FoundQuery)) (sources : List (Source Query)) :
    Resolving (List (Source Query) × List Term) := do
  let joined ← (tables.zip sources).zipIdx.mapM fun ((table, source), place) => do
    let own ← resolved? read scope table.condition
    let terms := sharedConditions sources place table ++ own.toList
    match source.outer with
    | some _ =>
        return (({ source with outer := some (terms.flatMap Term.conjuncts) } : Source Query), [])
    | none => return (source, terms)
  return (joined.map (·.1), joined.flatMap (·.2))

/-! ### Arms -/

structure ResolvedArm where
  arm : Arm Query
  results : List Result
  scope : Scope

def callsFunction : ResultItem FoundQuery → Bool
  | .shown _ _ => false
  | .expr value _ _ => value.hasCall

/-- Resolves the names in an arm, but for its groups. Functions over all rows may stand in its
conditions only if there are groups, or some in its results. -/
def resolvedArm (read : QueryResolver FoundQuery) (around : Scope) (isCompound : Bool)
    (found : FoundArm FoundQuery) : Resolving ResolvedArm := do
  let seats ← found.tables.mapM (sourceOf read around.around)
  let scope : Scope :=
    { tables := seats.map (·.2), around := around.around, pointed := around.pointed
      totals := true, windows := true }
  let results ← results read scope found.items
  let isAggregate := !(← get).totals.isEmpty || !found.core.groups.isEmpty
  let scope := { scope with totals := isAggregate, windows := false, labels := labelsOf results }
  if found.core.having.isSome && !isAggregate then
    throw { message := "HAVING clause on a non-aggregate query" }
  let having ← resolved? read scope found.core.having
  let conditions := { scope with isCondition := around.around.isEmpty || around.isCondition }
  let own ← resolved? read conditions found.core.condition
  let (sources, joined) ←
    withJoins read { conditions with pointed := false } found.tables (seats.map (·.1))
  let sources ← (sources.zip found.tables).mapM fun (source, table) => do
    return { source with arguments := ← Scope.resolveAll read scope table.arguments }
  return {
    arm :=
      { results := results.map (·.term)
        sources := sources
        conditions := (own.toList ++ joined).flatMap Term.conjuncts
        totals := []
        isGrouped := !found.core.groups.isEmpty
        having := (having.map Term.conjuncts).getD []
        isDistinct := found.core.distinct
        isComplex := found.items.any callsFunction
        isCompound := isCompound
        isValues := found.core.isValues }
    results := results
    scope := { scope with totals := true } }

/-! ### Order -/

def ordinal (number : Nat) : String :=
  let ending :=
    if number % 100 / 10 = 1 then "th"
    else
      match number % 10 with
      | 1 => "st"
      | 2 => "nd"
      | 3 => "rd"
      | _ => "th"
  toString number ++ ending

def outOfRange (clause : String) (index width : Nat) (place : Option Nat) : Complaint :=
  { message := ordinal (index + 1) ++ " " ++ clause ++ " BY term out of range - should be between " ++
      "1 and " ++ toString width
    place := place }

def named? {Q : Type} (results : List Result) : Expr Q → Option Nat
  | .column none none name _ _ =>
      results.findIdx? fun result => result.isNamed && sameName result.name name
  | _ => none

/-- The last result that is a term. -/
def lastCopy? (results : List Result) (term : Term) : Option Nat :=
  ((results.zipIdx.filter fun entry => entry.1.term == term).getLast?).map (·.2)

def keyCollation? {Q : Type} : Expr Q → Option Collation
  | .collate _ collation _ => Collation.ofName? collation
  | _ => none

def inOrderOf {Q : Type} (key : Expr Q) (term : Term) : Term :=
  match keyCollation? key with
  | some collation => .collate term collation true
  | none => term

inductive KeyMeaning where
  | result (position : Nat)
  | expression (term : Term) (copy : Option Nat)

/-- What a key stands for: a result by its name, if that is possible, or by its number, or else an
expression. -/
def keyMeaning (read : QueryResolver FoundQuery) (arm : ResolvedArm) (clause : String)
    (byName : Bool) (key : Expr FoundQuery) (index : Nat) : Resolving KeyMeaning := do
  let bare := key.withoutCollation
  match if byName then named? arm.results bare else none with
  | some position => return .result position
  | none =>
      match bare.integer? with
      | some number =>
          if number < 1 ∨ 65535 < number then
            throw (outOfRange clause index arm.results.length (Scope.place? bare))
          else return .result (number.toNat - 1)
      | none => do
          let term ← Scope.resolve read arm.scope key
          return .expression term (lastCopy? arm.results term)

def keyTerms (read : QueryResolver FoundQuery) (arm : ResolvedArm) (clause : String)
    (byName : Bool) (keys : List (Expr FoundQuery)) : Resolving (List (Term × Option Nat)) := do
  let found ← keys.zipIdx.mapM fun (key, index) => do
    return (key, index, ← keyMeaning read arm clause byName key index)
  if greatestWidth < keys.length then
    throw { message := "too many terms in " ++ clause ++ " BY clause" }
  found.mapM fun (key, index, found) =>
    match found with
    | .expression term copy => return (term, copy)
    | .result position =>
        match arm.results[position]? with
        | some result => return (inOrderOf key result.term, some position)
        | none => throw (outOfRange clause index arm.results.length none)

def order (read : QueryResolver FoundQuery) (arm : ResolvedArm) (keys : List (SortKey FoundQuery)) :
    Resolving (List OrderKey) := do
  let terms ← keyTerms read arm "ORDER" true (keys.map (·.key))
  return (terms.zip keys).map fun ((term, copy), key) =>
    { term := term, direction := key.direction, copy := copy }

def groups (read : QueryResolver FoundQuery) (arm : ResolvedArm) (keys : List (Expr FoundQuery)) :
    Resolving (List Term) := do
  let terms ← keyTerms read arm "GROUP" false keys
  if (terms.any fun term => !term.1.totals.isEmpty) then
    throw { message := "aggregate functions are not allowed in the GROUP BY clause" }
  return terms.map (·.1)

def matching? (read : QueryResolver FoundQuery) (arm : ResolvedArm) (key : Expr FoundQuery) :
    Resolving (Option Nat) := do
  match named? arm.results key with
  | some position => return some position
  | none =>
      match (Scope.resolve read arm.scope key).run { (← get) with totals := arm.arm.totals } with
      | .ok (term, _) => return arm.results.findIdx? fun result => result.term == term
      | .error _ => return none

/-- The result that a key of a query with several arms stands for, looked for arm by arm. -/
def commonKey (read : QueryResolver FoundQuery) (index : Nat) (key : Expr FoundQuery) :
    List ResolvedArm → Resolving Nat
  | [] =>
      throw { message := ordinal (index + 1) ++
        " ORDER BY term does not match any column in the result set" }
  | arm :: rest => do
      match key.integer? with
      | some number =>
          if number < 1 ∨ arm.results.length < number then
            throw (outOfRange "ORDER" index arm.results.length (Scope.place? key))
          else return number.toNat - 1
      | none =>
          match ← matching? read arm key with
          | some position => return position
          | none => commonKey read index key rest

def commonOrder (read : QueryResolver FoundQuery) (arms : List ResolvedArm) :
    List (SortKey FoundQuery × Nat) → Resolving (List OrderKey)
  | [] => return []
  | (key, index) :: rest => do
      let position ← commonKey read index key.key.withoutCollation arms
      let terms := arms.filterMap fun arm => arm.arm.results[position]?
      let collation := keyCollation? key.key <|> terms.findSome? Term.collation?
      return { term := terms.headD (.literal .null), direction := key.direction
               copy := some position, order := some (collation.getD .binary) } ::
        (← commonOrder read arms rest)

/-! ### Queries -/

/-- What is wrong with an arm that has another number of results than the one after it. -/
def widthDefect (link : Compound) (isValues : Bool) : Complaint :=
  if isValues then { message := "all VALUES must have the same number of terms" }
  else
    { message := "SELECTs to the left and right of " ++ link.name ++ " do not have the same number " ++
        "of result columns" }

/-- Resolves the arms of a query, the last one first. A simple query is sorted by what its only arm
can see. -/
def resolvedArms (read : QueryResolver FoundQuery) (around : Scope) (found : FoundQuery)
    (isCompound : Bool) :
    List (FoundArm FoundQuery) → List Compound → Resolving (List ResolvedArm × List OrderKey)
  | [], _ => return ([], [])
  | arm :: rest, links => do
      let (later, keys) ← resolvedArms read around found isCompound rest (links.drop 1)
      modify fun state => { state with totals := [] }
      let resolved ← resolvedArm read around isCompound arm
      let keys ← if isCompound then pure keys else order read resolved found.order
      let groups ← groups read resolved arm.core.groups
      match later with
      | next :: _ =>
          if next.results.length ≠ resolved.results.length then
            throw (widthDefect (links.headD .unionAll) next.arm.isValues)
      | [] => pure ()
      let whole : Arm Query := { resolved.arm with totals := (← get).totals, groups := groups }
      let used := whole.withUsed (if isCompound then [] else keys)
        (whole.sources.map (·.number))
      return ({ resolved with arm := used } :: later, keys)

def resolvedWith (read : QueryResolver FoundQuery) (around : Scope) (found : FoundQuery) :
    Resolving NamedQuery := do
  let totals := (← get).totals
  let isCompound := decide (1 < found.arms.length)
  let alone : Scope := { around := around.around, pointed := around.pointed }
  let limit ← resolved? read alone found.limit
  let offset ← resolved? read alone found.offset
  let (arms, order) ← resolvedArms read around found isCompound found.arms found.links
  if isCompound && greatestWidth < found.order.length then
    throw { message := "too many terms in ORDER BY clause" }
  let order ←
    if isCompound then commonOrder read arms found.order.zipIdx else pure order
  modify fun state => { state with totals := totals }
  let views := (arms.flatMap fun arm => arm.arm.sources.filterMap Source.query?).map fun query =>
    query.views + 1
  return {
    names := (arms.head?.map fun arm => arm.results.map (·.name)).getD []
    query :=
      { arms := arms.map (·.arm), links := found.links, order := order, limit := limit
        offset := offset, views := views.foldl Nat.add 0 } }

/-- Resolves a query that goes through queries no deeper than `fuel`. -/
def resolvedTo : Nat → QueryResolver FoundQuery
  | 0 => fun _ _ => throw { message := "circular reference" }
  | fuel + 1 => fun around found => do
      return (← resolvedWith (resolvedTo fuel) around found).query

/-! ### Statements -/

def deepest (context : Context) : Nat := context.sql.length + 1

def readWith (read : ViewReader) : ViewReader := fun context select => do
  let found ← foundTo read (deepest context) context select
  let around : Scope := { pointed := !context.inView }
  return (← resolving context
    (resolvedWith (resolvedTo (deepest context)) around found)).1

def readTo : Nat → ViewReader
  | 0 => fun context _ => complain context { message := "view is circularly defined" }
  | fuel + 1 => readWith (readTo fuel)

def viewCount (context : Context) : Compiling Nat := do
  return (← picture context .main).items.length + (← picture context .temp).items.length

/-- Resolves a query. No view goes through itself, so there is no way through more views than there
are. -/
def resolved (context : Context) (select : Select) : Compiling NamedQuery := do
  readTo ((← viewCount context) + 1) context select

/-- Resolves expressions in a scope. Queries within them are found first. -/
def resolvedExpressions (context : Context) (scope : Scope) (expressions : List Expression) :
    Compiling (List Term × List Aggregate) := do
  let find := foundTo (readTo ((← viewCount context) + 1)) (deepest context)
  let found ← Expr.mapQueriesAll (find context) expressions
  resolving context (Scope.resolveAll (resolvedTo (deepest context)) scope found)

end Compiling

end RowSource.Sql
