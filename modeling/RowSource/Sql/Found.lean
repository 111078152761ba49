import RowSource.Sql.Locate

/-!
# Queries whose tables are found

Before the names in a query are resolved, its tables are found and the columns of its results are
known by their names. Of the arms of a query the last comes first; the tables of an arm come before
the queries within its expressions.
-/

namespace RowSource.Sql

/-! ### Queries within expressions -/

namespace Expr

variable {m : Type → Type} [Monad m] {Q R : Type} (f : Q → m R)

mutual

def mapQueries : Expr Q → m (Expr R)
  | .literal value => return .literal value
  | .number source place => return .number source place
  | .parameter index place => return .parameter index place
  | .column database table name quote place => return .column database table name quote place
  | .call head arguments => do return .call head (← mapQueriesAll arguments)
  | .ordered inner keys directions => do
      let inner ← inner.mapQueries
      return .ordered inner (← mapQueriesAll keys) directions
  | .filtered inner condition => do
      let inner ← inner.mapQueries
      return .filtered inner (← condition.mapQueries)
  | .cast operand type => do return .cast (← operand.mapQueries) type
  | .collate operand collation place => do return .collate (← operand.mapQueries) collation place
  | .unary op operand => do return .unary op (← operand.mapQueries)
  | .binary op left right => do
      let left ← left.mapQueries
      return .binary op left (← right.mapQueries)
  | .between operand low high => do
      let operand ← operand.mapQueries
      let low ← low.mapQueries
      return .between operand low (← high.mapQueries)
  | .row items => do return .row (← mapQueriesAll items)
  | .inList operand members => do
      let operand ← operand.mapQueries
      return .inList operand (← mapQueriesAll members)
  | .inQuery operand inner => do
      let operand ← operand.mapQueries
      return .inQuery operand (← f inner)
  | .nonempty inner => do return .nonempty (← f inner)
  | .query inner => do return .query (← f inner)
  | .choice condition result otherwise => do
      let condition ← condition.mapQueries
      let result ← result.mapQueries
      return .choice condition result (← otherwise.mapQueries)
  | .caseOf operand choices => do
      let operand ← operand.mapQueries
      return .caseOf operand (← choices.mapQueries)
  | .raise resolution message place => do return .raise resolution (← message.mapQueries) place

def mapQueriesAll : List (Expr Q) → m (List (Expr R))
  | [] => return []
  | item :: rest => do
      let item ← item.mapQueries
      return item :: (← mapQueriesAll rest)

end

def mapQueries? (value : Option (Expr Q)) : m (Option (Expr R)) :=
  match value with
  | none => return none
  | some value => return some (← value.mapQueries f)

end Expr

/-! ### Names of columns -/

/-- The number that ends a name after a colon, without the colon and the number. -/
def withoutNumber (name : String) : String :=
  let (digits, rest) := name.toList.reverse.span Char.isDigit
  match rest with
  | ':' :: c :: front =>
      if digits.isEmpty then name else String.ofList (c :: front).reverse
  | _ => name

def freeName (taken : List String) (name : String) : Nat → Nat → String
  | 0, _ => name
  | fuel + 1, count =>
      if (taken.any fun other => sameName other name) then
        freeName taken (withoutNumber name ++ ":" ++ toString (count + 1)) fuel (count + 1)
      else name

/-- Names for the columns of a query that is read like a table, all different. -/
def columnNames (names : List String) : List String :=
  (names.zipIdx.foldl
    (fun taken (name, position) =>
      let plain :=
        if sameName name "true" ∨ sameName name "false" then "column" ++ toString (position + 1)
        else name
      freeName taken plain (taken.length + 1) 0 :: taken)
    []).reverse

/-! ### Found queries -/

structure NamedQuery where
  names : List String
  query : Query

inductive ResultItem (Q : Type) where
  | shown (table column : String)
  | expr (value : Expr Q) (label : Option String) (text : String)

/-- A column that has to be the same in two tables, by the places of the tables and its positions in
them. -/
structure SharedColumn where
  left : Nat
  leftPosition : Nat
  rightPosition : Nat
  name : String

inductive FoundItem (Q : Type) where
  | source (source : Source Query) (schema : Option Schema)
  /-- A query, with the names of its columns and the number of the source that it is to be. -/
  | query (number : Nat) (names : List String) (query : Q)

structure FoundTable (Q : Type) where
  label : String
  item : FoundItem Q
  columns : List (String × Bool)
  join : Join := {}
  arguments : List (Expr Q) := []
  condition : Option (Expr Q) := none
  shared : List SharedColumn := []
  hint : IndexHint := .free

structure FoundArm (Q : Type) where
  core : SelectCore Q
  tables : List (FoundTable Q)
  items : List (ResultItem Q)

structure FoundQuery where
  names : List String
  arms : List (FoundArm FoundQuery)
  links : List Compound
  order : List (SortKey FoundQuery)
  limit : Option (Expr FoundQuery)
  offset : Option (Expr FoundQuery)

instance : Inhabited FoundQuery := ⟨⟨[], [], [], [], none, none⟩⟩

namespace Compiling

def greatestWidth : Nat := 2000

/-! ### Results -/

variable {Q : Type}

/-- Whether a column is left out among all columns, being the same as one before. -/
def FoundTable.shows (table : FoundTable Q) (all : Bool) (column : String × Bool) : Bool :=
  !column.2 && !(all && table.shared.any fun shared => sameName shared.name column.1)

def shownItems (all : Bool) (table : FoundTable Q) : List (ResultItem Q) :=
  (table.columns.filter (FoundTable.shows table all)).map fun column =>
    .shown table.label column.1

def items (tables : List (FoundTable Q)) :
    List (ResultColumn Q) → Except Complaint (List (ResultItem Q))
  | [] => return []
  | column :: rest => do
      let here ← match column with
        | .all =>
            if tables.isEmpty then throw { message := "no tables specified" }
            else pure (tables.flatMap (shownItems true))
        | .allOf name =>
            match tables.filter fun table => sameName table.label name with
            | [] => throw { message := "no such table: " ++ name }
            | named => pure (named.flatMap (shownItems false))
        | .expr value label text => pure [.expr value label text]
      return here ++ (← items tables rest)

def itemName : ResultItem Q → String
  | .shown _ column => column
  | .expr _ (some label) _ => label
  | .expr (.column _ _ name _ _) none _ => name
  | .expr _ none text => text

/-! ### Joins -/

/-- The first of some tables that has a column of a name, with the position of the column. -/
def columnPlace? (tables : List (FoundTable Q)) (hiddenToo : Bool) (name : String) :
    Option (Nat × Nat) :=
  tables.zipIdx.findSome? fun (table, place) =>
    (table.columns.findIdx? fun column =>
      sameName column.1 name && (hiddenToo || !column.2)).map fun position => (place, position)

def sharedNames (before : List (FoundTable Q)) (table : FoundTable Q) (shared : List String)
    (isPlain : Bool) : Except Complaint (List String) :=
  if table.join.natural then
    if isPlain then
      .ok ((table.columns.filter fun column =>
        !column.2 && (columnPlace? before false column.1).isSome).map (·.1))
    else throw { message := "a NATURAL join may not have an ON or USING clause" }
  else .ok shared

def withShared (before : List (FoundTable Q)) (table : FoundTable Q) (shared : List String) :
    Except Complaint (FoundTable Q) := do
  let names ← sharedNames before table shared (shared.isEmpty && table.condition.isNone)
  let columns ← names.mapM fun name => do
    match columnPlace? before (!table.join.natural) name, columnPlace? [table] true name with
    | some (left, leftPosition), some (_, rightPosition) =>
        return ({ left := left, leftPosition := leftPosition, rightPosition := rightPosition
                  name := name } : SharedColumn)
    | _, _ =>
        throw { message := "cannot join using column " ++ name ++
          " - column not present in both tables" }
  return { table with shared := columns }

/-! ### Tables -/

/-- The columns of the query of a view, with the positions of those that have no affinity. There may
turn out to be more names than results. -/
def derivedColumns (names : List String) (query : Query) : List Column × List Nat :=
  let unknown := List.replicate names.length (none, none)
  let described := names.zip (query.affinities.zip query.collations ++ unknown)
  (described.map fun (name, affinity, collation) =>
    { name := name
      affinity := affinity.getD .blob
      collation := collation.getD .binary : Column },
    described.zipIdx.filterMap fun ((_, affinity, _), position) =>
      if affinity.isNone then some position else none)

abbrev ViewReader := Context → Select → Compiling NamedQuery

abbrev Finder := Context → Select → Compiling FoundQuery

/-- What a located table is as a source. A statement may use any host table, a view only those that
allow it. -/
def locatedSource (read : ViewReader) (context : Context) (ref : TableRef Select)
    (name : TableName) (isCalled : Bool) (located : Located) :
    Compiling (Source Query × Option Schema) := do
  let refuseCall : Compiling Unit := do
    if isCalled then complain context { message := "'" ++ name.name ++ "' is not a function" }
  let crossed := ref.join.crossed
  match located with
  | .stored id table => do
      refuseCall
      return ({ number := ← fresh, origin := .stored id table, columns := table.columns
                crossed := crossed, hint := ref.hint }, some id.schema)
  | .hosted table => do
      if context.inView && table.directOnly then
        complain context { message := "unsafe use of virtual table \"" ++ table.name ++ "\"" }
      return ({ number := ← fresh, origin := .hosted table, columns := table.columns
                crossed := crossed }, some table.schema)
  | .view id names query => do
      refuseCall
      if (context.views.any (sameName id.name)) then
        complain context { message := "view " ++ id.name ++ " is circularly defined" }
      let inner : Context :=
        { connection := context.connection, sql := context.sql, views := id.name :: context.views
          schema := if id.schema = .main then some .main else none }
      let query ← read inner query
      let (columns, untyped) := derivedColumns (columnNames (names.getD query.names)) query.query
      return ({ number := ← fresh, origin := .derived (some id.name) query.query, columns := columns
                untyped := untyped, crossed := crossed }, some id.schema)

def namedTable? (context : Context) (name : TableName) : Option NamedTable :=
  if name.database.isSome then none
  else context.named.find? fun known =>
    match known with
    | .mk table _ => sameName table.name name.name

def foundItem (find : Finder) (read : ViewReader) (context : Context) (ref : TableRef Select) :
    Compiling (FoundItem FoundQuery × List (String × Bool) × String) := do
  let derived (context : Context) (query : Select) (columns : Option (List String))
      (name : Option String) : Compiling (FoundItem FoundQuery × List (String × Bool)) := do
    let query ← find context query
    let names := columnNames (columns.getD query.names)
    if names.length ≠ query.names.length then
      let counts :=
        toString query.names.length ++ " values for " ++ toString names.length ++ " columns"
      complain context { message := "table " ++ name.getD "" ++ " has " ++ counts }
    return (.query (← fresh) names query, names.map fun name => (name, false))
  match ref.item with
  | .query query => do
      let (item, columns) ← derived context query none none
      return (item, columns, ref.label.getD "")
  | .named name arguments =>
      match namedTable? context name with
      | some (.mk table others) => do
          if arguments.isSome then
            complain context { message := "'" ++ name.name ++ "' is not a function" }
          let inner := { context with
            named := others.filter fun known =>
              match known with
              | .mk other _ => !sameName other.name table.name }
          let (item, columns) ← derived inner table.query table.columns (some table.name)
          return (item, columns, ref.label.getD name.name)
      | none => do
          let located ← locate context name
          let (source, schema) ← locatedSource read context ref name arguments.isSome located
          return (.source source schema,
            source.columns.map (fun column => (column.name, column.hidden)),
            ref.label.getD name.name)

def foundTables (find : Finder) (read : ViewReader) (context : Context) :
    List (TableRef Select) →
      Compiling (List (FoundItem FoundQuery × List (String × Bool) × String))
  | [] => return []
  | ref :: rest => do
      let here ← foundItem find read context ref
      return here :: (← foundTables find read context rest)

/-- Finds the queries within the expressions of tables: those in the conditions of joins, and those in
the arguments. -/
def completedTable (find : Finder) (context : Context) (before : List (FoundTable FoundQuery))
    (ref : TableRef Select) (found : FoundItem FoundQuery × List (String × Bool) × String) :
    Compiling (FoundTable FoundQuery) := do
  if ref.join.keepsRight then
    complain context { message := "RIGHT and FULL OUTER JOINs are not currently supported" }
  let arguments := match ref.item with
    | .named _ arguments => arguments.getD []
    | .query _ => []
  let condition ← Expr.mapQueries? (find context) ref.condition
  let arguments ← Expr.mapQueriesAll (find context) arguments
  let table : FoundTable FoundQuery :=
    { label := found.2.2, item := found.1, columns := found.2.1, join := ref.join
      arguments := arguments, condition := condition, hint := ref.hint }
  ofExcept context (withShared before table ref.shared)

def foundColumn (find : Finder) (context : Context) :
    ResultColumn Select → Compiling (ResultColumn FoundQuery)
  | .all => return .all
  | .allOf table => return .allOf table
  | .expr value label text => do
      return .expr (← value.mapQueries (find context)) label text

def foundArm (find : Finder) (read : ViewReader) (context : Context) (core : SelectCore Select) :
    Compiling (FoundArm FoundQuery) := do
  let found ← foundTables find read context core.tables
  let columns ← core.columns.mapM (foundColumn find context)
  let tables ← (core.tables.zip found).foldlM
    (fun before (ref, found) => do
      return before ++ [← completedTable find context before ref found]) []
  let items ← ofExcept context (items tables columns)
  if greatestWidth < items.length then
    complain context { message := "too many columns in result set" }
  let condition ← Expr.mapQueries? (find context) core.condition
  let groups ← Expr.mapQueriesAll (find context) core.groups
  let having ← Expr.mapQueries? (find context) core.having
  return {
    core :=
      { distinct := core.distinct, columns := columns, condition := condition, groups := groups
        having := having, isValues := core.isValues }
    tables := tables
    items := items }

def foundArms (find : Finder) (read : ViewReader) (context : Context) :
    List (SelectPart Select) → Compiling (List (FoundArm FoundQuery))
  | [] => return []
  | part :: rest => do
      let later ← foundArms find read context rest
      return (← foundArm find read context part.core) :: later

def withNamed (tables : List (CommonTable Select)) (context : Context) : Context :=
  let plain := tables.map fun table => NamedTable.mk table context.named
  let known := tables.map fun table => NamedTable.mk table (plain ++ context.named)
  { context with named := known ++ context.named }

def foundWith (find : Finder) (read : ViewReader) : Finder := fun context select => do
  let context := withNamed select.tables context
  let arms ← foundArms find read context select.parts
  let order ← select.order.mapM fun key => do
    return (⟨← key.key.mapQueries (find context), key.direction⟩ : SortKey FoundQuery)
  let limit ← Expr.mapQueries? (find context) select.limit
  let offset ← Expr.mapQueries? (find context) select.offset
  return {
    names := (arms.head?.map fun arm => arm.items.map itemName).getD []
    arms := arms
    links := (select.parts.drop 1).map (·.link)
    order := order
    limit := limit
    offset := offset }

def foundTo (read : ViewReader) : Nat → Finder
  | 0 => fun context _ => complain context { message := "circular reference" }
  | fuel + 1 => foundWith (foundTo read fuel) read

end Compiling

end RowSource.Sql
