import RowSource.Sql.Parser.Expression

/-!
# Parsing SQL: queries and changes of rows
-/

namespace RowSource.Sql

namespace Parser

/-! ### Results -/

def label? : Parser (Option String) := do
  if ← takeWord "as" then
    return some (← name).1
  else
    match ← peek with
    | none => return none
    | some token =>
        match token.plainName? with
        | some name => advance; return some name
        | none => return none

section

variable (query : Parser Select)

def expressionWith : Parser Expression := do expr query 1 (← enough)

def resultColumn : Parser (ResultColumn Select) := do
  if ← takeSymbol "*" then return .all
  else
    match (← get).tokens with
    | table :: dot :: star :: _ =>
        if dot.isSymbol "." && star.isSymbol "*" then
          match table.name? with
          | some name =>
              advance
              advance
              advance
              return .allOf name
          | none => unexpected
        else plain
    | _ => plain
where
  plain : Parser (ResultColumn Select) := do
    let start ← place
    let value ← expressionWith query
    let text ← textFrom start
    return .expr value (← label?) text

def resultColumns : Parser (List (ResultColumn Select)) := do
  commaSeparated (resultColumn query) (← enough)

/-! ### Tables -/

def joinOf (words : List Token) : Join × Bool :=
  let is (word : String) : Bool := words.any (·.isWord word)
  let known := words.all fun token =>
    ["natural", "left", "outer", "right", "full", "inner", "cross"].any token.isWord
  let isInner := is "inner" || is "cross"
  let keepsLeft := is "left" || is "full"
  let keepsRight := is "right" || is "full"
  let isOuter := is "outer" || keepsLeft || keepsRight
  let join : Join :=
    { natural := is "natural", crossed := is "cross"
      keepsLeft := keepsLeft, keepsRight := keepsRight }
  (join, known && !(isInner && isOuter) && !(is "outer" && !keepsLeft && !keepsRight))

def joinWords : Nat → Parser (List Token)
  | 0 => return []
  | fuel + 1 => do
      if ← nextIsWord "join" then return []
      else
        match ← peek with
        | some token =>
            if token.name?.isSome then
              advance
              return token :: (← joinWords fuel)
            else return []
        | none => return []

def join? : Parser (Option Join) := do
  if ← takeSymbol "," then return some {}
  else if ← takeWord "join" then return some {}
  else
    match ← peek with
    | some token =>
        if token.kind = .word && Token.joining.contains (foldCase token.source) then
          let words ← joinWords 3
          expectWord "join"
          let (join, isKnown) := joinOf words
          if isKnown then return some join
          else
            raise ("unknown join type: " ++ " ".intercalate (words.map (·.source)))
              (words.getLast?.map (·.start))
            return some {}
        else return none
    | none => return none

def indexHint : Parser IndexHint := do
  if ← takeWord "indexed" then
    expectWord "by"
    return .by (← name).1
  else if (← nextIsWord "not") && (← get).tokens[1]?.any (·.isWord "indexed") then
    advance
    advance
    return .none
  else return .free

def joinTail (ref : TableRef Select) (isFirst : Bool) : Parser (TableRef Select) := do
  if ← takeWord "on" then
    let condition ← expressionWith query
    if isFirst then raise "a JOIN clause is required before ON"
    return { ref with condition := some condition }
  else if ← takeWord "using" then
    let columns ← parenthesised (commaSeparated name (← enough))
    if isFirst then raise "a JOIN clause is required before USING"
    return { ref with shared := columns.map (·.1) }
  else return ref

mutual

def tableRef (join : Join) (isFirst : Bool) : Nat → Parser (TableRef Select)
  | 0 => throw { message := "parser stack overflow" }
  | fuel + 1 => do
      if ← takeSymbol "(" then
        if ← nextIsQuery then
          let inner ← query
          expectSymbol ")"
          joinTail query
            { item := .query inner, label := ← label?, join := join } isFirst
        else
          let tables ← tableList fuel
          expectSymbol ")"
          let label ← label?
          match tables with
          | [only] =>
              joinTail query { only with label := label <|> only.label, join := join } isFirst
          | _ =>
              joinTail query
                { item := .query { parts := [{ core := { columns := [.all], tables := tables } }] }
                  label := label, join := join, isJoined := true } isFirst
      else
        let table ← tableName
        if ← takeSymbol "(" then
          let arguments ←
            if ← takeSymbol ")" then pure []
            else listTail query (← enough)
          joinTail query
            { item := .named table (some arguments), label := ← label?, join := join } isFirst
        else
          let label ← label?
          joinTail query
            { item := .named table none, label := label, join := join, hint := ← indexHint } isFirst

def tableList : Nat → Parser (List (TableRef Select))
  | 0 => throw { message := "parser stack overflow" }
  | fuel + 1 => do
      let first ← tableRef {} true fuel
      return first :: (← furtherTables fuel)

def furtherTables : Nat → Parser (List (TableRef Select))
  | 0 => throw { message := "parser stack overflow" }
  | fuel + 1 => do
      match ← join? with
      | none => return []
      | some join =>
          let table ← tableRef join false fuel
          return table :: (← furtherTables fuel)

end

def tables? : Parser (List (TableRef Select)) := do
  if ← takeWord "from" then tableList query (← enough) else return []

def condition? : Parser (Option Expression) := do
  if ← takeWord "where" then return some (← expressionWith query) else return none

/-! ### Parts of queries -/

/-- A part of a query with the order and the limits that stand after it. -/
structure Piece where
  core : SelectCore Select
  order : List (SortKey Select) := []
  limit : Option Expression := none
  offset : Option Expression := none

def sortKeys : Parser (List (SortKey Select)) := do
  return (← keyItems query (← enough)).map fun (key, direction) => ⟨key, direction⟩

def pieceTail (core : SelectCore Select) : Parser Piece := do
  let order ←
    if ← takeWord "order" then
      expectWord "by"
      sortKeys query
    else pure []
  if ← takeWord "limit" then
    let first ← expressionWith query
    if ← takeWord "offset" then return ⟨core, order, some first, some (← expressionWith query)⟩
    else if ← takeSymbol "," then
      return ⟨core, order, some (← expressionWith query), some first⟩
    else return ⟨core, order, some first, none⟩
  else return ⟨core, order, none, none⟩

def selectPiece : Parser Piece := do
  let distinct ← takeWord "distinct"
  if !distinct then
    let _ ← takeWord "all"
  let columns ← resultColumns query
  let tables ← tables? query
  let condition ← condition? query
  let groups ←
    if ← takeWord "group" then
      expectWord "by"
      items query (← enough)
    else pure []
  let having ← if ← takeWord "having" then pure (some (← expressionWith query)) else pure none
  pieceTail query
    { distinct := distinct, columns := columns, tables := tables, condition := condition
      groups := groups, having := having }

def valuesCore (row : List Expression) : SelectCore Select where
  columns := row.zipIdx.map fun (value, position) =>
    .expr value none ("column" ++ toString (position + 1))
  isValues := true

/-- The rows after `VALUES`, all as long as the first. -/
def valueRows (width : Option Nat) : Nat → Parser (List (List Expression))
  | 0 => unexpected
  | fuel + 1 => do
      expectSymbol "("
      let row ← listTail query (← enough)
      if width.any (· ≠ row.length) then raise "all VALUES must have the same number of terms"
      if ← takeSymbol "," then return row :: (← valueRows (some (width.getD row.length)) fuel)
      else return [row]

def pieces : Parser (List Piece) := do
  if ← takeWord "values" then
    let rows ← valueRows query none (← enough)
    return rows.map fun row => { core := valuesCore row }
  else
    expectWord "select"
    return [← selectPiece query]

def compound? : Parser (Option Compound) := do
  if ← takeWord "union" then
    if ← takeWord "all" then return some .unionAll else return some .union
  else if ← takeWord "intersect" then return some .intersect
  else if ← takeWord "except" then return some .except
  else return none

def linkedPieces (link : Compound) : Nat → Parser (List (Compound × Piece))
  | 0 => unexpected
  | fuel + 1 => do
      let here ← pieces query
      let linked := here.zipIdx.map fun (piece, position) =>
        (if position = 0 then link else .unionAll, piece)
      match ← compound? with
      | some link => return linked ++ (← linkedPieces link fuel)
      | none => return linked

def greatestParts : Nat := 500

/-- Complains of an order or a limit that stands before the last part. -/
def checkPieces (linked : List (Compound × Piece)) : Parser Unit := do
  let early := (linked.zip (linked.drop 1)).reverse.find? fun entry =>
    !entry.1.2.order.isEmpty || entry.1.2.limit.isSome
  match early with
  | some ((_, piece), (link, _)) =>
      raise ((if piece.order.isEmpty then "LIMIT" else "ORDER BY") ++
        " clause should come after " ++ link.name ++ " not before")
  | none =>
      if greatestParts < linked.length && !(linked.all fun entry => entry.2.core.isValues) then
        raise "too many terms in compound SELECT"

def plainSelect (named : List (CommonTable Select)) : Parser Select := do
  let linked ← linkedPieces query .unionAll (← enough)
  checkPieces linked
  let parts := linked.map fun (link, piece) => { link := link, core := piece.core }
  match linked.getLast? with
  | some (_, piece) =>
      return {
        tables := named, parts := parts
        order := piece.order, limit := piece.limit, offset := piece.offset }
  | none => return { tables := named, parts := parts }

/-! ### Queries that go by names -/

/-- Names with nothing but commas between them. An order or a collation may not follow. -/
def plainNames : Nat → Parser (List String)
  | 0 => unexpected
  | fuel + 1 => do
      let source ← nextSource
      let (first, _) ← name
      let collated ← takeWord "collate"
      if collated then
        let _ ← collationName
      let directed ← if ← takeWord "desc" then pure true else takeWord "asc"
      if collated || directed then
        raise ("syntax error after column name \"" ++ source ++ "\"")
      if ← takeSymbol "," then return first :: (← plainNames fuel) else return [first]

def columnNames? : Parser (Option (List String)) := do
  if ← takeSymbol "(" then
    let names ← plainNames (← enough)
    expectSymbol ")"
    return some names
  else return none

def commonTables (known : List String) : Nat → Parser (List (CommonTable Select))
  | 0 => unexpected
  | fuel + 1 => do
      let (table, _) ← name
      let columns ← columnNames?
      expectWord "as"
      if ← takeWord "not" then expectWord "materialized"
      else
        let _ ← takeWord "materialized"
      expectSymbol "("
      let inner ← query
      expectSymbol ")"
      if known.any (sameName table) then raise ("duplicate WITH table name: " ++ table)
      let here : CommonTable Select := ⟨table, columns, inner⟩
      if ← takeSymbol "," then return here :: (← commonTables (table :: known) fuel)
      else return [here]

def with? : Parser (List (CommonTable Select)) := do
  if ← takeWord "with" then
    let _ ← takeWord "recursive"
    commonTables query [] (← enough)
  else return []

end

/-! ### Queries -/

def selectWithin : Nat → Parser Select
  | 0 => throw { message := "parser stack overflow" }
  | fuel + 1 => do
      let named ← with? (selectWithin fuel)
      plainSelect (selectWithin fuel) named

def select : Parser Select := do selectWithin (← enough)

def expression : Parser Expression := expressionWith select

def expressions : Parser (List Expression) := do commaSeparated expression (← enough)

/-! ### Changes -/

def returning : Parser (List (ResultColumn Select)) := do
  if ← takeWord "returning" then resultColumns select else return []

def columnNames : Parser (List String) := do
  return (← commaSeparated name (← enough)).map (·.1)

def resolution : Parser Resolution := do
  if ← takeWord "rollback" then return .rollback
  else if ← takeWord "abort" then return .abort
  else if ← takeWord "fail" then return .fail
  else if ← takeWord "ignore" then return .ignore
  else
    expectWord "replace"
    return .replace

def orResolution? : Parser (Option Resolution) := do
  if ← takeWord "or" then return some (← resolution) else return none

def assignment : Parser Assignment := do
  let start ← place
  if ← takeSymbol "(" then
    let columns ← columnNames
    expectSymbol ")"
    expectSymbol "="
    return { columns := columns, value := ← expression, place := start }
  else
    let (column, _) ← name
    expectSymbol "="
    return { columns := [column], value := ← expression, place := start }

def assignments : Parser (List Assignment) := do commaSeparated assignment (← enough)

def upserts : Nat → Parser (List Upsert)
  | 0 => unexpected
  | fuel + 1 => do
      if ← takeWord "on" then
        expectWord "conflict"
        let isTargeted ← takeSymbol "("
        let target ←
          if isTargeted then
            let keys ← sortKeys select
            expectSymbol ")"
            pure keys
          else pure []
        let targetCondition ← if isTargeted then condition? select else pure none
        expectWord "do"
        if ← takeWord "nothing" then
          let here : Upsert := { target := target, targetCondition := targetCondition }
          return here :: (← if isTargeted then upserts fuel else pure [])
        else
          expectWord "update"
          expectWord "set"
          let changes ← assignments
          let here : Upsert :=
            { target := target, targetCondition := targetCondition, changes := some changes
              condition := ← condition? select }
          return here :: (← if isTargeted then upserts fuel else pure [])
      else return []

def changedLabel : Parser (Option String) := do
  if ← takeWord "as" then return some (← name).1 else return none

def insertTail (named : List (CommonTable Select)) (resolution : Option Resolution) :
    Parser Command := do
  expectWord "into"
  let table ← tableName
  let label ← changedLabel
  let columns ←
    if ← nextIsSymbol "(" then pure (some (← parenthesised columnNames)) else pure none
  if ← takeWord "default" then
    expectWord "values"
    return .insert {
      resolution := resolution, tables := named, table := table, label := label, columns := columns
      source := .defaults, returning := ← returning }
  else
    let rows ← select
    let upserts ← upserts (← enough)
    return .insert {
      resolution := resolution, tables := named, table := table, label := label, columns := columns
      source := .query rows, upserts := upserts, returning := ← returning }

def update (named : List (CommonTable Select)) : Parser Command := do
  let resolution ← orResolution?
  let table ← tableName
  let label ← changedLabel
  let hint ← indexHint
  expectWord "set"
  let changes ← assignments
  let sources ← tables? select
  let condition ← condition? select
  return .update {
    resolution := resolution, tables := named, table := table, label := label, hint := hint
    changes := changes, sources := sources, condition := condition, returning := ← returning }

def delete (named : List (CommonTable Select)) : Parser Command := do
  expectWord "from"
  let table ← tableName
  let label ← changedLabel
  let hint ← indexHint
  let condition ← condition? select
  return .delete {
    tables := named, table := table, label := label, hint := hint, condition := condition
    returning := ← returning }

/-- A query or a change of rows after the queries that it goes by names, if that is what comes
next. -/
def rowsCommand? (named : List (CommonTable Select)) : Parser (Option Command) := do
  if (← nextIsWord "select") || (← nextIsWord "values") then
    return some (.select (← plainSelect select named))
  else if ← takeWord "insert" then
    let resolution ← orResolution?
    return some (← insertTail named resolution)
  else if ← takeWord "replace" then return some (← insertTail named (some .replace))
  else if ← takeWord "update" then return some (← update named)
  else if ← takeWord "delete" then return some (← delete named)
  else return none

end Parser

end RowSource.Sql
