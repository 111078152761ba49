import RowSource.Sql.Collation
import RowSource.Sql.Parser.Query

/-!
# Parsing SQL: declarations

Declarations of tables, views and tables of modules. A declaration is checked as it is read: its name
before what follows the name, and every column and key as soon as it is complete.
-/

namespace RowSource.Sql

namespace Parser

/-! ### Names of new things -/

def newName (temporary : Bool) : Parser NewName := do
  let ifNotExists ←
    if ← takeWord "if" then
      expectWord "not"
      expectWord "exists"
      pure true
    else pure false
  return ⟨← tableName, temporary, ifNotExists⟩

def NewName.database (name : NewName) : String :=
  if name.temporary then "temp" else name.name.database.getD "main"

def checkNew (name : NewName) : Parser Bool := do
  let known := (← get).known
  let written := name.name.name
  match name.name.database.filter fun database => !known.hasDatabase database with
  | some _ =>
      raise ("unknown database " ++ name.name.databaseText) (some name.name.databasePlace)
      return false
  | none =>
      let misnamed := name.name.database.any fun database => !sameName database "temp"
      if name.temporary && misnamed then
        raise "temporary table name must be unqualified"
        return false
      else if (foldCase written).startsWith "sqlite_" then
        raise ("object name reserved for internal use: " ++ written)
        return false
      else
        match known.find? (NewName.database name) written with
        | none => return true
        | some .index =>
            raise ("there is already an index named " ++ written)
            return false
        | some kind =>
            if !name.ifNotExists then
              let kind := if kind = .view then "view " else "table "
              raise (kind ++ name.name.written ++ " already exists") (some name.name.place)
            return false

/-! ### Constraints -/

def onConflict : Parser (Option Resolution) := do
  if ← takeWord "on" then
    expectWord "conflict"
    return some (← resolution)
  else return none

def direction : Parser Bool := do
  if ← takeWord "desc" then return true
  else
    let _ ← takeWord "asc"
    return false

def referenceAction : Parser ReferenceAction := do
  if ← takeWord "set" then
    if ← takeWord "null" then return .setNull
    else
      expectWord "default"
      return .setDefault
  else if ← takeWord "cascade" then return .cascade
  else if ← takeWord "restrict" then return .restrict
  else
    expectWord "no"
    expectWord "action"
    return .nothing

def deferral : Parser Bool := do
  expectWord "deferrable"
  if ← takeWord "initially" then
    if ← takeWord "deferred" then return true
    else
      expectWord "immediate"
      return false
  else return false

def referenceTail (reference : Reference) : Nat → Parser Reference
  | 0 => return reference
  | fuel + 1 => do
      if ← takeWord "match" then
        let _ ← name
        referenceTail reference fuel
      else if ← takeWord "on" then
        if ← takeWord "insert" then
          let _ ← referenceAction
          referenceTail reference fuel
        else if ← takeWord "delete" then
          referenceTail { reference with onDelete := ← referenceAction } fuel
        else
          expectWord "update"
          referenceTail { reference with onUpdate := ← referenceAction } fuel
      else return reference

structure Referred where
  reference : Reference
  written : String
  place : Nat
  isNamed : Bool

def reference : Parser Referred := do
  let written ← nextSource
  let (table, place) ← name
  let targets ← columnNames?
  let reference ←
    referenceTail { columns := [], table := table, targets := targets.getD [] } (← enough)
  return ⟨reference, written, place, targets.isSome⟩

/-- A literal as the value of a `DEFAULT`. -/
def defaultLiteral (negative : Bool) : Parser Expression := do
  match ← peek with
  | none => unexpected
  | some token =>
      match token.kind with
      | .integer | .real | .marked => advance; return signed (← numberOf token)
      | .text value => advance; return signed (.literal (.ofString value))
      | .blob bytes => advance; return signed (.literal (.blob bytes))
      | _ =>
          if token.isWord "null" then
            advance
            return signed (.literal .null)
          else if token.kind = .word && currentWords.contains (foldCase token.source) then
            advance
            return signed (.call { name := token.source, place := token.start } [])
          else unexpected
where
  signed (value : Expression) : Expression := if negative then .unary .negate value else value

/-- The value of a `DEFAULT`: a literal with its sign, an expression in parentheses, or a name that
stands for its own text. -/
def defaultValue : Parser Expression := do
  match ← peek with
  | none => unexpected
  | some token =>
      if token.isSymbol "(" then parenthesised expression
      else if token.isSymbol "+" then
        advance
        defaultLiteral false
      else if token.isSymbol "-" then
        advance
        defaultLiteral true
      else
        match token.kind, token.plainName? with
        | .text _, _ => defaultLiteral false
        | .quotedName name, _ => advance; return .literal (.ofString name)
        | .word, some name =>
            if currentWords.contains (foldCase name) then defaultLiteral false
            else
              advance
              if sameName name "true" then return .number "1" 0
              else if sameName name "false" then return .number "0" 0
              else return .literal (.ofString name)
        | _, _ => defaultLiteral false

/-! ### Columns -/

/-- A table that is being declared. Nothing is checked in one that will not be made. -/
structure Draft where
  name : String
  checked : Bool
  table : TableDef := {}
  label : Option String := none

namespace Draft

def withColumn (draft : Draft) (f : ColumnDef → ColumnDef) : Draft :=
  let columns := draft.table.columns
  { draft with table :=
      { draft.table with columns := columns.dropLast ++ (columns.getLast?.map f).toList } }

def latest (draft : Draft) : Nat := draft.table.columns.length - 1

def columnIndex? (draft : Draft) (name : String) : Option Nat :=
  draft.table.columns.findIdx? fun column => sameName column.name name

def complain (draft : Draft) (message : String) (place : Option Nat := none) (code : Int := 1) :
    Parser Unit := do
  if draft.checked then raise message place code

def marked (draft : Draft) (positions : List Nat) : TableDef :=
  let columns := draft.table.columns.zipIdx.map fun (column, position) =>
    { column with primaryKey := column.primaryKey || positions.contains position }
  { draft.table with columns := columns }

/-- Adds a primary key. That over a single column of integers is the identifier of the row. -/
def withPrimaryKey (draft : Draft) (columns : List KeyColumn) (resolution : Option Resolution)
    (descending autoincrement : Bool) : Parser Draft := do
  if draft.table.keys.any (·.primary) || draft.table.rowidColumn.isSome then
    draft.complain ("table \"" ++ draft.name ++ "\" has more than one primary key")
    return draft
  else if columns.any (fun key =>
      (draft.table.columns[key.column]?).any fun column => column.generated.isSome) then
    draft.complain "generated columns cannot be part of the PRIMARY KEY"
    return draft
  else
    let table := draft.marked (columns.map (·.column))
    let keyed : Draft :=
      { draft with table := { table with keys := table.keys ++ [⟨true, columns, resolution⟩] } }
    match columns with
    | [key] =>
        let isInteger := (table.columns[key.column]?).any fun column =>
          sameName column.type "integer"
        if isInteger && !descending then
          return { draft with table :=
            { table with
              rowidColumn := some key.column, onRowid := resolution
              autoincrement := autoincrement } }
        else
          if autoincrement then
            draft.complain "AUTOINCREMENT is only allowed on an INTEGER PRIMARY KEY"
          return keyed
    | _ =>
        if autoincrement then
          draft.complain "AUTOINCREMENT is only allowed on an INTEGER PRIMARY KEY"
        return keyed

def withUnique (draft : Draft) (columns : List KeyColumn) (resolution : Option Resolution) :
    Draft :=
  { draft with table :=
      { draft.table with keys := draft.table.keys ++ [⟨false, columns, resolution⟩] } }

def withGenerated (draft : Draft) (value : Expression) (kind : Option Token) : Parser Draft := do
  match draft.table.columns.getLast? with
  | none => return draft
  | some column =>
      let isStored := kind.any (·.isWord "stored")
      let wrong := kind.any fun token => !token.isWord "virtual" && !token.isWord "stored"
      if column.default.isSome || wrong then
        draft.complain ("error in generated column \"" ++ column.name ++ "\"")
      else if column.primaryKey then
        draft.complain "generated columns cannot be part of the PRIMARY KEY"
      return draft.withColumn fun column =>
        { column with generated := some value, isStored := isStored }

def withDefault (draft : Draft) (value : Expression) (text : String) : Parser Draft := do
  match draft.table.columns.getLast? with
  | none => return draft
  | some column =>
      if !isFixed value then
        draft.complain ("default value of column [" ++ column.name ++ "] is not constant")
      else if column.generated.isSome then
        draft.complain "cannot use DEFAULT on a generated column"
      return draft.withColumn fun column =>
        { column with default := some value, defaultText := text }

def withCollation (draft : Draft) (collation : String) : Parser Draft := do
  if (Collation.ofName? collation).isNone then
    draft.complain ("no such collation sequence: " ++ collation) none 257
  return draft.withColumn fun column => { column with collation := collation }

/-- Adds a condition on the rows, which goes by its name or else by its text. -/
def withCheck (draft : Draft) (condition : Expression) (text : String) : Draft :=
  let check : CheckDef := ⟨condition, draft.label.getD (unquoted text)⟩
  { draft with table := { draft.table with checks := draft.table.checks ++ [check] } }

def withColumnReference (draft : Draft) (referred : Referred) : Parser Draft := do
  if referred.isNamed && referred.reference.targets.length ≠ 1 then
    let column := ((draft.table.columns.getLast?).map (·.name)).getD ""
    draft.complain
      ("foreign key on " ++ column ++ " should reference only one column of table " ++
        referred.written) (some referred.place)
    return draft
  else
    let reference := { referred.reference with columns := [draft.latest] }
    return { draft with table :=
      { draft.table with references := draft.table.references ++ [reference] } }

def withReference (draft : Draft) (names : List String) (referred : Referred) (deferred : Bool) :
    Parser Draft := do
  if referred.isNamed && referred.reference.targets.length ≠ names.length then
    draft.complain ("number of columns in foreign key does not match the number of columns in " ++
      "the referenced table")
    return draft
  else
    match names.find? fun name => (draft.columnIndex? name).isNone with
    | some name =>
        draft.complain ("unknown column \"" ++ name ++ "\" in foreign key definition")
        return draft
    | none =>
        let reference :=
          { referred.reference with
            columns := names.filterMap draft.columnIndex?, deferred := deferred }
        return { draft with table :=
          { draft.table with references := draft.table.references ++ [reference] } }

def withDeferral (draft : Draft) (deferred : Bool) : Draft :=
  let references := draft.table.references
  { draft with table :=
      { draft.table with references := references.dropLast ++
          (references.getLast?.map fun reference =>
            { reference with deferred := deferred }).toList } }

end Draft

def parenthesisedText : Parser (Expression × String) := do
  expectSymbol "("
  let start ← place
  let value ← expression
  let text ← textFrom start
  expectSymbol ")"
  return (value, text)

def columnConstraints (draft : Draft) : Nat → Parser Draft
  | 0 => return draft
  | fuel + 1 => do
      if ← takeWord "constraint" then
        let (label, _) ← name
        columnConstraints { draft with label := some label } fuel
      else if ← takeWord "primary" then
        expectWord "key"
        let descending ← direction
        let resolution ← onConflict
        let autoincrement ← takeWord "autoincrement"
        let draft ←
          draft.withPrimaryKey [{ column := draft.latest, descending := descending }] resolution
            descending autoincrement
        columnConstraints draft fuel
      else if ← takeWord "not" then
        if ← nextIsWord "deferrable" then
          let _ ← deferral
          columnConstraints (draft.withDeferral false) fuel
        else
          expectWord "null"
          let resolution ← onConflict
          let draft := draft.withColumn fun column =>
            { column with notNull := true, onNull := resolution }
          columnConstraints draft fuel
      else if ← takeWord "null" then
        let _ ← onConflict
        columnConstraints draft fuel
      else if ← takeWord "unique" then
        let resolution ← onConflict
        columnConstraints (draft.withUnique [{ column := draft.latest }] resolution) fuel
      else if ← takeWord "default" then
        let start ← place
        let inner ← nextIsSymbol "("
        let value ← defaultValue
        let text ← textFrom start
        let text :=
          if inner then String.ofList ((text.toList.drop 1).dropLast.dropWhile Token.isSpace)
          else text
        columnConstraints (← draft.withDefault value text) fuel
      else if ← takeWord "check" then
        let (check, text) ← parenthesisedText
        columnConstraints (draft.withCheck check text) fuel
      else if ← takeWord "collate" then
        let (collation, _) ← collationName
        columnConstraints (← draft.withCollation collation) fuel
      else if ← takeWord "references" then
        let referred ← reference
        columnConstraints (← draft.withColumnReference referred) fuel
      else if ← nextIsWord "deferrable" then
        let deferred ← deferral
        columnConstraints (draft.withDeferral deferred) fuel
      else if ← takeWord "generated" then
        expectWord "always"
        expectWord "as"
        columnConstraints (← generatedTail) fuel
      else if ← takeWord "as" then columnConstraints (← generatedTail) fuel
      else return draft
where
  generatedTail : Parser Draft := do
    let value ← parenthesised expression
    match ← peek with
    | some token =>
        match token.kind, token.plainName? with
        | .word, some _ =>
            if token.isWord "generated" then draft.withGenerated value none
            else
              advance
              draft.withGenerated value (some token)
        | .quotedName _, _ =>
            advance
            draft.withGenerated value (some token)
        | _, _ => draft.withGenerated value none
    | none => draft.withGenerated value none

def withoutEnding? (word text : List Char) : Option (List Char) :=
  let ending := text.drop (text.length - word.length)
  if ending.map Char.toLower = word then
    some ((text.take (text.length - word.length)).reverse.dropWhile Token.isSpace).reverse
  else none

/-- The type of a column. The words `GENERATED ALWAYS` at its end do not belong to it. -/
def columnTypeOf (written : String) : String :=
  match withoutEnding? "always".toList written.toList with
  | none => written
  | some rest =>
      if written.length < 16 then written
      else
        match withoutEnding? "generated".toList rest with
        | some type => String.ofList type
        | none => String.ofList rest

def greatestColumns : Nat := 2000

def columnDef (draft : Draft) (count : Nat) : Parser Draft := do
  let (column, _) ← name
  let type ← typeName
  if greatestColumns ≤ count then
    draft.complain ("too many columns on " ++ draft.name)
  else if (draft.columnIndex? column).isSome then
    draft.complain ("duplicate column name: " ++ column)
  let columns := draft.table.columns ++ [{ name := column, type := columnTypeOf type }]
  columnConstraints
    { draft with table := { draft.table with columns := columns }, label := none } (← enough)

/-! ### Tables -/

def keyColumns (draft : Draft) : List (SortKey Select) → Parser (List KeyColumn)
  | [] => return []
  | key :: rest => do
      let collation ←
        match key.key with
        | .collate _ collation _ => do
            if (Collation.ofName? collation).isNone then
              draft.complain ("no such collation sequence: " ++ collation) none 257
            pure (some collation)
        | _ => pure none
      let known (column : Nat) : KeyColumn :=
        { column := column, collation := collation, descending := key.direction.descending }
      let here ←
        match key.key.withoutCollation with
        | .column none none name _ place =>
            match draft.columnIndex? name with
            | some column => pure [known column]
            | none => do
                draft.complain ("no such column: " ++ name) (some place)
                pure []
        | .literal (.text bytes) =>
            let name := textOfBytes bytes
            match draft.columnIndex? name with
            | some column => pure [known column]
            | none => do
                draft.complain ("no such column: " ++ name)
                pure []
        | _ => do
            draft.complain "expressions prohibited in PRIMARY KEY and UNIQUE constraints"
            pure []
      match key.direction.nullsFirst with
      | some first =>
          draft.complain ("unsupported use of NULLS " ++ if first then "FIRST" else "LAST")
      | none => pure ()
      return here ++ (← keyColumns draft rest)

def tableConstraint? (draft : Draft) : Parser (Option Draft) := do
  if ← takeWord "constraint" then
    let (label, _) ← name
    return some { draft with label := some label }
  else if ← takeWord "primary" then
    expectWord "key"
    expectSymbol "("
    let keys ← sortKeys select
    let autoincrement ← takeWord "autoincrement"
    expectSymbol ")"
    let resolution ← onConflict
    let columns ← keyColumns draft keys
    return some (← draft.withPrimaryKey columns resolution false autoincrement)
  else if ← takeWord "unique" then
    expectSymbol "("
    let keys ← sortKeys select
    expectSymbol ")"
    let resolution ← onConflict
    let columns ← keyColumns draft keys
    return some (draft.withUnique columns resolution)
  else if ← takeWord "check" then
    let (check, text) ← parenthesisedText
    let _ ← onConflict
    return some (draft.withCheck check text)
  else if ← takeWord "foreign" then
    expectWord "key"
    let names ← parenthesised (do plainNames (← enough))
    expectWord "references"
    let referred ← reference
    let deferred ←
      if ← takeWord "not" then
        let _ ← deferral
        pure false
      else if ← nextIsWord "deferrable" then deferral
      else pure false
    return some (← draft.withReference names referred deferred)
  else return none

/-- The constraints of the table up to the closing parenthesis. There may be commas between them. -/
def tableConstraints (draft : Draft) : Nat → Parser Draft
  | 0 => unexpected
  | fuel + 1 => do
      if ← takeSymbol ")" then return draft
      else
        let separated ← takeSymbol ","
        let draft := if separated then { draft with label := none } else draft
        match ← tableConstraint? draft with
        | some draft => tableConstraints draft fuel
        | none => if separated then unexpected else expectSymbol ")"; return draft

def tableBody (draft : Draft) (count : Nat) : Nat → Parser Draft
  | 0 => unexpected
  | fuel + 1 => do
      let draft ← columnDef draft count
      if ← takeSymbol "," then
        match ← tableConstraint? { draft with label := none } with
        | some draft => tableConstraints draft fuel
        | none => tableBody draft (count + 1) fuel
      else
        expectSymbol ")"
        return draft

def tableOptions (draft : Draft) : Nat → Parser Draft
  | 0 => return draft
  | fuel + 1 => do
      match ← peek with
      | none => return draft
      | some token =>
          if token.isWord "without" then
            advance
            let next ← peek
            let _ ← name
            let isRowid := next.any (·.isWord "rowid")
            if !isRowid then raise ("unknown table option: " ++ (next.map (·.source)).getD "")
            more { draft with table := { draft.table with
              withoutRowid := draft.table.withoutRowid || isRowid } } fuel
          else if token.name?.isSome then
            advance
            let isStrict := token.isWord "strict"
            if !isStrict then raise ("unknown table option: " ++ token.source)
            more { draft with table := { draft.table with
              strict := draft.table.strict || isStrict } } fuel
          else return draft
where
  more (draft : Draft) (fuel : Nat) : Parser Draft := do
    if ← takeSymbol "," then
      match ← peek with
      | some token => if token.name?.isNone then unexpected else tableOptions draft fuel
      | none => unexpected
    else return draft

def createTable (temporary : Bool) : Parser Command := do
  let name ← newName temporary
  let checked ← checkNew name
  if ← takeWord "as" then return .createTableAs name (← select)
  else
    expectSymbol "("
    let draft ← tableBody { name := name.name.name, checked := checked } 0 (← enough)
    let draft ← tableOptions draft (← enough)
    return .createTable name draft.table

def createView (temporary : Bool) : Parser Command := do
  let name ← newName temporary
  let columns ← columnNames?
  expectWord "as"
  let query ← select
  if 0 < (← get).parameters then raise "parameters are not allowed in views"
  else
    let _ ← checkNew name
  return .createView name columns query

/-! ### Tables of modules -/

/-- Passes over a module's argument: up to a comma or a closing parenthesis that is not within
parentheses. -/
def moduleArgument (depth : Nat) : Nat → Parser Unit
  | 0 => unexpected
  | fuel + 1 => do
      match ← peek with
      | none => unexpected
      | some token =>
          if token.kind = .illegal then unexpected
          else if token.isSymbol "(" then
            advance
            moduleArgument (depth + 1) fuel
          else if token.isSymbol ")" then
            if depth = 0 then return
            else
              advance
              moduleArgument (depth - 1) fuel
          else if token.isSymbol "," && depth == 0 then return
          else
            advance
            moduleArgument depth fuel

/-- The arguments of a module, without the empty ones. -/
def moduleArguments : Nat → Parser (List String)
  | 0 => unexpected
  | fuel + 1 => do
      let before := (← get).tokens
      moduleArgument 0 (← enough)
      let tokens ← tokensSince before
      let texts ← if tokens.isEmpty then pure [] else pure [← textOfTokens tokens]
      if ← takeSymbol "," then return texts ++ (← moduleArguments fuel)
      else
        expectSymbol ")"
        return texts

def createVirtual : Parser Command := do
  let table ← newName false
  expectWord "using"
  let (module, _) ← name
  let _ ← checkNew table
  let arguments ← if ← takeSymbol "(" then moduleArguments (← enough) else pure []
  return .createVirtual table module arguments

def create : Parser Command := do
  let temporary ← if ← takeWord "temp" then pure true else takeWord "temporary"
  if ← takeWord "table" then createTable temporary
  else if ← takeWord "view" then createView temporary
  else if !temporary && (← nextIsWord "virtual") then
    advance
    expectWord "table"
    createVirtual
  else unexpected

def drop : Parser Command := do
  let kind ←
    if ← takeWord "table" then pure EntryKind.table
    else
      expectWord "view"
      pure EntryKind.view
  let ifExists ←
    if ← takeWord "if" then
      expectWord "exists"
      pure true
    else pure false
  return .drop kind (← tableName) ifExists

end Parser

end RowSource.Sql
