import RowSource.Sql.Evaluate
import RowSource.Sql.Parser
import RowSource.Sql.Scope

/-!
# Declared tables

From the declaration of a table to the table: the checks that wait for the whole declaration, the
columns as they are stored, and the columns of host tables, some of which may be hidden.
-/

namespace RowSource.Sql

def noQuery : QueryResolver Select := fun _ _ => throw { message := "subqueries prohibited" }

def resolvedAlone? (scope : Scope) (expression : Expression) : Option Term :=
  match (Scope.resolve noQuery scope expression).run {} with
  | .ok (term, _) => some term
  | .error _ => none

namespace ColumnDef

def strictTypes : List String := ["any", "blob", "int", "integer", "real", "text"]

def isStrict (column : ColumnDef) : Bool := strictTypes.contains (foldCase column.type)

def sizeOf (type : String) : Nat :=
  let folded := (foldCase type).toList
  let has (word : String) : Bool := EngineFault.occursIn word.toList folded
  let stated : Option Nat :=
    if has "char" ∨ (has "blob(") then
      some (Numeral.digitsValue ((folded.dropWhile fun c => !c.isDigit).takeWhile Char.isDigit))
    else if has "text" ∨ has "clob" ∨ has "blob" then some 16
    else none
  if has "int" then 1 else ((stated.map fun size => min 255 (size / 4 + 1)).getD 1)

/-- Whether values of any kind are stored as they are. -/
def takesAny (declared : ColumnDef) (strict : Bool) : Bool := strict && sameName declared.type "any"

def column (declared : ColumnDef) (strict : Bool) : Column where
  name := declared.name
  affinity := if declared.takesAny strict then .blob else Affinity.ofType declared.type
  collation := (Collation.ofName? declared.collation).getD .binary
  notNull := declared.notNull
  onNull := declared.onNull
  default := (declared.default.bind (resolvedAlone? {})).getD (.literal .null)
  size := sizeOf declared.type
  kind :=
    if strict && !sameName declared.type "any" then
      some (String.ofList (declared.type.toList.map Char.toUpper))
    else none

end ColumnDef

namespace TableDef

/-! ### Checks of a whole declaration -/

def typeDefect? (definition : TableDef) (name : String) : Option Complaint :=
  (definition.columns.find? fun column => !column.isStrict).map fun column =>
    let place := name ++ "." ++ column.name
    if column.type.isEmpty then { message := "missing datatype for " ++ place }
    else { message := "unknown datatype for " ++ place ++ ": \"" ++ column.type ++ "\"" }

def keyDefect? (definition : TableDef) (name : String) : Option Complaint :=
  if definition.autoincrement then
    some { message := "AUTOINCREMENT not allowed on WITHOUT ROWID tables" }
  else if definition.rowidColumn.isNone && !definition.keys.any (·.primary) then
    some { message := "PRIMARY KEY missing on table " ++ name }
  else none

def scope (definition : TableDef) (name : String) (declaration : Declaration) (rowid : Bool) :
    Scope where
  tables :=
    [{ name := name
       columns := definition.columns.zipIdx.map fun (column, position) =>
         { name := column.name
           hidden := false
           ref :=
             if definition.rowidColumn = some position && !definition.withoutRowid then
               ⟨0, none, some .integer, none, true⟩
             else
               { source := 0
                 position := some position
                 affinity := some (column.column definition.strict).affinity
                 collation := some (column.column definition.strict).collation } }
       rowid := if rowid then some ("rowid", ⟨0, none, some .integer, none, true⟩) else none }]
  declaration := some declaration

def expressionDefect? (scope : Scope) (expressions : List Expression) : Option Complaint :=
  match (Scope.resolveAll noQuery scope expressions).run {} with
  | .ok _ => none
  | .error complaint => some complaint

def checkScope (definition : TableDef) (name : String) : Scope :=
  definition.scope name .check (!definition.withoutRowid)

/-- What is wrong with a whole declaration. Of the expressions the last wrong one is complained
of. -/
def defect? (definition : TableDef) (name : String) : Option Complaint :=
  let early :=
    (if definition.strict then definition.typeDefect? name else none) <|>
      if definition.withoutRowid then definition.keyDefect? name else none
  match early with
  | some complaint => some complaint
  | none =>
      let generated := definition.columns.filterMap (·.generated)
      let inColumns := definition.scope name .generated false
      let late : List (Option Complaint) :=
        [expressionDefect? (definition.checkScope name) (definition.checks.map (·.condition))] ++
        generated.map (fun value => expressionDefect? inColumns [value]) ++
        [if definition.columns.all fun column => column.generated.isSome then
            some { message := "must have at least one non-generated column" }
          else none]
      (late.filterMap id).getLast?

/-! ### Tables -/

def primaryColumns (definition : TableDef) : List Nat :=
  match definition.rowidColumn with
  | some column => [column]
  | none => ((definition.keys.find? (·.primary)).map fun key => key.columns.map (·.column)).getD []

def uniqueness (definition : TableDef) (key : KeyDef) : Uniqueness where
  columns := key.columns.map fun column =>
    let own := (definition.columns[column.column]?).bind fun declared =>
      Collation.ofName? declared.collation
    { position := some column.column
      collation := ((column.collation.bind Collation.ofName?) <|> own).getD .binary
      descending := column.descending }
  primary := key.primary
  resolution := key.resolution

def sameKey (a b : Uniqueness) : Bool :=
  a.columns.map (fun column => (column.position, column.collation)) ==
    b.columns.map fun column => (column.position, column.collation)

/-- Adds a key in front of those before it. One over the same columns is the same key. -/
def addKey (known : List Uniqueness) (key : Uniqueness) : List Uniqueness :=
  if known.any (sameKey key) then
    known.map fun other =>
      if sameKey key other then
        { other with
          primary := other.primary || key.primary
          resolution := other.resolution <|> key.resolution }
      else other
  else key :: known

/-- The keys that are checked last are those that replace the rows that they meet. -/
def replacingLast (keys : List Uniqueness) : List Uniqueness :=
  keys.filter (fun key => key.resolution != some .replace) ++
    keys.filter fun key => key.resolution == some .replace

/-- The table that a declaration is for. The key that was declared last is checked first. -/
def table (definition : TableDef) (name : String) : Table :=
  let primary := definition.primaryColumns
  let keys := definition.keys.map definition.uniqueness
  let keys :=
    if definition.withoutRowid && definition.rowidColumn.isSome then
      keys ++ [definition.uniqueness ⟨true, primary.map fun column => { column := column }, none⟩]
    else keys
  let filled (position : Nat) : Bool :=
    primary.contains position &&
      (definition.withoutRowid || (definition.strict && definition.rowidColumn.isNone))
  let inColumns := definition.scope name .generated false
  { columns := definition.columns.zipIdx.map fun (declared, position) =>
      let column := declared.column definition.strict
      { column with
        notNull := column.notNull || filled position
        generated := declared.generated.bind (resolvedAlone? inColumns) }
    key := if definition.withoutRowid then none else definition.rowidColumn
    onKey := definition.onRowid
    unique := replacingLast (keys.foldl addKey [])
    keyed := if definition.withoutRowid then some primary else none
    checks := definition.checks.filterMap fun check =>
      (resolvedAlone? (definition.checkScope name) check.condition).map fun condition =>
        ⟨condition, check.label⟩
    references := definition.references
    autoincrement := definition.autoincrement }

/-! ### Host tables -/

/-- Whether the type of a host table's column hides it: one of its words says so. -/
def isHidden (type : String) : Bool :=
  ((foldCase type).splitOn " ").contains "hidden"

def hostedColumns (definition : TableDef) : List Column :=
  (definition.table "").columns.zip definition.columns |>.map fun (column, declared) =>
    { column with hidden := isHidden declared.type, kind := none }

end TableDef

end RowSource.Sql
