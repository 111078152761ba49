import RowSource.Sql.Change

/-!
# Rules on rows

What a table demands of a row before it is stored: that columns hold something, that they hold the
kinds of values that they take, and that conditions are not false. A row that breaks a rule is left
out, or ends the change, as the statement or else the rule itself says.
-/

namespace RowSource.Sql

inductive Breach where
  | missing (column : String)
  | kind (found taken column : String)
  | check (label : String)
  | rowid
  | key (columns : List String) (primary : Bool)

def Breach.fault (table : String) : Breach → EngineFault
  | .missing column => .failed 1299 (some ("NOT NULL constraint failed: " ++ table ++ "." ++ column))
  | .kind found taken column =>
      .failed 3091 (some ("cannot store " ++ found ++ " value in " ++ taken ++ " column " ++ table ++
        "." ++ column))
  | .check label => .failed 275 (some ("CHECK constraint failed: " ++ label))
  | .rowid => .failed 2579 (some ("UNIQUE constraint failed: " ++ table ++ ".rowid"))
  | .key columns primary =>
      .failed (if primary then 1555 else 2067) (some ("UNIQUE constraint failed: " ++
        String.intercalate ", " (columns.map fun column => table ++ "." ++ column)))

structure Outcome where
  row : StoredRow
  isNew : Bool

/-- Storing a row, which may end early, with or without a row that is stored in its place. -/
abbrev Storing := ExceptT (Option Outcome) Changing

namespace Storing

def leave {α : Type} (outcome : Option Outcome) : Storing α := ExceptT.mk (pure (.error outcome))

/-- What becomes of a row that breaks a rule. Where it cannot be replaced, nothing of the change
stays. -/
def refuse {α : Type} (table : String) (resolution : Resolution) (breach : Breach) : Storing α :=
  let fault := breach.fault table
  match resolution with
  | .ignore => leave none
  | .fail | .rollback =>
      ExceptT.lift (ExceptT.mk (pure (.error ⟨fault, resolution⟩)) : Changing α)
  | .abort | .replace => (Changing.fail fault : Changing α)

end Storing

/-- What becomes of a row that breaks a rule: what the statement says goes before what the rule
says. -/
def resolutionOf (stated own : Option Resolution) : Resolution := stated.getD (own.getD .abort)

/-! ### Values -/

def Environment.ofRow (env : Environment) (row : StoredRow) : Environment :=
  { connection := env.connection, undone := env.undone, rows := [(0, .row row.1 row.2)] }

def workedOut (env : Environment) (table : Table) (rowid : Int) :
    Nat → List Nat → List Datum → Executing (List Datum)
  | 0, _, values => return values
  | fuel + 1, pending, values => do
      match table.ready? pending with
      | none => return values
      | some (position, column, term) => do
          let value ← evaluate (env.ofRow (rowid, values)) term
          workedOut env table rowid fuel (pending.erase position)
            (values.set position (stored column.affinity value))

def completed (env : Environment) (table : Table) (rowid : Int) (values : List Datum) :
    Executing (List Datum) :=
  let pending := table.generatedColumns
  workedOut env table rowid pending.length pending (table.storedValues rowid values)

/-! ### Kinds of values -/

def strictKind : Datum → String
  | .null => "NULL"
  | .integer _ => "INT"
  | .real _ => "REAL"
  | .text _ => "TEXT"
  | .blob _ => "BLOB"

def Column.takes (column : Column) (value : Datum) : Bool :=
  match column.kind with
  | none => true
  | some kind => value.isNull || kind == strictKind value ||
      (kind == "INTEGER" && strictKind value == "INT")

def checkKinds (name : String) (table : Table) (values : List Datum) : Storing Unit :=
  match (table.columns.zip values).find? fun (column, value) => !column.takes value with
  | none => return
  | some (column, value) =>
      .refuse name .abort (.kind (strictKind value) (column.kind.getD "") column.name)

/-! ### Empty columns -/

def emptiness (stated : Option Resolution) (column : Column) : Resolution :=
  match resolutionOf stated column.onNull, column.default with
  | .replace, .literal .null => .abort
  | resolution, _ => resolution

/-- Fills empty columns that have to hold something with their defaults where the rule says so. -/
def filled (env : Environment) (name : String) (stated : Option Resolution) :
    List (Column × Datum) → Storing (List Datum)
  | [] => return []
  | (column, value) :: rest => do
      let value ←
        if column.notNull && column.generated.isNone && value.isNull then
          match emptiness stated column with
          | .replace => do
              let value ← (evaluate { connection := env.connection } column.default : Executing Datum)
              pure (RowSource.Sql.stored column.affinity value)
          | resolution => .refuse name resolution (.missing column.name)
        else pure value
      return value :: (← filled env name stated rest)

/-- Refuses what is empty in columns that have to hold something. Nothing is filled any more. -/
def requireFilled (name : String) (stated : Option Resolution) : List (Column × Datum) → Storing Unit
  | [] => return
  | (column, value) :: rest => do
      if column.notNull && value.isNull then
        .refuse name (resolutionOf stated column.onNull) (.missing column.name)
      requireFilled name stated rest

/-- The values of a row of which nothing is missing. What is worked out is worked out again when
something was filled. -/
def withoutMissing (env : Environment) (name : String) (table : Table) (stated : Option Resolution)
    (rowid : Int) (values : List Datum) : Storing (List Datum) := do
  let given ← filled env name stated (table.columns.zip values)
  let values ←
    if given == values then pure values
    else (completed env table rowid given : Executing (List Datum))
  requireFilled name stated (table.columns.zip values)
  return values

/-! ### Conditions -/

def requireChecks (env : Environment) (name : String) (resolution : Resolution) (row : StoredRow) :
    List Check → Storing Unit
  | [] => return
  | check :: rest => do
      if ← (decides (env.ofRow row) false check.condition : Executing Bool) then
        .refuse name resolution (.check check.label)
      requireChecks env name resolution row rest

/-- The values of a row that meets the rules of a table, but for its keys. Tells whether the kinds of
the values are checked by then. -/
def conforming (env : Environment) (name : String) (table : Table) (stated : Option Resolution)
    (rowid : Int) (values : List Datum) : Storing (List Datum × Bool) := do
  let values ← (completed env table rowid values : Executing (List Datum))
  let isEarly := !table.generatedColumns.isEmpty || !table.checks.isEmpty
  let values ← withoutMissing env name table stated rowid values
  if isEarly then checkKinds name table values
  requireChecks env name (resolutionOf stated none) (rowid, values) table.checks
  return (values, isEarly)

end RowSource.Sql
