import RowSource.Sql.Run
import RowSource.Sql.Statement

/-!
# The SQL engine

The engine that understands SQL, as sessions use it, and its judgement on the schemas of host
tables. A schema is run as an ordinary statement in an empty database first, for a precise message,
and then has to declare columns that all hold values of their own.
-/

namespace RowSource.Sql

def schemaCheckName : String := "gentab_schema_check"

def declaresHosted (schema : String) : Bool :=
  match Parser.read {} schema with
  | .ok { command := some (.createTable name definition), .. } =>
      sameName name.name.name schemaCheckName ||
        definition.columns.all fun column => column.generated.isNone
  | .ok { command := some (.createTableAs name _), .. } => sameName name.name.name schemaCheckName
  | _ => false

def nullByte? (text : String) : Option Nat :=
  (text.toList.findIdx? (· = '\x00')).map fun position =>
    (String.ofList (text.toList.take position)).utf8ByteSize

def scratch : Store :=
  { databases := [(.memory 0, {})]
    connections := [(0, { place := .memory 0, readonly := false })] }

def engineCore : Engine where
  Store := Store
  Statement := CompiledStatement
  empty := {}
  openDatabase := Store.openDatabase
  release := Store.release
  inTransaction number store := (store.connection number).inTransaction
  createModule := Store.createModule
  schemaDefect? _ := none
  compile := compile
  info := CompiledStatement.info
  isOutdated := Store.isOutdated
  refresh := Store.refreshed
  execute := runStatement
  changes number store := (store.connection number).changes
  lastRowid number store := (store.connection number).lastRowid

def tryOut (schema : String) : Running Unit := do
  let statement ← engineCore.prepare 0 schema
  runStatement 0 statement []

def schemaDefect? (schema : String) : Option String :=
  match ((tryOut schema) scratch).resultAlone.1 with
  | .error fault => some fault.message
  | .ok () =>
      let invalid := "not a valid virtual table schema: "
      match nullByte? schema with
      | some position => some (invalid ++ (EngineFault.nulByte position).message)
      | none =>
          if declaresHosted schema then none
          else some (invalid ++ "vtable constructor failed: " ++ schemaCheckName)

def engine : Engine := { engineCore with schemaDefect? := schemaDefect? }

end RowSource.Sql
