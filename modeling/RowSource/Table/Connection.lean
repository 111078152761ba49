import RowSource.Table.Blueprint

/-!
# Connecting a table

A module is a registered name with the factory behind it. Each connection asks the factory for a
definition and fixes the integer mode of the table for as long as it lives.
-/

namespace RowSource

structure TableModule (F : Type) where
  name : String
  factory : F

structure ConnectedTable (G : Type) where
  module : String
  generator : G
  parameterNames : List String
  integerMode : IntegerMode

structure Connected (G : Type) where
  tableName : String
  schemaSql : String
  directOnly : Bool
  table : ConnectedTable G

namespace TableModule

variable {F G : Type}

def tableName (module : TableModule F) (args : List String) : String :=
  match ConnectRequest.ofList? args with
  | some request => request.table
  | none => module.name

def accept (module : TableModule F) (args : List String) (definition : Definition G)
    (default : IntegerMode) : Except Failure (Connected G) :=
  if maxParameters < definition.parameterNames.length then
    .error (.invalidDefinition module.name
      ("declares " ++ toString definition.parameterNames.length ++ " parameters but at most " ++
        toString maxParameters ++ " are supported"))
  else
    .ok
      { tableName := module.tableName args
        schemaSql := definition.schemaSql
        directOnly := definition.directOnly
        table :=
          { module := module.name
            generator := definition.generator
            parameterNames := definition.parameterNames
            integerMode := IntegerMode.resolve definition.integerMode default } }

/-- Asks the factory for a definition and accepts it. The default integer mode is read after the
factory has answered. -/
def connect {m : Type → Type} [Monad m]
    (define : F → List String → m (Except HostError (Definition G))) (mode : m IntegerMode)
    (module : TableModule F) (args : List String) : m (Except Failure (Connected G)) := do
  match ← define module.factory args with
  | .error error => return .error (.host error)
  | .ok definition => return module.accept args definition (← mode)

def describe (module : TableModule F) : String :=
  "GeneratorModule \x7b name: " ++ quoted module.name ++ ", .. \x7d"

end TableModule

def ConnectedTable.describe {G : Type} (table : ConnectedTable G) : String :=
  "GeneratorTable \x7b module: " ++ quoted table.module ++ ", parameter_names: " ++
    quotedList table.parameterNames ++ ", integer_mode: " ++ table.integerMode.name ++ ", .. \x7d"

end RowSource
