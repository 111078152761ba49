import RowSource.Engine.Program
import RowSource.Options

/-!
# Engines

What a session needs of a database engine. Connections go by the numbers of their sessions. All
connections share one store, so that one can see what another has written to a file.
-/

namespace RowSource

structure StatementInfo where
  isEmpty : Bool
  columns : List String
  readonly : Bool
  parameters : Nat
  /-- The statement depends on the list of tables. -/
  usesTables : Bool := false
  deriving DecidableEq

/-- The values of a list, if there are as many as a statement has parameters. Counting stops at the
first one too many. -/
def StatementInfo.bind (info : StatementInfo) (values : List SqlValue) :
    Except EngineFault (List SqlValue) :=
  if values.length = info.parameters then .ok values
  else .error (.parameterCount (min values.length (info.parameters + 1)) info.parameters)

structure Engine where
  Store : Type
  Statement : Type
  empty : Store
  openDatabase : Nat → String → Options → Store → Except EngineFault Store
  release : Nat → Store → Store
  inTransaction : Nat → Store → Bool
  /-- Makes a module known under a name: as a table of that name, or for declaring tables. -/
  createModule : Nat → String → Bool → Store → Except EngineFault Store
  schemaDefect? : String → Option String
  /-- Compiles the first statement of a text, and tells what follows it. -/
  compile : Nat → String → Routine Store (Statement × String)
  info : Statement → StatementInfo
  /-- Whether another connection has changed the list of tables that a connection compiles with. -/
  isOutdated : Nat → Store → Bool
  /-- Forgets the list of tables, to be looked at anew. -/
  refresh : Nat → Store → Store
  execute : Nat → Statement → List SqlValue → Routine Store Unit
  changes : Nat → Store → Nat
  lastRowid : Nat → Store → Int64

namespace Engine

/-- Compiles a text of one statement. What follows the statement is compiled as well, to tell blanks
from a further statement and from what is no statement. Each text is shorter than the one before,
so its length is enough fuel. -/
def compileSole (engine : Engine) (connection : Nat) :
    Nat → String → Routine engine.Store engine.Statement
  | 0, _ => .fail .severalStatements
  | fuel + 1, text => do
      let (statement, rest) ← engine.compile connection text
      if rest.isEmpty then
        return statement
      else
        let next ← engine.compileSole connection fuel rest
        if (engine.info next).isEmpty then return statement else .fail .severalStatements

def prepare (engine : Engine) (connection : Nat) (text : String) :
    Routine engine.Store engine.Statement :=
  engine.compileSole connection (text.length + 1) text

end Engine

end RowSource
