import RowSource.Failure

/-!
# What host code supplies

A factory answers each connection of a table with a definition. The definition's generator answers
each scan with a stream, and the stream is advanced one row at a time. `Generation` is the pair of
those two calls over any types of generators and streams, in any monad that host code runs in.
-/

namespace RowSource

inductive Advance where
  /-- A row, with one value per declared column, parameters included. -/
  | row (values : List HostValue)
  | done
  deriving DecidableEq

structure Definition (G : Type) where
  /-- A single `CREATE TABLE` statement that declares every column. -/
  schemaSql : String
  generator : G
  /-- The names of the leading columns that are parameters. -/
  parameterNames : List String
  /-- Nothing to take over the default at the time of the connection. -/
  integerMode : Option IntegerMode
  /-- Whether the table refuses to be used from a view. -/
  directOnly : Bool

structure Generation (m : Type → Type) (G S : Type) where
  generate : G → List HostValue → m (Except HostError S)
  advance : S → m (Except HostError Advance × S)

structure ConnectRequest where
  module : String
  database : String
  table : String
  arguments : List String
  deriving DecidableEq

def ConnectRequest.ofList? : List String → Option ConnectRequest
  | module :: database :: table :: arguments => some ⟨module, database, table, arguments⟩
  | _ => none

/-- A stream that is given by its list of rows and errors. After the last it is done for good. -/
abbrev RowList := List (Except HostError (List HostValue))

def RowList.advance : RowList → Except HostError Advance × RowList
  | [] => (.ok .done, [])
  | .ok row :: rest => (.ok (.row row), rest)
  | .error error :: rest => (.error error, rest)

def IntegerMode.optionName : Option IntegerMode → String
  | none => "None"
  | some mode => "Some(" ++ mode.name ++ ")"

def Definition.describe {G : Type} (d : Definition G) : String :=
  "TableDefinition \x7b schema_sql: " ++ quoted d.schemaSql ++ ", parameter_names: " ++
    quotedList d.parameterNames ++ ", integer_mode: " ++ IntegerMode.optionName d.integerMode ++
    ", direct_only: " ++ (if d.directOnly then "true" else "false") ++ ", .. \x7d"

end RowSource
