import RowSource.Plan
import RowSource.Table.Generator

/-!
# Tables from lists of names

A blueprint declares a table by the names of its parameters and columns. The parameters become
hidden leading columns, and the generator need only yield the columns: every row is preceded by the
arguments that the scan was given.
-/

namespace RowSource

structure Blueprint (G : Type) where
  columns : List String
  parameters : List String := []
  generator : G
  integerMode : Option IntegerMode := none
  directOnly : Bool := false

/-- A generator whose rows are to be preceded by the arguments. -/
structure PrefixedRows (G : Type) where
  module : String
  width : Nat
  inner : G

structure PrefixedStream (S : Type) where
  module : String
  width : Nat
  arguments : List HostValue
  inner : S

/-- An identifier in double quotes, with the quotes inside it doubled. -/
def quotedIdentifier (name : List Char) : List Char :=
  '"' :: name.flatMap (fun c => if c = '"' then ['"', '"'] else [c]) ++ ['"']

namespace Blueprint

variable {G S : Type}

def columnTexts (b : Blueprint G) : List (List Char) :=
  b.parameters.map (fun name => quotedIdentifier name.toList ++ " HIDDEN".toList) ++
    b.columns.map fun name => quotedIdentifier name.toList

def schemaSql (b : Blueprint G) : String :=
  String.ofList
    ("CREATE TABLE x(".toList ++ (", ".toList).intercalate b.columnTexts ++ ");".toList)

/-- The first name that equals one before it. -/
def firstRepeated (seen : List String) : List String → Option String
  | [] => none
  | name :: rest => if seen.contains name then some name else firstRepeated (name :: seen) rest

def defect? (b : Blueprint G) : Option String :=
  if b.columns.isEmpty then some "must declare at least one column"
  else if maxParameters < b.parameters.length then
    some ("declares more than " ++ toString maxParameters ++ " parameters")
  else
    (firstRepeated [] (b.parameters ++ b.columns)).map fun name =>
      "has multiple columns named \"" ++ name ++ "\""

def define (b : Blueprint G) (args : List String) :
    Except HostError (Definition (PrefixedRows G)) :=
  match ConnectRequest.ofList? args with
  | none => .error (.message "virtual table connected without a name")
  | some request =>
      if !request.arguments.isEmpty then
        .error (.failure (.invalidDefinition request.module "does not accept module arguments"))
      else
        match b.defect? with
        | some reason => .error (.failure (.invalidDefinition request.module reason))
        | none =>
            .ok
              { schemaSql := b.schemaSql
                generator := ⟨request.module, b.columns.length, b.generator⟩
                parameterNames := b.parameters
                integerMode := b.integerMode
                directOnly := b.directOnly }

def describe (b : Blueprint G) : String :=
  "TableBuilder \x7b columns: " ++ quotedList b.columns ++ ", parameters: " ++
    quotedList b.parameters ++ ", integer_mode: " ++ IntegerMode.optionName b.integerMode ++
    ", direct_only: " ++ (if b.directOnly then "true" else "false") ++ ", .. \x7d"

end Blueprint

/-- A row preceded by the arguments, unless its width is not the declared one. -/
def PrefixedStream.complete {S : Type} (s : PrefixedStream S) :
    Except HostError Advance → Except HostError Advance
  | .ok (.row values) =>
      if values.length = s.width then .ok (.row (s.arguments ++ values))
      else
        .error (.failure (.invalidDefinition s.module
          ("yielded a row with " ++ toString values.length ++ " columns but declares " ++
            toString s.width)))
  | other => other

def Generation.prefixed {m : Type → Type} [Monad m] {G S : Type} (run : Generation m G S) :
    Generation m (PrefixedRows G) (PrefixedStream S) where
  generate rows args := do
    match ← run.generate rows.inner args with
    | .ok stream => return .ok ⟨rows.module, rows.width, args, stream⟩
    | .error error => return .error error
  advance stream := do
    let (step, inner) ← run.advance stream.inner
    return (stream.complete step, { stream with inner := inner })

end RowSource
