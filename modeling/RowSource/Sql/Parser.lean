import RowSource.Sql.Parser.Declaration

/-!
# Parsing SQL: statements

Reads the first statement of a text, up to its semicolon or to the end of the text.
-/

namespace RowSource.Sql

namespace Parser

def transactionTail : Parser Unit := do
  if ← takeWord "transaction" then
    match ← peek with
    | some token => if token.name?.isSome then advance
    | none => return

def beginning : Parser Beginning := do
  if ← takeWord "deferred" then return .deferred
  else if ← takeWord "immediate" then return .immediate
  else if ← takeWord "exclusive" then return .exclusive
  else return .deferred

def savepointName : Parser String := do
  let _ ← takeWord "savepoint"
  return (← name).1

def rollbackTail : Parser Command := do
  transactionTail
  if ← takeWord "to" then return .rollbackTo (← savepointName)
  else return .rollback

def command : Parser Command := do
  let named ← with? select
  match ← rowsCommand? named with
  | some command => return command
  | none =>
      if !named.isEmpty then unexpected
      else if ← takeWord "create" then create
      else if ← takeWord "drop" then drop
      else if ← takeWord "begin" then
        let beginning ← beginning
        transactionTail
        return .begin beginning
      else if ← takeWord "commit" then transactionTail; return .commit
      else if ← takeWord "end" then transactionTail; return .commit
      else if ← takeWord "rollback" then rollbackTail
      else if ← takeWord "savepoint" then return .savepoint (← name).1
      else if ← takeWord "release" then return .release (← savepointName)
      else unexpected

/-- What was read of a text: its first statement, if it has one, and what follows it. -/
structure Reading where
  command : Option Command
  parameters : Nat
  rest : String
  /-- The text of a declaration, from the name of what is declared on. -/
  declaration : String := ""

def skipSemicolons (tokens : List Token) : List Token := tokens.dropWhile (·.isSymbol ";")

/-- Whether a command looks at the list of tables when it is complete, whatever is to be complained
of. -/
def looksAtEnd : Command → Bool
  | .select _ | .createView _ _ _ => true
  | _ => false

def declared? : Command → Option NewName
  | .createTable name _ | .createTableAs name _ | .createView name _ _ | .createVirtual name _ _ =>
      some name
  | _ => none

def declarationText (parsed : Command) (tokens : List Token) : Parser String := do
  match declared? parsed with
  | some name => textOfTokens (tokens.filter fun token => decide (name.name.place ≤ token.start))
  | none => return ""

def finish (parsed : Command) (declaration rest : String) : Parser Reading := do
  match (← get).pending with
  | some complaint => throw { complaint with atEnd := looksAtEnd parsed }
  | none => return ⟨some parsed, (← get).parameters, rest, declaration⟩

def statement : Parser Reading := do
  let before := (← get).tokens
  let parsed ← command
  let declaration ← declarationText parsed (← tokensSince before)
  match ← peek with
  | none => finish parsed declaration ""
  | some token =>
      if token.isSymbol ";" then finish parsed declaration (String.ofList token.rest)
      else unexpected

/-- A text up to its first null character, which ends it. -/
def upToNull (text : String) : String := String.ofList (text.toList.takeWhile (· ≠ '\x00'))

def read (known : Catalog) (text : String) : Except Complaint Reading :=
  let text := upToNull text
  match skipSemicolons (Token.ofText text) with
  | [] => .ok ⟨none, 0, "", ""⟩
  | tokens =>
      (statement.run
        { text := text.toList, size := text.utf8ByteSize, tokens := tokens, known := known }).map
          (·.1)

end Parser

end RowSource.Sql
