import RowSource.Engine.Fault
import RowSource.Sql.Syntax
import RowSource.Sql.Token

/-!
# Parsing SQL: tokens one by one

A text is refused at the first token that cannot continue it, and one that ends too early as
incomplete. What a phrase says may be wrong in itself. That is complained of only when a further
token is taken, so a token that cannot follow the phrase at all is complained of instead.
-/

namespace RowSource.Sql

structure Complaint where
  message : String
  place : Option Nat := none
  code : Int := 1
  /-- The complaint waited until the whole statement was read. -/
  atEnd : Bool := false
  /-- Something was not found that a newer list of tables may have. -/
  missing : Bool := false

def Complaint.toFault (complaint : Complaint) (sql : String) : EngineFault :=
  match complaint.place with
  | some place => .refusedText complaint.message sql place
  | none => .failed complaint.code (some complaint.message)

def Complaint.noCollation (collation : String) : Complaint :=
  { message := "no such collation sequence: " ++ collation, code := 257 }

structure Catalog where
  hasDatabase : String → Bool := fun name => sameName name "main" || sameName name "temp"
  find? : String → String → Option EntryKind := fun _ _ => none

namespace Parser

structure State where
  text : List Char
  size : Nat
  tokens : List Token
  parameters : Nat := 0
  named : List (String × Nat) := []
  /-- What is to be complained of as soon as a further token is taken. -/
  pending : Option Complaint := none
  known : Catalog := {}

end Parser

abbrev Parser := StateT Parser.State (Except Complaint)

namespace Parser

def peek : Parser (Option Token) := return (← get).tokens.head?

def advance : Parser Unit := do
  match (← get).pending with
  | some complaint => throw complaint
  | none => modify fun s => { s with tokens := s.tokens.tail }

def raise (message : String) (place : Option Nat := none) (code : Int := 1) : Parser Unit :=
  modify fun s => { s with pending := some { message := message, place := place, code := code } }

def misplaced (token : Token) : Complaint :=
  { message := "near \"" ++ token.source ++ "\": syntax error", place := some token.start }

def unexpected {α : Type} : Parser α := do
  match ← peek with
  | none => throw { message := "incomplete input" }
  | some token =>
      if token.kind = .illegal then
        throw { message := "unrecognized token: \"" ++ token.source ++ "\""
                place := some token.start }
      else throw (misplaced token)

def nextIsWord (word : String) : Parser Bool := return (← peek).any (·.isWord word)

def nextIsSymbol (symbol : String) : Parser Bool := return (← peek).any (·.isSymbol symbol)

def takeWord (word : String) : Parser Bool := do
  if ← nextIsWord word then advance; return true else return false

def takeSymbol (symbol : String) : Parser Bool := do
  if ← nextIsSymbol symbol then advance; return true else return false

def expectWord (word : String) : Parser Unit := do
  if !(← takeWord word) then unexpected

def expectSymbol (symbol : String) : Parser Unit := do
  if !(← takeSymbol symbol) then unexpected

def nextSource : Parser String := return ((← peek).map (·.source)).getD ""

def name : Parser (String × Nat) := do
  match ← peek with
  | none => unexpected
  | some token =>
      match token.name? with
      | some name => advance; return (name, token.start)
      | none => unexpected

def tableName : Parser TableName := do
  let written ← nextSource
  let (first, start) ← name
  if ← takeSymbol "." then
    let source ← nextSource
    let (second, place) ← name
    return {
      database := some first, name := second, written := source, place := place
      databaseText := written, databasePlace := start }
  else return { name := first, written := written, place := start }

def place : Parser Nat := do
  match ← peek with
  | some token => return token.start
  | none => return (← get).size

def between (first last here : Nat) : List Char → List Char
  | [] => []
  | c :: rest =>
      if last ≤ here then []
      else if here < first then between first last (here + c.utf8Size) rest
      else c :: between first last (here + c.utf8Size) rest

def textFrom (first : Nat) : Parser String := do
  let last ← place
  let cs := (between first last 0 (← get).text).dropWhile Token.isSpace
  return String.ofList (cs.reverse.dropWhile Token.isSpace).reverse

def textOfTokens (tokens : List Token) : Parser String := do
  match tokens.head?, tokens.getLast? with
  | some first, some last =>
      return String.ofList
        (between first.start (last.start + last.source.utf8ByteSize) 0 (← get).text)
  | _, _ => return ""

def tokensSince (before : List Token) : Parser (List Token) := do
  return before.take (before.length - (← get).tokens.length)

def commaSeparated {α : Type} (item : Parser α) : Nat → Parser (List α)
  | 0 => unexpected
  | fuel + 1 => do
      let first ← item
      if ← takeSymbol "," then return first :: (← commaSeparated item fuel)
      else return [first]

/-- Enough fuel for whatever is left of the text. -/
def enough : Parser Nat := return 8 * (← get).tokens.length + 8

def parenthesised {α : Type} (inner : Parser α) : Parser α := do
  expectSymbol "("
  let value ← inner
  expectSymbol ")"
  return value

end Parser

end RowSource.Sql
