import RowSource.Text.AsciiCase
import RowSource.Text.JsonTree

/-!
# Tokens of SQL

Splits a text into tokens. Blanks and comments are passed over. A token remembers its bytes in the
text, for messages that point to it, and what follows it, for texts of several statements. What can
begin no token is a token of its own kind, so that it is complained of only where it is met.
-/

namespace RowSource.Sql

inductive TokenKind where
  | word
  | quotedName (name : String)
  | text (value : String)
  | blob (bytes : List UInt8)
  | integer
  | real
  /-- A number with marks between its digits. -/
  | marked
  | parameter
  | symbol
  | illegal
  deriving DecidableEq

structure Token where
  kind : TokenKind
  source : String
  start : Nat
  rest : List Char

namespace Token

def isSpace (c : Char) : Bool :=
  c = ' ' || c = '\t' || c = '\n' || c = '\x0b' || c = '\x0c' || c = '\r'

/-- The blanks that may begin a separation: a vertical tab may not. -/
def startsSpace (c : Char) : Bool := isSpace c && c != '\x0b'

/-- A mark at the front of a text that says how its bytes are ordered. It counts as a blank. -/
def byteOrderMark : Char := '\ufeff'

def startsName (c : Char) : Bool := c.isAlpha || c = '_' || decide (0x80 ≤ c.toNat)

def continuesName (c : Char) : Bool := startsName c || c.isDigit || c = '$'

def lengthWhile (p : Char → Bool) (cs : List Char) : Nat := (cs.takeWhile p).length

/-- A text up to its closing quote, where two quotes stand for one, and how many characters it
takes. -/
def quotedBody (quote : Char) : List Char → Option (List Char × Nat)
  | [] => none
  | c :: rest =>
      if c = quote then
        match rest with
        | d :: tail =>
            if d = quote then (quotedBody quote tail).map fun (cs, n) => (quote :: cs, n + 2)
            else some ([], 1)
        | [] => some ([], 1)
      else (quotedBody quote rest).map fun (cs, n) => (c :: cs, n + 1)

def bracketBody : List Char → Option (List Char × Nat)
  | [] => none
  | ']' :: _ => some ([], 1)
  | c :: rest => (bracketBody rest).map fun (cs, n) => (c :: cs, n + 1)

/-- The length of a comment that may go over several lines, without its first two characters. It may
lack its end. -/
def commentLength : List Char → Nat
  | '*' :: '/' :: _ => 2
  | _ :: rest => commentLength rest + 1
  | [] => 0

def hexBytes : List Char → Option (List UInt8)
  | [] => some []
  | [_] => none
  | a :: b :: rest => do
      let high ← JsonTree.hexDigit? a
      let low ← JsonTree.hexDigit? b
      let bytes ← hexBytes rest
      return UInt8.ofNat (high * 16 + low) :: bytes

def isHexDigit (c : Char) : Bool := (JsonTree.hexDigit? c).isSome

/-- The length of an exponent whose digits pass a test, zero if there is none. The first of them is
a digit. -/
def exponentLength (digit : Char → Bool) : List Char → Nat
  | c :: rest =>
      if c = 'e' ∨ c = 'E' then
        match rest with
        | sign :: digits =>
            if (sign = '+' ∨ sign = '-') ∧ digits.head?.any Char.isDigit then
              2 + lengthWhile digit digits
            else if sign.isDigit then 1 + lengthWhile digit rest
            else 0
        | [] => 0
      else 0
  | [] => 0

/-- A number from the front, and its length. What continues it as a name makes it illegal. -/
def number (cs : List Char) : TokenKind × Nat :=
  let digit (c : Char) : Bool := c.isDigit || c = '_'
  let (kind, length) :=
    match cs with
    | '0' :: x :: first :: rest =>
        if (x = 'x' ∨ x = 'X') ∧ isHexDigit first then
          (TokenKind.integer, 3 + lengthWhile (fun c => isHexDigit c || c = '_') rest)
        else plain digit
    | _ => plain digit
  let further := lengthWhile continuesName (cs.drop length)
  if 0 < further then (.illegal, length + further)
  else if (cs.take length).contains '_' then (.marked, length)
  else (kind, length)
where
  plain (digit : Char → Bool) : TokenKind × Nat :=
    let whole := lengthWhile digit cs
    let part :=
      match cs.drop whole with
      | '.' :: rest => 1 + lengthWhile digit rest
      | _ => 0
    let exponent := exponentLength digit (cs.drop (whole + part))
    (if part = 0 ∧ exponent = 0 then .integer else .real, whole + part + exponent)

/-- The length of a named parameter, and whether it is one: at least one character of a name, with
pairs of colons between, and perhaps something in parentheses at its end. -/
def parameterLength (named : Bool) : List Char → Nat × Bool
  | ':' :: ':' :: rest => ((parameterLength named rest).1 + 2, (parameterLength named rest).2)
  | c :: rest =>
      if continuesName c then
        ((parameterLength true rest).1 + 1, (parameterLength true rest).2)
      else if c = '(' ∧ named then
        let inner := lengthWhile (fun c => !isSpace c && c != ')') rest
        if (rest.drop inner).head? = some ')' then (inner + 2, true) else (inner + 1, false)
      else (0, named)
  | [] => (0, named)

/-- The symbols, the longer ones first. -/
def symbols : List String :=
  ["->>", "||", "<=", "<>", "<<", ">=", ">>", "==", "!=", "->", "(", ")", ",", ";", ".", "*",
    "+", "-", "/", "%", "=", "<", ">", "|", "&", "~"]

/-- A token that is a quoted name or text, or an illegal one if its end is missing. -/
def quotedToken (kind : String → TokenKind) (body : Option (List Char × Nat))
    (length : Nat) : TokenKind × Nat :=
  match body with
  | some (cs, n) => (kind (String.ofList cs), n + 1)
  | none => (.illegal, length)

def blob (rest : List Char) : TokenKind × Nat :=
  let digits := rest.takeWhile isHexDigit
  let closed := (rest.drop digits.length).head? = some '\''
  match hexBytes digits with
  | some bytes =>
      if closed then (.blob bytes, digits.length + 3)
      else (.illegal, 2 + lengthWhile (· ≠ '\'') rest + 1)
  | none => (.illegal, 2 + lengthWhile (· ≠ '\'') rest + 1)

/-- What stands at the front of a text, and its length. A blank or a comment is no token. -/
def atFront (cs : List Char) : Option TokenKind × Nat :=
  match cs with
  | [] => (none, 0)
  | '-' :: '-' :: rest => (none, 2 + lengthWhile (· ≠ '\n') rest)
  | '/' :: '*' :: c :: rest => (none, 2 + commentLength (c :: rest))
  | 'x' :: '\'' :: rest => let (kind, n) := blob rest; (some kind, n)
  | 'X' :: '\'' :: rest => let (kind, n) := blob rest; (some kind, n)
  | '\'' :: rest =>
      let (kind, n) := quotedToken .text (quotedBody '\'' rest) cs.length
      (some kind, n)
  | '"' :: rest =>
      let (kind, n) := quotedToken .quotedName (quotedBody '"' rest) cs.length
      (some kind, n)
  | '\x60' :: rest =>
      let (kind, n) := quotedToken .quotedName (quotedBody '\x60' rest) cs.length
      (some kind, n)
  | '[' :: rest =>
      let (kind, n) := quotedToken .quotedName (bracketBody rest) cs.length
      (some kind, n)
  | '?' :: rest => (some .parameter, 1 + lengthWhile Char.isDigit rest)
  | c :: rest =>
      if c = byteOrderMark then (none, 1)
      else if startsSpace c then (none, 1 + lengthWhile isSpace rest)
      else if startsName c then (some .word, 1 + lengthWhile continuesName rest)
      else if c.isDigit || (c = '.' && (rest.head?.any Char.isDigit)) then
        let (kind, n) := number cs
        (some kind, n)
      else if c = '$' ∨ c = '@' ∨ c = '#' ∨ c = ':' then
        let (n, named) := parameterLength false rest
        (some (if named then .parameter else .illegal), n + 1)
      else
        match symbols.find? fun symbol => symbol.toList.isPrefixOf cs with
        | some symbol => (some .symbol, symbol.length)
        | none => (some .illegal, 1)

/-- The tokens of a text whose first byte is at `place`. Every step takes a character, so the length
of the text is enough fuel. -/
def scan (place : Nat) : Nat → List Char → List Token
  | 0, _ => []
  | fuel + 1, cs =>
      match cs with
      | [] => []
      | _ =>
          let (kind, count) := atFront cs
          let source := String.ofList (cs.take count)
          let rest := cs.drop count
          let after := scan (place + source.utf8ByteSize) fuel rest
          match kind with
          | some kind => ⟨kind, source, place, rest⟩ :: after
          | none => after

def ofText (text : String) : List Token := scan 0 text.length text.toList

def isWord (token : Token) (word : String) : Bool :=
  token.kind = .word && sameName token.source word

def isSymbol (token : Token) (symbol : String) : Bool :=
  token.kind = .symbol && token.source == symbol

def reserved : List String :=
  ["add", "all", "alter", "and", "as", "autoincrement", "between", "case", "check", "collate",
    "commit", "constraint", "create", "default", "deferrable", "delete", "distinct", "drop",
    "else", "escape", "except", "exists", "foreign", "from", "group", "having", "in", "index",
    "insert", "intersect", "into", "is", "isnull", "join", "limit", "not", "nothing", "notnull",
    "null", "on", "or", "order", "primary", "references", "returning", "select", "set", "table",
    "then", "to", "transaction", "union", "unique", "update", "using", "values", "when", "where"]

/-- The words that join tables. They can be names, but not where a join may go on. -/
def joining : List String := ["cross", "full", "inner", "left", "natural", "outer", "right"]

/-- The words that can be names, but not in a type nor after something that they would name. -/
def outside : List String := "indexed" :: joining

/-- The words that mean something in places, but can be names anywhere. -/
def lenient : List String :=
  ["abort", "action", "after", "always", "analyze", "asc", "attach", "before", "begin", "by",
    "cascade", "cast", "column", "conflict", "current", "current_date", "current_time",
    "current_timestamp", "database", "deferred", "desc", "detach", "do", "each", "end", "exclude",
    "exclusive", "explain", "fail", "filter", "first", "following", "for", "generated", "glob",
    "groups", "if", "ignore", "immediate", "initially", "instead", "key", "last", "like", "match",
    "materialized", "no", "nulls", "of", "offset", "others", "over", "partition", "plan", "pragma",
    "preceding", "query", "raise", "range", "recursive", "regexp", "reindex", "release", "rename",
    "replace", "restrict", "rollback", "row", "rows", "savepoint", "temp", "temporary", "ties",
    "trigger", "unbounded", "vacuum", "view", "virtual", "window", "with", "without"]

def isKeyword (word : String) : Bool := (reserved ++ outside ++ lenient).contains (foldCase word)

def name? (token : Token) : Option String :=
  match token.kind with
  | .word => if reserved.contains (foldCase token.source) then none else some token.source
  | .quotedName name => some name
  | .text value => some value
  | _ => none

/-- The name that a token is, if it can be one where a join may go on. -/
def plainName? (token : Token) : Option String :=
  if token.kind = .word && outside.contains (foldCase token.source) then none else token.name?

def quote? (token : Token) : Option Char :=
  match token.kind with
  | .quotedName _ => token.source.toList.head?
  | _ => none

end Token

end RowSource.Sql
