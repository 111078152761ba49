import RowSource.Sql.Parser.Basic

/-!
# Parsing SQL: expressions

Operators bind in ten levels, the loosest first. An operand is a literal, a parameter, a column, a
function, a query or an expression in parentheses, with signs before it. How a query is read is
given.
-/

namespace RowSource.Sql

namespace Parser

/-! ### Literals -/

/-- Whether every mark in a number stands between two digits, and the number up to the last mark that
does not, without the marks before it. -/
def misplacedMark? (digit : Char → Bool) (kept : List Char) (failed : Option (List Char)) :
    List Char → Option (List Char)
  | [] => failed
  | '_' :: rest =>
      let good := (kept.head?.any digit) && (rest.head?.any digit)
      misplacedMark? digit kept (if good then failed else some (kept.reverse ++ '_' :: rest)) rest
  | c :: rest => misplacedMark? digit (c :: kept) failed rest

/-- A number without the marks between its digits. -/
def withoutMarks (token : Token) : Parser String := do
  let cs := token.source.toList
  let isHex := (Numeral.hexadecimalDigits? cs).isSome
  let digit := if isHex then Token.isHexDigit else Char.isDigit
  match misplacedMark? digit [] none cs with
  | some shown => raise ("unrecognized token: \"" ++ String.ofList shown ++ "\"")
  | none => pure ()
  return String.ofList (cs.filter (· ≠ '_'))

def numberOf (token : Token) : Parser Expression := do
  let source ← if token.kind = .marked then withoutMarks token else pure token.source
  return .number source token.start

/-! ### Parameters -/

def greatestParameter : Nat := 32766

def freshParameter : Parser Nat := do
  let number := (← get).parameters + 1
  modify fun s => { s with parameters := number }
  return number

/-- The number of a parameter. The same name stands for the same number. -/
def parameterNumber (token : Token) : Parser Nat := do
  let number ←
    match token.source.toList with
    | ['?'] => freshParameter
    | '?' :: digits =>
        let number := Numeral.digitsValue digits
        if number = 0 ∨ greatestParameter < number then
          raise "variable number must be between ?1 and ?32766" (some token.start)
          return 1
        modify fun s => { s with parameters := max s.parameters number }
        pure number
    | _ =>
        match (← get).named.find? fun entry => entry.1 == token.source with
        | some (_, number) => pure number
        | none => do
            let number ← freshParameter
            modify fun s => { s with named := (token.source, number) :: s.named }
            pure number
  if greatestParameter < number then raise "too many SQL variables" (some token.start)
  return number

/-- A parameter. A number sign and digits are kept for other uses. -/
def parameter (token : Token) : Parser Expression := do
  advance
  match token.source.toList with
  | '#' :: c :: _ =>
      if c.isDigit then
        modify fun s => { s with pending := some (misplaced token) }
        return .literal .null
      else return .parameter (← parameterNumber token) token.start
  | _ => return .parameter (← parameterNumber token) token.start

/-! ### Types -/

def typeWords : Nat → Parser Unit
  | 0 => return
  | fuel + 1 => do
      match ← peek with
      | some token =>
          if token.plainName?.isSome then
            advance
            typeWords fuel
      | none => return

def typeNumber : Parser Unit := do
  if !(← takeSymbol "-") then
    let _ ← takeSymbol "+"
  match ← peek with
  | some token =>
      if token.kind = .integer ∨ token.kind = .real then advance else unexpected
  | none => unexpected

def unquoted (text : String) : String :=
  match text.toList with
  | quote :: rest =>
      let closing := if quote = '[' then ']' else quote
      if ['\'', '"', '\x60', '['].contains quote then
        match Token.quotedBody closing rest with
        | some (inner, _) => String.ofList inner
        | none => text
      else text
  | [] => text

def typeName : Parser String := do
  let before := (← get).tokens
  typeWords (← enough)
  if !(← tokensSince before).isEmpty && (← takeSymbol "(") then
    typeNumber
    if ← takeSymbol "," then
      typeNumber
    expectSymbol ")"
  return unquoted (← textOfTokens (← tokensSince before))

/-! ### Names -/

def collationName : Parser (String × Nat) := do
  match ← peek with
  | none => unexpected
  | some token =>
      match token.plainName? with
      | some name => advance; return (name, token.start)
      | none => unexpected

def columnTail (first : String) (quote : Option Char) (start : Nat) : Parser Expression := do
  if ← takeSymbol "." then
    let (second, _) ← name
    if ← takeSymbol "." then
      let (third, _) ← name
      return .column (some first) (some second) third none start
    return .column none (some first) second none start
  else return .column none none first quote start

def directionTail : Parser Direction := do
  let descending ←
    if ← takeWord "desc" then pure true
    else
      let _ ← takeWord "asc"
      pure false
  if ← takeWord "nulls" then
    if ← takeWord "first" then return ⟨descending, some true⟩
    else
      expectWord "last"
      return ⟨descending, some false⟩
  else return ⟨descending, none⟩

def currentWords : List String := ["current_date", "current_time", "current_timestamp"]

/-! ### Constants -/

mutual

/-- Whether an expression has the same value everywhere: it has no column and no parameter. -/
def isFixed : Expression → Bool
  | .literal _ | .number _ _ => true
  | .column none none name none _ => sameName name "true" || sameName name "false"
  | .parameter _ _ | .column _ _ _ _ _ | .inQuery _ _ | .nonempty _ | .query _ | .raise _ _ _ => false
  | .call _ arguments => areFixed arguments
  | .ordered call _ _ | .filtered call _ => isFixed call
  | .cast operand _ | .collate operand _ _ | .unary _ operand => isFixed operand
  | .binary _ left right | .caseOf left right => isFixed left && isFixed right
  | .between operand low high | .choice operand low high =>
      isFixed operand && isFixed low && isFixed high
  | .row items => areFixed items
  | .inList operand members => isFixed operand && areFixed members

def areFixed : List Expression → Bool
  | [] => true
  | item :: rest => isFixed item && areFixed rest

end

/-! ### Operators -/

def greatestHeight : Nat := 1000

def limited (value : Expression) : Parser Expression := do
  if greatestHeight < value.height then
    raise ("Expression tree is too large (maximum depth " ++ toString greatestHeight ++ ")")
  return value

def greatestArguments : Nat := 1000

def called (call : Call) (written : String) (arguments : List Expression) : Parser Expression := do
  if greatestArguments < arguments.length then
    raise ("too many arguments on function " ++ written) (some call.place)
  limited (.call call arguments)

inductive Joint where
  | operator (op : BinaryOp)
  /-- A function of the right and the left side. -/
  | pattern
  /-- A function of the left and the right side. -/
  | arrow

/-- The level of what joins two operands, the loosest first. -/
def joint? (token : Token) : Option (Nat × Joint) :=
  match token.kind with
  | .symbol =>
      match token.source with
      | "=" | "==" => some (4, .operator .eq)
      | "!=" | "<>" => some (4, .operator .ne)
      | "<" => some (5, .operator .lt)
      | "<=" => some (5, .operator .le)
      | ">" => some (5, .operator .gt)
      | ">=" => some (5, .operator .ge)
      | "&" => some (6, .operator .bitAnd)
      | "|" => some (6, .operator .bitOr)
      | "<<" => some (6, .operator .shiftLeft)
      | ">>" => some (6, .operator .shiftRight)
      | "+" => some (7, .operator .add)
      | "-" => some (7, .operator .subtract)
      | "*" => some (8, .operator .multiply)
      | "/" => some (8, .operator .divide)
      | "%" => some (8, .operator .remainder)
      | "||" => some (9, .operator .concat)
      | "->" | "->>" => some (9, .arrow)
      | _ => none
  | .word =>
      match foldCase token.source with
      | "or" => some (1, .operator .or)
      | "and" => some (2, .operator .and)
      | "like" | "glob" | "match" | "regexp" => some (4, .pattern)
      | _ => none
  | _ => none

/-- Whether an expression is a literal that is not null, perhaps with signs. -/
def isSomething : Expression → Bool
  | .number _ _ => true
  | .literal value => !value.isNull
  | .unary .negate operand | .unary .identity operand => isSomething operand
  | _ => false

/-- Whether a value is nothing, or else whether it is not. A literal is known to be something. -/
def absence (negated : Bool) (operand : Expression) : Expression :=
  if isSomething operand then .number (if negated then "1" else "0") 0
  else .unary (if negated then .isNotNull else .isNull) operand

/-- Whether two values are the same. To be the same as nothing is to be nothing. -/
def sameness (negated : Bool) (left right : Expression) : Expression :=
  match right with
  | .literal .null => absence negated left
  | _ => .binary (if negated then .isNot else .is) left right

def applied (op : BinaryOp) (left right : Expression) : Expression :=
  if op = .and then .both left right else .binary op left right

/-- An expression with a sign before it. A plus sign under another sign is dropped. -/
def withSign (op : UnaryOp) (operand : Expression) : Parser Expression :=
  match operand with
  | .unary .identity inner => return .unary op inner
  | _ => limited (.unary op operand)

/-- Whether a value is among some others. There is nothing among none, and the only one that is fixed
is compared with it. -/
def member (negated : Bool) (operand : Expression) (members : List Expression) :
    Parser Expression := do
  match members with
  | [] => return .number (if negated then "1" else "0") 0
  | [only] =>
      let isRow := match operand with
        | .row _ => true
        | _ => false
      if (isFixed only || isParameter only) && !isRow then
        let equal ← limited (.binary .eq operand (.unary .identity only))
        within negated equal
      else
        match only with
        | .query query => do within negated (← limited (.inQuery operand query))
        | _ => do within negated (← limited (.inList operand members))
  | _ => do within negated (← limited (.inList operand members))
where
  isParameter : Expression → Bool
    | .parameter _ _ => true
    | _ => false
  within (negated : Bool) (value : Expression) : Parser Expression :=
    if negated then limited (.unary .not value) else return value

section

variable (query : Parser Select)

def nextIsQuery : Parser Bool := do
  return (← nextIsWord "select") || (← nextIsWord "values") || (← nextIsWord "with")

mutual

/-- An expression whose operators are all at `level` or tighter. -/
def expr (level : Nat) : Nat → Parser Expression
  | 0 => throw { message := "parser stack overflow" }
  | fuel + 1 => do
      let left ← operand fuel
      operators level left fuel

def operators (level : Nat) (left : Expression) : Nat → Parser Expression
  | 0 => throw { message := "parser stack overflow" }
  | fuel + 1 => do
      match ← peek with
      | none => return left
      | some token =>
          match joint? token with
          | some (binding, joint) =>
              if binding < level then return left
              else
                advance
                match joint with
                | .operator op => do
                    let right ← expr (binding + 1) fuel
                    operators level (← limited (applied op left right)) fuel
                | .pattern => do operators level (← patternTail left token fuel) fuel
                | .arrow => do
                    let right ← expr 10 fuel
                    let call : Call := { name := token.source, place := token.start }
                    operators level (← called call token.source [left, right]) fuel
          | none =>
              if token.isWord "collate" then
                advance
                let (collation, place) ← collationName
                operators level (.collate left collation place) fuel
              else if 4 < level then return left
              else if token.isWord "is" then
                advance
                let negated ← takeWord "not"
                if ← takeWord "distinct" then
                  expectWord "from"
                  let right ← expr 5 fuel
                  operators level (← limited (sameness (!negated) left right)) fuel
                else
                  let right ← expr 5 fuel
                  operators level (← limited (sameness negated left right)) fuel
              else if token.isWord "isnull" then
                advance
                operators level (← limited (absence false left)) fuel
              else if token.isWord "notnull" then
                advance
                operators level (← limited (absence true left)) fuel
              else if token.isWord "between" then
                advance
                operators level (← betweenTail left fuel) fuel
              else if token.isWord "in" then
                advance
                operators level (← inTail false left fuel) fuel
              else if token.isWord "not" then
                advance
                match ← peek with
                | none => unexpected
                | some token =>
                    if token.isWord "null" then
                      advance
                      operators level (← limited (absence true left)) fuel
                    else if token.isWord "between" then
                      advance
                      let range ← betweenTail left fuel
                      operators level (← limited (.unary .not range)) fuel
                    else if token.isWord "in" then
                      advance
                      operators level (← inTail true left fuel) fuel
                    else
                      match joint? token with
                      | some (_, .pattern) => do
                          advance
                          let fits ← patternTail left token fuel
                          operators level (← limited (.unary .not fits)) fuel
                      | _ => unexpected
              else return left

def patternTail (left : Expression) (token : Token) : Nat → Parser Expression
  | 0 => throw { message := "parser stack overflow" }
  | fuel + 1 => do
      let call : Call := { name := token.source, place := token.start }
      let right ← expr 5 fuel
      if ← takeWord "escape" then
        let escape ← expr 5 fuel
        called call token.source [right, left, escape]
      else called call token.source [right, left]

def betweenTail (left : Expression) : Nat → Parser Expression
  | 0 => throw { message := "parser stack overflow" }
  | fuel + 1 => do
      let low ← expr 3 fuel
      if ← takeWord "or" then
        let _ ← expr 2 fuel
        unexpected
      else
        expectWord "and"
        let high ← expr 5 fuel
        limited (.between left low high)

def inTail (negated : Bool) (left : Expression) : Nat → Parser Expression
  | 0 => throw { message := "parser stack overflow" }
  | fuel + 1 => do
      if ← takeSymbol "(" then
        if ← nextIsQuery then
          let inner ← query
          expectSymbol ")"
          member.within negated (← limited (.inQuery left inner))
        else if ← takeSymbol ")" then member negated left []
        else
          let members ← listTail fuel
          member negated left members
      else
        let table ← tableName
        let arguments ←
          if ← takeSymbol "(" then
            if ← takeSymbol ")" then pure (some [])
            else pure (some (← listTail fuel))
          else pure none
        let inner : Select :=
          { parts := [{ core := { columns := [.all]
                                  tables := [{ item := .named table arguments }] } }] }
        member.within negated (← limited (.inQuery left inner))

def operand : Nat → Parser Expression
  | 0 => throw { message := "parser stack overflow" }
  | fuel + 1 => do
      match ← peek with
      | none => unexpected
      | some token =>
          match token.kind with
          | .integer | .real | .marked => advance; numberOf token
          | .text value =>
              advance
              if ← nextIsSymbol "." then columnTail value none token.start
              else return .literal (.ofString value)
          | .blob bytes => advance; return .literal (.blob bytes)
          | .parameter => parameter token
          | .illegal => unexpected
          | .symbol =>
              if token.source == "-" then
                advance
                withSign .negate (← tightOperand fuel)
              else if token.source == "+" then
                advance
                withSign .identity (← tightOperand fuel)
              else if token.source == "~" then
                advance
                limited (.unary .complement (← tightOperand fuel))
              else if token.source == "(" then
                advance
                if ← nextIsQuery then
                  let inner ← query
                  expectSymbol ")"
                  return .query inner
                else
                  match ← listTail fuel with
                  | [only] => return only
                  | items => return .row items
              else unexpected
          | .quotedName name =>
              advance
              if ← takeSymbol "(" then callTail name token fuel
              else columnTail name token.quote? token.start
          | .word => wordOperand token fuel

def tightOperand : Nat → Parser Expression
  | 0 => throw { message := "parser stack overflow" }
  | fuel + 1 => operand fuel

def wordOperand (token : Token) : Nat → Parser Expression
  | 0 => throw { message := "parser stack overflow" }
  | fuel + 1 => do
      if token.isWord "null" then advance; return .literal .null
      else if token.isWord "not" then
        advance
        limited (.unary .not (← expr 3 fuel))
      else if token.isWord "exists" then
        advance
        expectSymbol "("
        if ← nextIsQuery then
          let inner ← query
          expectSymbol ")"
          return .nonempty inner
        else unexpected
      else if token.isWord "case" then
        advance
        if ← nextIsWord "when" then caseTail fuel
        else
          let value ← expr 1 fuel
          if ← nextIsWord "when" then limited (.caseOf value (← caseTail fuel)) else unexpected
      else if token.isWord "cast" then
        advance
        expectSymbol "("
        let inner ← expr 1 fuel
        expectWord "as"
        let type ← typeName
        expectSymbol ")"
        return .cast inner type
      else if token.isWord "raise" then
        advance
        expectSymbol "("
        raiseTail token.start fuel
      else if currentWords.contains (foldCase token.source) then
        advance
        called { name := token.source, place := token.start } token.source []
      else
        match token.name? with
        | none => unexpected
        | some name =>
            advance
            if ← takeSymbol "(" then callTail name token fuel
            else columnTail name none token.start

/-- The choices of a case from its first `WHEN` on. A case that stands for none of them has choices of
its own. -/
def caseTail : Nat → Parser Expression
  | 0 => throw { message := "parser stack overflow" }
  | fuel + 1 => do
      expectWord "when"
      let condition ← expr 1 fuel
      expectWord "then"
      let result ← expr 1 fuel
      if ← nextIsWord "when" then
        limited (.choice condition result (← caseTail fuel))
      else if ← takeWord "else" then
        let otherwise ← expr 1 fuel
        expectWord "end"
        limited (.choice condition result
          (if otherwise.isChoice then .unary .identity otherwise else otherwise))
      else
        expectWord "end"
        limited (.choice condition result (.literal .null))

def raiseTail (place : Nat) : Nat → Parser Expression
  | 0 => throw { message := "parser stack overflow" }
  | fuel + 1 => do
      if ← takeWord "ignore" then
        expectSymbol ")"
        return .raise .ignore (.literal .null) place
      else
        let resolution ←
          if ← takeWord "rollback" then pure Resolution.rollback
          else if ← takeWord "abort" then pure Resolution.abort
          else
            expectWord "fail"
            pure Resolution.fail
        expectSymbol ","
        let message ← expr 1 fuel
        expectSymbol ")"
        return .raise resolution message place

def callTail (name : String) (token : Token) : Nat → Parser Expression
  | 0 => throw { message := "parser stack overflow" }
  | fuel + 1 => do
      let call : Call := { name := name, place := token.start }
      if ← takeSymbol "*" then
        expectSymbol ")"
        filterTail (← called { call with isStar := true } token.source []) fuel
      else if ← takeSymbol ")" then filterTail (← called call token.source []) fuel
      else
        let isDistinct ← takeWord "distinct"
        if !isDistinct then
          let _ ← takeWord "all"
        let call := { call with isDistinct := isDistinct }
        if ← takeSymbol ")" then filterTail (← called call token.source []) fuel
        else
          let arguments ← items fuel
          if ← takeWord "order" then
            expectWord "by"
            let keys ← keyItems fuel
            expectSymbol ")"
            let inner ← called call token.source arguments
            filterTail (.ordered inner (keys.map (·.1)) (keys.map (·.2))) fuel
          else
            expectSymbol ")"
            filterTail (← called call token.source arguments) fuel

def filterTail (call : Expression) : Nat → Parser Expression
  | 0 => throw { message := "parser stack overflow" }
  | fuel + 1 => do
      if (← nextIsWord "filter") && (← get).tokens[1]?.any (·.isSymbol "(") then
        advance
        expectSymbol "("
        expectWord "where"
        let condition ← expr 1 fuel
        expectSymbol ")"
        return .filtered call condition
      else return call

def items : Nat → Parser (List Expression)
  | 0 => throw { message := "parser stack overflow" }
  | fuel + 1 => do
      let first ← expr 1 fuel
      if ← takeSymbol "," then return first :: (← items fuel) else return [first]

def listTail : Nat → Parser (List Expression)
  | 0 => throw { message := "parser stack overflow" }
  | fuel + 1 => do
      let values ← items fuel
      expectSymbol ")"
      return values

def keyItems : Nat → Parser (List (Expression × Direction))
  | 0 => throw { message := "parser stack overflow" }
  | fuel + 1 => do
      let key ← expr 1 fuel
      let direction ← directionTail
      if ← takeSymbol "," then return (key, direction) :: (← keyItems fuel)
      else return [(key, direction)]

end

end

end Parser

end RowSource.Sql
