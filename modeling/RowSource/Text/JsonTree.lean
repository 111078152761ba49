/-!
# JSON in text

Reads a JSON text into a tree. Numbers keep their digits as written, because what they may be
depends on who asks, and a string whose escapes name half a character keeps its place in the tree
without a value.
-/

namespace RowSource

inductive JsonTree where
  | null
  | bool (value : Bool)
  | number (digits : List Char)
  | text (decoded : Option String)
  | array (items : List JsonTree)
  | object (fields : List (Option String × JsonTree))

namespace JsonTree

def isGap (c : Char) : Bool := c = ' ' || c = '\n' || c = '\t' || c = '\r'

def skipGap (cs : List Char) : List Char := cs.dropWhile isGap

/-! ### Strings -/

def hexDigit? (c : Char) : Option Nat :=
  if '0' ≤ c ∧ c ≤ '9' then some (c.toNat - '0'.toNat)
  else if 'a' ≤ c ∧ c ≤ 'f' then some (c.toNat - 'a'.toNat + 10)
  else if 'A' ≤ c ∧ c ≤ 'F' then some (c.toNat - 'A'.toNat + 10)
  else none

def hexUnit? (a b c d : Char) : Option Nat := do
  let a ← hexDigit? a
  let b ← hexDigit? b
  let c ← hexDigit? c
  let d ← hexDigit? d
  return ((a * 16 + b) * 16 + c) * 16 + d

def shortEscape? : Char → Option Nat
  | '"' => some 0x22
  | '\\' => some 0x5c
  | '/' => some 0x2f
  | 'b' => some 0x08
  | 'f' => some 0x0c
  | 'n' => some 0x0a
  | 'r' => some 0x0d
  | 't' => some 0x09
  | _ => none

/-- The units of a string up to its closing quote, and what follows it. A unit is a code point,
which for an escape may be half of a character. -/
def units? : List Char → Option (List (Bool × Nat) × List Char)
  | [] => none
  | '"' :: rest => some ([], rest)
  | '\\' :: 'u' :: a :: b :: c :: d :: rest => do
      let unit ← hexUnit? a b c d
      let (units, after) ← units? rest
      return ((true, unit) :: units, after)
  | '\\' :: escape :: rest => do
      let unit ← shortEscape? escape
      let (units, after) ← units? rest
      return ((false, unit) :: units, after)
  | c :: rest =>
      if c.toNat < 0x20 then none
      else do
        let (units, after) ← units? rest
        return ((false, c.toNat) :: units, after)

def isUpperHalf (unit : Nat) : Bool := 0xd800 ≤ unit && unit < 0xdc00

def isLowerHalf (unit : Nat) : Bool := 0xdc00 ≤ unit && unit < 0xe000

/-- Units as characters. Two escaped halves that belong together are one character, and no other
half may stand. -/
def joined? : List (Bool × Nat) → Option (List Char)
  | [] => some []
  | (true, unit) :: rest =>
      if isUpperHalf unit then
        match rest with
        | (true, next) :: rest =>
            if isLowerHalf next then
              (joined? rest).map
                (Char.ofNat (0x10000 + (unit - 0xd800) * 0x400 + (next - 0xdc00)) :: ·)
            else none
        | _ => none
      else if isLowerHalf unit then none
      else (joined? rest).map (Char.ofNat unit :: ·)
  | (false, unit) :: rest => (joined? rest).map (Char.ofNat unit :: ·)

def string? (cs : List Char) : Option (Option String × List Char) :=
  (units? cs).map fun (units, rest) => ((joined? units).map String.ofList, rest)

/-! ### Numbers -/

def digits? (cs : List Char) : Option (List Char × List Char) :=
  match cs.span Char.isDigit with
  | ([], _) => none
  | split => some split

/-- The whole part: a zero alone, or digits that begin with no zero. -/
def whole? : List Char → Option (List Char × List Char)
  | '0' :: rest =>
      match rest with
      | c :: _ => if c.isDigit then none else some (['0'], rest)
      | [] => some (['0'], [])
  | cs => digits? cs

def part? : List Char → Option (List Char × List Char)
  | '.' :: rest => (digits? rest).map fun (digits, rest) => ('.' :: digits, rest)
  | cs => some ([], cs)

def exponent? : List Char → Option (List Char × List Char)
  | c :: rest =>
      if c = 'e' ∨ c = 'E' then
        match rest with
        | '+' :: rest => (digits? rest).map fun (digits, rest) => (c :: digits, rest)
        | '-' :: rest => (digits? rest).map fun (digits, rest) => (c :: '-' :: digits, rest)
        | rest => (digits? rest).map fun (digits, rest) => (c :: digits, rest)
      else some ([], c :: rest)
  | [] => some ([], [])

def unsigned? (cs : List Char) : Option (List Char × List Char) := do
  let (whole, rest) ← whole? cs
  let (part, rest) ← part? rest
  let (exponent, rest) ← exponent? rest
  return (whole ++ part ++ exponent, rest)

def number? : List Char → Option (List Char × List Char)
  | '-' :: rest => (unsigned? rest).map fun (digits, rest) => ('-' :: digits, rest)
  | cs => unsigned? cs

/-! ### Values -/

def after? (word : String) (cs : List Char) : Option (List Char) :=
  if word.toList.isPrefixOf cs then some (cs.drop word.length) else none

mutual

/-- A value after the gap before it. Every second call takes a character, so twice the length of
the text is enough fuel. -/
def value? : Nat → List Char → Option (JsonTree × List Char)
  | 0, _ => none
  | fuel + 1, cs =>
      match cs with
      | '"' :: rest => (string? rest).map fun (decoded, rest) => (.text decoded, rest)
      | '[' :: rest =>
          match skipGap rest with
          | ']' :: rest => some (.array [], rest)
          | rest => (items? fuel rest).map fun (items, rest) => (.array items, rest)
      | '\x7b' :: rest =>
          match skipGap rest with
          | '\x7d' :: rest => some (.object [], rest)
          | rest => (fields? fuel rest).map fun (fields, rest) => (.object fields, rest)
      | 'n' :: _ => (after? "null" cs).map fun rest => (.null, rest)
      | 't' :: _ => (after? "true" cs).map fun rest => (.bool true, rest)
      | 'f' :: _ => (after? "false" cs).map fun rest => (.bool false, rest)
      | cs => (number? cs).map fun (digits, rest) => (.number digits, rest)

def items? : Nat → List Char → Option (List JsonTree × List Char)
  | 0, _ => none
  | fuel + 1, cs => do
      let (item, rest) ← value? fuel cs
      match skipGap rest with
      | ']' :: rest => return ([item], rest)
      | ',' :: rest =>
          let (items, rest) ← items? fuel (skipGap rest)
          return (item :: items, rest)
      | _ => none

def fields? : Nat → List Char → Option (List (Option String × JsonTree) × List Char)
  | 0, _ => none
  | fuel + 1, cs =>
      match cs with
      | '"' :: rest => do
          let (key, rest) ← string? rest
          match skipGap rest with
          | ':' :: rest =>
              let (value, rest) ← value? fuel (skipGap rest)
              match skipGap rest with
              | '\x7d' :: rest => return ([(key, value)], rest)
              | ',' :: rest =>
                  let (fields, rest) ← fields? fuel (skipGap rest)
                  return ((key, value) :: fields, rest)
              | _ => none
          | _ => none
      | _ => none

end

def ofText? (text : String) : Option JsonTree :=
  let cs := text.toList
  match value? (2 * cs.length + 2) (skipGap cs) with
  | some (tree, rest) => if (skipGap rest).isEmpty then some tree else none
  | none => none

end JsonTree

end RowSource
