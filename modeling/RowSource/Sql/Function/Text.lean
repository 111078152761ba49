import RowSource.Sql.Affinity
import RowSource.Sql.Function.Pattern

/-!
# Functions of texts

Functions that count, cut, search and change texts, which are bytes. Where characters matter, they are
found in the bytes; most functions see no more of a text than stands before its first null character.
-/

namespace RowSource.Sql.TextFunction

def characters (bytes : List UInt8) : List (List UInt8) := characterBytes bytes

def length : Datum → Datum
  | .null => .null
  | .blob bytes => .ofInteger bytes.length
  | value => .ofInteger (characters (upToNullByte ((textOf value).getD []))).length

def octetLength (value : Datum) : Datum :=
  match textOf value with
  | some bytes => .ofInteger bytes.length
  | none => .null

def mapBytes (f : UInt8 → UInt8) (value : Datum) : Datum :=
  match textOf value with
  | some bytes => .text (bytes.map f)
  | none => .null

def upperByte (b : UInt8) : UInt8 := if 97 ≤ b && b ≤ 122 then b - 32 else b

def upper : Datum → Datum := mapBytes upperByte

def lower : Datum → Datum := mapBytes foldByte

/-! ### Hexadecimal digits -/

def hexDigit (n : Nat) : UInt8 := if n < 10 then UInt8.ofNat (48 + n) else UInt8.ofNat (55 + n)

def hexBytes (bytes : List UInt8) : List UInt8 :=
  bytes.flatMap fun b => [hexDigit (b.toNat / 16), hexDigit (b.toNat % 16)]

def hex (value : Datum) : Datum := .text (hexBytes ((textOf value).getD []))

def hexValue? (b : UInt8) : Option Nat := JsonTree.hexDigit? (Char.ofNat b.toNat)

/-- The bytes that pairs of hexadecimal digits write. Between pairs some characters may stand. -/
def unhexed (ignored : List (List UInt8)) : List (List UInt8) → Option (List UInt8)
  | [] => some []
  | [high] :: rest =>
      match hexValue? high with
      | some h =>
          match rest with
          | [low] :: rest => do
              let l ← hexValue? low
              return UInt8.ofNat (16 * h + l) :: (← unhexed ignored rest)
          | _ => none
      | none => if ignored.contains [high] then unhexed ignored rest else none
  | other :: rest => if ignored.contains other then unhexed ignored rest else none

def unhex (value : Datum) (ignored : List UInt8) : Datum :=
  match (textOf value).bind fun bytes =>
      unhexed (characters (upToNullByte ignored)) (characters (upToNullByte bytes)) with
  | some bytes => .blob bytes
  | none => .null

/-! ### Literals -/

def quoteByte : UInt8 := 39

/-- A text in single quotes. A quote within it is written twice. -/
def quotedText (bytes : List UInt8) : List UInt8 :=
  quoteByte :: ((upToNullByte bytes).flatMap fun b =>
    if b = quoteByte then [quoteByte, quoteByte] else [b]) ++ [quoteByte]

def quote (value : Datum) : Datum :=
  match value with
  | .null => .ofString "NULL"
  | .text bytes => .text (quotedText bytes)
  | .blob bytes => .text (88 :: quoteByte :: hexBytes bytes ++ [quoteByte])
  | .integer _ | .real _ => .text ((textOf value).getD [])

/-! ### Characters -/

def unicode (value : Datum) : Datum :=
  match (textOf value).map characterNumbers with
  | some (number :: _) => .ofInteger number
  | _ => .null

/-- The bytes of the character of a number. A number of no character is that of the replacement
character. -/
def encoded (number : Int) : List UInt8 :=
  let n : Nat := if number < 0 ∨ 0x10ffff < number then 0xfffd else number.toNat
  let byte (lead shift : Nat) : UInt8 := UInt8.ofNat (lead + n / Nat.pow 64 shift % 64)
  if n < 0x80 then [UInt8.ofNat n]
  else if n < 0x800 then [byte 0xc0 1, byte 0x80 0]
  else if n < 0x10000 then [byte 0xe0 2, byte 0x80 1, byte 0x80 0]
  else [byte 0xf0 3, byte 0x80 2, byte 0x80 1, byte 0x80 0]

def char (values : List Datum) : Datum := .text (values.flatMap fun value => encoded (wholeOf value))

/-! ### Trimming -/

def withoutFront (set : List (List UInt8)) : Nat → List UInt8 → List UInt8
  | 0, bytes => bytes
  | fuel + 1, bytes =>
      match set.find? fun character => character.isPrefixOf bytes with
      | some character => withoutFront set fuel (bytes.drop character.length)
      | none => bytes

def trim (front back : Bool) (value : Datum) (set : List UInt8) : Datum :=
  match textOf value with
  | none => .null
  | some bytes =>
      let set := characters (upToNullByte set)
      let bytes := if front then withoutFront set bytes.length bytes else bytes
      let bytes :=
        if back then
          (withoutFront (set.map List.reverse) bytes.length bytes.reverse).reverse
        else bytes
      .text bytes

/-! ### Searching -/

/-- A text with every occurrence of a pattern replaced, from the front. Each step takes a byte at
least, so the length is enough fuel. -/
def replaced (pattern replacement : List UInt8) : Nat → List UInt8 → List UInt8
  | 0, bytes => bytes
  | _ + 1, [] => []
  | fuel + 1, b :: rest =>
      if pattern.isPrefixOf (b :: rest) then
        replacement ++ replaced pattern replacement fuel ((b :: rest).drop pattern.length)
      else b :: replaced pattern replacement fuel rest

def replace (value pattern replacement : Datum) : Datum :=
  match textOf value, textOf pattern, textOf replacement with
  | some bytes, some pattern, some replacement =>
      if pattern.head?.all (· == 0) then
        match value with
        | .integer _ | .real _ | .blob _ => value
        | _ => .text bytes
      else .text (replaced pattern replacement bytes.length bytes)
  | _, _, _ => .null

/-- The position of the first of some characters from which on a text begins with another one. -/
def position (needle : List UInt8) : Int → List (List UInt8) → Int
  | number, [] => if needle.isEmpty then number else 0
  | number, character :: rest =>
      if needle.isPrefixOf (character :: rest).flatten then number
      else position needle (number + 1) rest

def instr (value needle : Datum) : Datum :=
  match value, needle with
  | .blob bytes, .blob needle => .ofInteger (position needle 1 (bytes.map ([·])))
  | _, _ =>
      match textOf value, textOf needle with
      | some bytes, some needle => .ofInteger (position needle 1 (characters bytes))
      | _, _ => .null

/-! ### Cutting -/

/-- How many characters are left out, and how many taken: a start from one on, or from the end if it
is negative, and a count, which may be negative for those before the start. -/
def cutting (length start count : Int) : Int × Int :=
  let (start, count) :=
    if start < 0 then
      if start + length < 0 then (0, if count < 0 then 0 else count + (start + length))
      else (start + length, count)
    else if 0 < start then (start - 1, count)
    else (start, if 0 < count then count - 1 else count)
  if count < 0 then
    let taken := if start < -count then start else -count
    (start - taken, taken)
  else (start, count)

def substring (value start : Datum) (count : Option Datum) : Datum :=
  if start.isNull || count.any Datum.isNull then .null
  else
    let first := wholeOf start
    let many := (count.map wholeOf).getD 1000000000
    match value with
    | .null => .null
    | .blob bytes =>
        let (skip, take) := cutting bytes.length first many
        .blob ((bytes.drop skip.toNat).take take.toNat)
    | _ =>
        let all := characters (upToNullByte ((textOf value).getD []))
        let (skip, take) := cutting all.length first many
        .text ((all.drop skip.toNat).take take.toNat).flatten

/-! ### Joining -/

def concat (values : List Datum) : Datum := .text (values.filterMap textOf).flatten

def concatWith (separator : Datum) (values : List Datum) : Datum :=
  match textOf separator with
  | some separator => .text (List.intercalate separator (values.filterMap textOf))
  | none => .null

/-! ### Sounds -/

/-- The digit of a letter's sound. Vowels have none. -/
def soundDigit (b : UInt8) : Nat :=
  let codes := [0, 1, 2, 3, 0, 1, 2, 0, 0, 2, 2, 4, 5, 5, 0, 1, 2, 6, 2, 3, 0, 1, 0, 2, 0, 2]
  let letter := foldByte b
  if 97 ≤ letter && letter ≤ 122 then codes.getD (letter.toNat - 97) 0 else 0

/-- The digits of the sounds of letters, where a sound counts once until a vowel comes. -/
def soundDigits (before : Nat) : List UInt8 → List Nat
  | [] => []
  | b :: rest =>
      let digit := soundDigit b
      if 0 < digit then
        if digit = before then soundDigits before rest else digit :: soundDigits digit rest
      else soundDigits 0 rest

def isLetter (b : UInt8) : Bool := 97 ≤ foldByte b && foldByte b ≤ 122

def soundex (value : Datum) : Datum :=
  match (upToNullByte ((textOf value).getD [])).dropWhile fun b => !isLetter b with
  | [] => .ofString "?000"
  | first :: rest =>
      let digits := (soundDigits (soundDigit first) rest).take 3
      let digits := digits ++ List.replicate (3 - digits.length) 0
      .text (upperByte first :: digits.map fun digit => UInt8.ofNat (48 + digit))

end RowSource.Sql.TextFunction
