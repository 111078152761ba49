import RowSource.Sql.Datum

/-!
# Patterns

Texts that fit the patterns of `LIKE` and `GLOB`. Patterns and texts are read as characters up to the
first null character. A pattern is `LIKE`'s or `GLOB`'s by the characters that stand for any text,
for any character, and for a character to be taken as it is or one of a set.
-/

namespace RowSource.Sql

/-! ### Characters -/

def leadingBits (b : Nat) : Nat :=
  if b < 0xe0 then b - 0xc0
  else if b < 0xf0 then b - 0xe0
  else if b < 0xf8 then b - 0xf0
  else if b < 0xfc then b - 0xf8
  else if b = 0xfd then 1
  else 0

def continues (b : UInt8) : Bool := b &&& 0xc0 == 0x80

/-- The number of a character that is no character's, as that of the replacement character. -/
def permittedNumber (number : Nat) : Nat :=
  let number := number % 4294967296
  if number < 0x80 ∨ (0xd800 ≤ number ∧ number < 0xe000) ∨ number / 2 = 0x7fff then 0xfffd
  else number

/-- The characters in bytes, each as its bytes. A byte that begins no character is one by itself. -/
def characterBytes : List UInt8 → List (List UInt8)
  | [] => []
  | b :: rest =>
      let more := if 0xc0 ≤ b then rest.takeWhile continues else []
      (b :: more) :: characterBytes (rest.drop more.length)
  termination_by bytes => bytes.length
  decreasing_by simp only [List.length_drop, List.length_cons]; omega

def characterNumber : List UInt8 → Nat
  | [] => 0
  | b :: more =>
      if b < 0xc0 then b.toNat
      else
        permittedNumber (more.foldl (fun number c => number * 64 + c.toNat % 64)
          (leadingBits b.toNat))

def upToNullByte (bytes : List UInt8) : List UInt8 := bytes.takeWhile (· ≠ 0)

def characterNumbers (bytes : List UInt8) : List Nat :=
  (characterBytes (upToNullByte bytes)).map characterNumber

/-! ### Fitting -/

namespace Pattern

/-- The characters of a pattern that do not stand for themselves. A number that is zero stands for
no character. -/
structure Style where
  /-- It stands for any text. -/
  any : Nat
  /-- It stands for any character. -/
  one : Nat
  /-- It begins a set of characters, or goes before a character that stands for itself. -/
  special : Nat
  hasSets : Bool
  folds : Bool

def Style.like : Style := ⟨'%'.toNat, '_'.toNat, 0, false, true⟩

def Style.glob : Style := ⟨'*'.toNat, '?'.toNat, '['.toNat, true, false⟩

def Style.likeEscaped (escape : Nat) : Style :=
  { Style.like with
    any := if escape = Style.like.any then 0 else Style.like.any
    one := if escape = Style.like.one then 0 else Style.like.one
    special := escape }

inductive Fit where
  | fits
  | differs
  /-- The text would not fit from any later character on, either. -/
  | neverFits
  deriving DecidableEq

def folded (c : Nat) : Nat := if 65 ≤ c ∧ c ≤ 90 then c + 32 else c

def Style.sameCharacter (style : Style) (c d : Nat) : Bool :=
  c == d || (style.folds && c < 128 && d < 128 && folded c == folded d)

/-- Whether a character is in a set that is written up to a closing bracket, and what follows the
set. The character before may begin a range. -/
def setMember (c : Nat) (found : Bool) (before : Nat) : List Nat → Option (Bool × List Nat)
  | [] => none
  | d :: rest =>
      if d = ']'.toNat then some (found, rest)
      else
        match rest with
        | high :: after =>
            if d = '-'.toNat ∧ high ≠ ']'.toNat ∧ 0 < before then
              setMember c (found || (decide (before ≤ c) && decide (c ≤ high))) 0 after
            else setMember c (found || c == d) d (high :: after)
        | [] => setMember c (found || c == d) d []

def inSet (c : Nat) (pattern : List Nat) : Option (Bool × List Nat) :=
  let (inverted, pattern) := match pattern with
    | d :: rest => if d = '^'.toNat then (true, rest) else (false, pattern)
    | [] => (false, [])
  let (found, pattern) := match pattern with
    | d :: rest => if d = ']'.toNat then (c == d, rest) else (false, pattern)
    | [] => (false, [])
  (setMember c found 0 pattern).map fun (found, rest) => (found != inverted, rest)

def search (wanted : Nat → Bool) (test : List Nat → Fit) : List Nat → Fit
  | [] => .neverFits
  | c :: rest =>
      if wanted c then
        match test rest with
        | .differs => search wanted test rest
        | fit => fit
      else search wanted test rest

def searchPlace (test : List Nat → Fit) : List Nat → Fit
  | [] => .neverFits
  | c :: rest =>
      match test (c :: rest) with
      | .differs => searchPlace test rest
      | fit => fit

/-- What is left of a pattern after the characters that stand for any text, and of the text after as
many characters as are asked for among them. -/
def Style.skipped (style : Style) : List Nat → List Nat → Option (List Nat × List Nat)
  | [], text => some ([], text)
  | c :: pattern, text =>
      if c = style.any then style.skipped pattern text
      else if c = style.one ∧ style.one ≠ 0 then
        match text with
        | _ :: rest => style.skipped pattern rest
        | [] => none
      else some (c :: pattern, text)

/-- How a text and a pattern go together. Every step takes a character of the pattern, so its length
is enough fuel. -/
def Style.fit (style : Style) : Nat → List Nat → List Nat → Fit
  | 0, _, text => if text.isEmpty then .fits else .differs
  | _ + 1, [], text => if text.isEmpty then .fits else .differs
  | fuel + 1, c :: pattern, text =>
      if c = style.any then
        match style.skipped pattern text with
        | none => .neverFits
        | some ([], _) => .fits
        | some (d :: rest, text) =>
            if d = style.special ∧ style.hasSets then
              searchPlace (style.fit fuel (d :: rest)) text
            else
              match if d = style.special then rest else d :: rest with
              | [] => .neverFits
              | e :: rest => search (style.sameCharacter e) (style.fit fuel rest) text
      else if c = style.special ∧ style.hasSets then
        match text with
        | [] => .differs
        | d :: text =>
            match inSet d pattern with
            | some (true, pattern) => style.fit fuel pattern text
            | _ => .differs
      else
        let isEscape := c = style.special
        match if isEscape then pattern else c :: pattern, text with
        | e :: pattern, d :: text =>
            if style.sameCharacter e d ∨ (e = style.one ∧ ¬ isEscape) then
              style.fit fuel pattern text
            else .differs
        | _, _ => .differs

def Style.matches (style : Style) (pattern text : List UInt8) : Bool :=
  let pattern := characterNumbers pattern
  style.fit (pattern.length + 1) pattern (characterNumbers text) == .fits

def lengthLimit : Nat := 50000

end Pattern

end RowSource.Sql
