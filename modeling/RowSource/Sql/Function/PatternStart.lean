import RowSource.Sql.Affinity
import RowSource.Sql.Function.Pattern

/-!
# Starts of patterns

The texts that fit `abc*` are those from `abc` on and before `abd`. So the start of a pattern, up to the
first character that does not stand for itself, bounds the texts from both sides.
-/

namespace RowSource.Sql.Pattern

structure Start where
  bytes : List UInt8
  isWhole : Bool
  folds : Bool

structure Bounds where
  lower : List UInt8
  upper : List UInt8
  folds : Bool
  deriving DecidableEq

def Style.isWild (style : Style) (character : List UInt8) : Bool :=
  let number := characterNumber character
  number == style.any || number == style.one || (style.hasSets && number == style.special)

def Style.isEscape (style : Style) (character : List UInt8) : Bool :=
  !style.hasSets && style.special != 0 && characterNumber character == style.special

def isBroken (character : List UInt8) : Bool :=
  character.head?.any (128 ≤ ·) &&
    (character.head? == some 255 || characterNumber character == 0xfffd)

/-- The characters at the start of a pattern, as they are written and as they are meant, and what
follows them. The first one may have to be taken as it is. -/
def Style.startOf (style : Style) (literally : Bool) :
    List (List UInt8) → List UInt8 × List UInt8 × List (List UInt8)
  | [] => ([], [], [])
  | character :: rest =>
      let taken : List UInt8 × List UInt8 × List (List UInt8) :=
        let (written, meant, left) := startOf style false rest
        (character ++ written, character ++ meant, left)
      if literally && character.all (· < 128) then taken
      else if style.isWild character || isBroken character then ([], [], character :: rest)
      else if style.isEscape character then
        let (written, meant, left) := startOf style true rest
        (character ++ written, meant, left)
      else taken

def Style.start? (style : Style) (pattern : List UInt8) : Option Start :=
  let (written, meant, rest) := style.startOf false (characterBytes (upToNullByte pattern))
  if meant.isEmpty || written.isEmpty || written.getLast? == some 255 then none
  else
    let isWhole := match rest with
      | [last] => characterNumber last == style.any
      | _ => false
    some ⟨meant, isWhole, style.folds⟩

/-- Bytes with the last one of them increased. The greatest bytes that continue a character are
carried over. -/
def increased (bytes : List UInt8) : List UInt8 :=
  let rec go : List UInt8 → List UInt8
    | [] => []
    | [b] => [b + 1]
    | b :: rest => if b = 0xbf then 0x80 :: go rest else (b + 1) :: rest
  (go bytes.reverse).reverse

namespace Start

def isNumeric (start : Start) : Bool :=
  let bytes := start.bytes
  (numberOfText bytes).isSome || bytes == [45] ||
    (numberOfText (bytes.dropLast ++ (bytes.getLast?.map (· + 1)).toList)).isSome

def bounds (start : Start) : Bounds :=
  if start.folds then
    let upper (b : UInt8) : UInt8 := if 97 ≤ b && b ≤ 122 then b - 32 else b
    ⟨start.bytes.map upper, increased (start.bytes.map foldByte), true⟩
  else ⟨start.bytes, increased start.bytes, false⟩

end Start

def Bounds.hold (bounds : Bounds) (value : Datum) : Bool :=
  let within (order : List UInt8 → List UInt8 → Ordering) (bytes : List UInt8) : Bool :=
    order bounds.lower bytes != .gt && order bytes bounds.upper == .lt
  match value with
  | .text bytes =>
      within (Collation.compareTexts (if bounds.folds then .noCase else .binary)) bytes
  | .blob bytes => within compareBytes bytes
  | _ => false

end RowSource.Sql.Pattern
