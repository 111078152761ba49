import RowSource.Number.Rational
import RowSource.Sql.Datum
import RowSource.Text.AsciiCase

/-!
# Collations

The orders in which texts are compared: by their bytes, by their bytes up to ASCII case, and by their
bytes without the spaces at their ends. Values of all kinds are in one order: nothing, then numbers,
then texts, then blobs.
-/

namespace RowSource.Sql

inductive Collation where
  | binary | noCase | trimmed
  deriving DecidableEq, Inhabited

def compareLists {α : Type} (order : α → α → Ordering) : List α → List α → Ordering
  | [], [] => .eq
  | [], _ :: _ => .lt
  | _ :: _, [] => .gt
  | a :: as, b :: bs => (order a b).then (compareLists order as bs)

def compareBytes : List UInt8 → List UInt8 → Ordering :=
  compareLists fun a b => compare a.toNat b.toNat

/-- A byte, where a capital letter of ASCII counts as a small one. -/
def foldByte (b : UInt8) : UInt8 := if 65 ≤ b && b ≤ 90 then b + 32 else b

namespace Collation

def name : Collation → String
  | binary => "BINARY"
  | noCase => "NOCASE"
  | trimmed => "RTRIM"

def ofName? (name : String) : Option Collation :=
  [binary, noCase, trimmed].find? fun collation => sameName collation.name name

/-- The order up to ASCII case of what two texts have in common in length. A null byte ends it. -/
def compareFolded : List UInt8 → List UInt8 → Ordering
  | a :: as, b :: bs =>
      match compare (foldByte a).toNat (foldByte b).toNat with
      | .eq => if a = 0 then .eq else compareFolded as bs
      | order => order
  | _, _ => .eq

def withoutEndingSpaces (bytes : List UInt8) : List UInt8 :=
  (bytes.reverse.dropWhile (· = 32)).reverse

def compareTexts (collation : Collation) (a b : List UInt8) : Ordering :=
  match collation with
  | binary => compareBytes a b
  | noCase => (compareFolded a b).then (compare a.length b.length)
  | trimmed => compareBytes (withoutEndingSpaces a) (withoutEndingSpaces b)

end Collation

/-- The order of two values. The collation orders texts. -/
def compareValues (collation : Collation) : Datum → Datum → Ordering
  | .integer i, .integer j => compare i.toInt j.toInt
  | .integer i, .real y => (y.compareInteger i.toInt).swap
  | .real x, .integer j => x.compareInteger j.toInt
  | .real x, .real y => x.compareValue y
  | .text s, .text t => collation.compareTexts s t
  | .blob a, .blob b => compareBytes a b
  | a, b => compare a.kindRank b.kindRank

end RowSource.Sql
