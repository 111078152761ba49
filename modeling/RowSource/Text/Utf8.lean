/-!
# Reading bytes as text

Bytes that are UTF-8 are read as such. Of the rest, every longest run that a well-formed character
could begin with, or a single byte if there is none, is read as the replacement character.
-/

namespace RowSource

namespace Utf8

/-- The bytes that may follow first bytes of a character, as an inclusive range for the second byte
and the number of bytes after it. A byte that begins no longer character has none. -/
def shape (first : UInt8) : Option (UInt8 × UInt8 × Nat) :=
  if 0xc2 ≤ first && first ≤ 0xdf then some (0x80, 0xbf, 0)
  else if first == 0xe0 then some (0xa0, 0xbf, 1)
  else if first == 0xed then some (0x80, 0x9f, 1)
  else if 0xe1 ≤ first && first ≤ 0xef then some (0x80, 0xbf, 1)
  else if first == 0xf0 then some (0x90, 0xbf, 2)
  else if first == 0xf4 then some (0x80, 0x8f, 2)
  else if 0xf1 ≤ first && first ≤ 0xf3 then some (0x80, 0xbf, 2)
  else none

def isContinuation (b : UInt8) : Bool := 0x80 ≤ b && b ≤ 0xbf

/-- Up to `count` continuation bytes from the front: their value appended to `code`, how many there
were, and the bytes after them. -/
def continuation (code : Nat) : Nat → List UInt8 → Nat × Nat × List UInt8
  | 0, rest => (code, 0, rest)
  | _ + 1, [] => (code, 0, [])
  | count + 1, b :: rest =>
      if isContinuation b then
        let (code, taken, rest) := continuation (code * 64 + (b.toNat - 0x80)) count rest
        (code, taken + 1, rest)
      else
        (code, 0, b :: rest)

theorem continuation_length (code count : Nat) (bytes : List UInt8) :
    (continuation code count bytes).2.2.length ≤ bytes.length := by
  induction bytes generalizing code count with
  | nil => cases count <;> simp [continuation]
  | cons b rest ih =>
      cases count with
      | zero => simp [continuation]
      | succ count =>
          rw [continuation]
          split
          · exact Nat.le_succ_of_le (ih (code * 64 + (b.toNat - 0x80)) count)
          · simp

def leadBits (first second : UInt8) (more : Nat) : Nat :=
  let modulus := if more = 0 then 32 else if more = 1 then 16 else 8
  first.toNat % modulus * 64 + (second.toNat - 0x80)

def decode (bytes : List UInt8) : List Char :=
  match bytes with
  | [] => []
  | first :: rest =>
      if first < 0x80 then
        Char.ofNat first.toNat :: decode rest
      else
        match shape first with
        | none => '\uFFFD' :: decode rest
        | some (low, high, more) =>
            match rest with
            | [] => ['\uFFFD']
            | second :: tail =>
                if low ≤ second && second ≤ high then
                  let after := continuation (leadBits first second more) more tail
                  have := continuation_length (leadBits first second more) more tail
                  (if after.2.1 = more then Char.ofNat after.1 else '\uFFFD') :: decode after.2.2
                else
                  '\uFFFD' :: decode (second :: tail)
  termination_by bytes.length
  decreasing_by
    all_goals simp only [List.length_cons]
    all_goals omega

end Utf8

/-- Bytes as text, with replacement characters where they are not UTF-8. -/
def textOfBytes (bytes : List UInt8) : String := String.ofList (Utf8.decode bytes)

def bytesOfText (text : String) : List UInt8 := text.toUTF8.toList

end RowSource
