import RowSource.Text.GraphemeExtend
import RowSource.Text.Unprintable

/-!
# Quoted text

Text between double quotes, for diagnostics: quotes and backslashes are escaped, four controls have
short escapes, and what cannot be told from its neighbours in print is given by its code point.
-/

namespace RowSource

namespace Quoted

/-- A character by its code point, in lower-case hexadecimal digits without padding. -/
def codePoint (c : Char) : List Char :=
  ['\\', 'u', '\x7b'] ++ Nat.toDigits 16 c.toNat ++ ['\x7d']

def escape (c : Char) : List Char :=
  if c = '"' then ['\\', '"']
  else if c = '\\' then ['\\', '\\']
  else if c = '\t' then ['\\', 't']
  else if c = '\r' then ['\\', 'r']
  else if c = '\n' then ['\\', 'n']
  else if c = '\x00' then ['\\', '0']
  else if GraphemeExtend.holds c || Unprintable.holds c then codePoint c
  else [c]

end Quoted

def quoted (text : String) : String :=
  String.ofList ('"' :: text.toList.flatMap Quoted.escape ++ ['"'])

def quotedList (texts : List String) : String :=
  "[" ++ String.intercalate ", " (texts.map quoted) ++ "]"

end RowSource
