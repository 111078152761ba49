/-!
# Letter case of ASCII

Names are compared without regard to the case of the letters A to Z; every other character stands
for itself.
-/

namespace RowSource

def foldCase (name : String) : String := String.ofList (name.toList.map Char.toLower)

def sameName (left right : String) : Bool := foldCase left == foldCase right

example : foldCase "CoUnTeR" = "counter" := by decide +kernel

example : sameName "É" "é" = false := by decide +kernel

end RowSource
