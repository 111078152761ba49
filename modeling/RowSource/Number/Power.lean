/-!
# Powers of two and of ten

The two bases that numbers are written in, under names of their own.
-/

namespace RowSource

abbrev twoTo (n : Nat) : Nat := Nat.pow 2 n

abbrev tenTo (n : Nat) : Nat := Nat.pow 10 n

end RowSource
