/-!
# Powers

The two bases that numbers are written in.

* `twoTo`, `tenTo`: powers of two and of ten.
-/

namespace AskTable.Number

def twoTo (n : Nat) : Nat := Nat.pow 2 n

def tenTo (n : Nat) : Nat := Nat.pow 10 n

theorem twoTo_pos (n : Nat) : 0 < twoTo n := Nat.pow_pos (by decide)

end AskTable.Number
