/-!
# Powers and words

Counts and positions are 64-bit words, and the text of a number is computed with powers of two and of
ten. The functions here name these numbers, so that every module means the same ones.
-/

namespace MatrixFree

/-- `2 ^ k`. -/
def twoPow (k : Nat) : Nat := 1 <<< k

/-- `10 ^ k`. -/
def tenPow (k : Nat) : Nat := Nat.pow 10 k

/-- The number of 64-bit words. -/
def wordCount : Nat := 0x10000000000000000

end MatrixFree
