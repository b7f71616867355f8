/-!
# Scalars of the solvers

The solvers are written over any type that carries the operations of `Scalar`. They run on binary64
(`Float`), and the same definitions can be read over an exact ordered field with square roots, where
statements about orthogonality and residuals hold without rounding.

Comparisons answer `Bool`, because in binary64 they are tests and not an order: every comparison with
a NaN is false, so `lt x y` and `le y x` may both fail.
-/

namespace MatrixFree

/-- The arithmetic, the tests and the two thresholds that a Krylov method uses. -/
class Scalar (α : Type) extends Add α, Sub α, Mul α, Div α, Neg α, Zero α, One α where
  abs : α → α
  sqrt : α → α
  lt : α → α → Bool
  le : α → α → Bool
  /-- False for NaN and for the infinities. -/
  isFinite : α → Bool
  /-- Below this share of its reference a computed quantity is taken for rounding noise. -/
  noise : α
  /-- Below this magnitude a divisor is taken for zero. -/
  tiny : α

namespace Scalar

variable {α : Type} [Scalar α]

/-- Neither side is below the other; `0` and `-0` are the same number, and NaN is no number. -/
def same (x y : α) : Bool := le x y && le y x

end Scalar

/-- The least positive normal binary64 number, `2 ^ -1022`. -/
def leastNormal : Float := Float.ofBits 0x0010000000000000

instance : Scalar Float where
  zero := 0.0
  one := 1.0
  abs := Float.abs
  sqrt := Float.sqrt
  lt x y := x < y
  le x y := x ≤ y
  isFinite := Float.isFinite
  noise := 1e-14
  tiny := leastNormal

end MatrixFree
