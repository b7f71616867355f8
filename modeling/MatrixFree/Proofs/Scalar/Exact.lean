import Mathlib.Algebra.BigOperators.Fin
import Mathlib.Algebra.Module.LinearMap.Defs
import Mathlib.Algebra.Module.Pi
import Mathlib.Analysis.Real.Sqrt
import MatrixFree.Flat

/-!
# Exact scalars

An ordered field with square roots carries all that the methods compute with, and rounds
nothing.  Over such a field flat vectors are the vectors of linear algebra: sums, multiples and
inner products are read off the entries (`Flat.entries_addMul`, `Flat.dot_eq_sum`), and
`Flat.norm` is the Euclidean norm (`Flat.norm_eq_euclidean`).

The two thresholds below which a scalar is taken for noise, or for zero, may be any elements
of the field.
-/

namespace MatrixFree

/-- An ordered field with square roots, and the two thresholds of the methods. -/
class ExactField (α : Type) extends Field α, LinearOrder α, IsStrictOrderedRing α where
  root : α → α
  root_nonneg (x : α) : 0 ≤ root x
  root_mul_self {x : α} : 0 ≤ x → root x * root x = x
  noise : α
  tiny : α

/-- Everything is finite, and comparisons are those of the order. -/
instance ExactField.toScalar {α : Type} [ExactField α] : Scalar α where
  abs x := |x|
  sqrt := root
  lt x y := decide (x < y)
  le x y := decide (x ≤ y)
  isFinite _ := true
  noise := noise
  tiny := tiny

noncomputable instance : ExactField ℝ where
  root := Real.sqrt
  root_nonneg := Real.sqrt_nonneg
  root_mul_self := Real.mul_self_sqrt
  noise := 1e-14
  tiny := 2⁻¹ ^ 1022

namespace Flat

variable {α : Type} [ExactField α] {n : Nat}

/-- The Euclidean norm. -/
def euclidean (v : Fin n → α) : α := ExactField.root (∑ i, v i ^ 2)

/-- A flat vector as a vector of linear algebra. -/
def entries (x : Vector α n) : Fin n → α := fun i => x[i]

theorem euclidean_mul_self (v : Fin n → α) : euclidean v * euclidean v = ∑ i, v i ^ 2 :=
  ExactField.root_mul_self (Finset.sum_nonneg fun i _ => sq_nonneg (v i))

theorem entries_addMul (x : Vector α n) (c : α) (y : Vector α n) :
    entries (addMul x c y) = entries x + c • entries y := by
  funext i
  simp [entries, addMul]

theorem entries_subMul (x : Vector α n) (c : α) (y : Vector α n) :
    entries (subMul x c y) = entries x - c • entries y := by
  funext i
  simp [entries, subMul]

theorem entries_sub (x y : Vector α n) : entries (sub x y) = entries x - entries y := by
  funext i
  simp [entries, sub]

/-- Without rounding it does not matter that the products are added in order. -/
theorem dot_eq_sum (x y : Vector α n) : dot x y = ∑ i, entries x i * entries y i := by
  have products :
      (Vector.zipWith (· * ·) x y).toList = List.ofFn fun i => entries x i * entries y i := by
    refine List.ext_getElem (by simp) fun i _ _ => ?_
    simp [entries]
  rw [← List.sum_ofFn, ← products, List.sum_eq_foldl, dot, ← Vector.foldl_toList]

theorem norm_eq_euclidean (x : Vector α n) : norm x = euclidean (entries x) := by
  unfold norm euclidean
  rw [dot_eq_sum]
  simp only [sq]
  rfl

end Flat

end MatrixFree
