import MatrixFree.Proofs.Krylov.CarriedResidual
import MatrixFree.Proofs.Krylov.Failures
import MatrixFree.Proofs.Scalar.Euclidean

/-!
# Tests and operators over exact scalars

Over an exact field nothing is infinite, so a test answers by the order alone
(`Criteria.check_exact`).  What the proofs about exact runs need of it is short: a residual of
zero has succeeded, and so an iterate without a verdict still has something to do.

An operator that is linear, and total besides, is as good as a matrix.
-/

namespace MatrixFree.Krylov

open Flat

variable {σ ε α : Type} [ExactField α] {n : Nat}

/-- The operator answers on every vector of the system's length. -/
def Action.Total (A : Action σ ε α n) : Prop := A.FailsOnly fun _ => False

theorem Action.Linear.multiply {A : Action σ ε α n} {L : (Fin n → α) →ₗ[α] (Fin n → α)}
    (linear : A.Linear L) {t u : Trace σ α} {x v : Vector α n}
    (image : t.multiply A x = (.ok v, u)) : entries v = L (entries x) :=
  linear.multiplyInto image

namespace Criteria

variable {criteria : Criteria α} {res origin : α} {i : Nat}

/-- The tests in their order. -/
theorem check_exact (criteria : Criteria α) (res origin : α) (i : Nat) :
    criteria.check res origin i =
      if res ≤ criteria.relative * origin then .relative
      else if res ≤ criteria.absolute then .absolute
      else if 0 < origin ∧ criteria.growth * origin ≤ res then .growth
      else if criteria.limit ≤ i then .limit
      else .iterating := by
  simp only [check, Scalar.isFinite, Scalar.le, Scalar.lt, Bool.not_true, Bool.false_eq_true,
    if_false, decide_eq_true_eq, Bool.and_eq_true]

theorem check_zero (relative : 0 ≤ criteria.relative) (nonneg : 0 ≤ origin) (i : Nat) :
    criteria.check 0 origin i = .relative := by
  rw [check_exact, if_pos (mul_nonneg relative nonneg)]

/-- An iterate without a verdict has something left to do. -/
theorem pos_of_iterating (relative : 0 ≤ criteria.relative) (nonneg : 0 ≤ origin)
    (live : criteria.check res origin i = .iterating) : 0 < res := by
  by_contra done
  have met : res ≤ criteria.relative * origin :=
    (not_lt.mp done).trans (mul_nonneg relative nonneg)
  rw [check_exact, if_pos met] at live
  cases live

end Criteria

end MatrixFree.Krylov
