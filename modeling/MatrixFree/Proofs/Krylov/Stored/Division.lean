import MatrixFree.Operators.Flat
import MatrixFree.Proofs.Krylov.NotFinite
import MatrixFree.Proofs.Krylov.Stored.Runs
import MatrixFree.Proofs.Krylov.Zeros

/-!
# No division by zero

In binary64 the tests of the methods let no zero through to a division (`divides_of_proper`).  Most
of them compare a magnitude with a threshold.  A residual that is zero meets the absolute tolerance,
as long as that is not negative.  A negligible vector is told by comparison with the image of which
it is left, and that comparison is false where the image has a NaN; but then what is left has a NaN
as well, and its norm is no zero (`hasNaN_orthogonalizeTwice`).

So a solve is the same whatever becomes of a division by zero (`solve_of_proper`), and in particular
where such a division ends the run (`trapping`).
-/

namespace MatrixFree.Krylov

open Flat Binary64

/-! ## What is left of a vector with a NaN -/

namespace MinimalResidual

variable {n : Nat}

theorem hasNaN_orthogonalize (basis : List (Vector Float n)) {w : Vector Float n}
    (nan : HasNaN w) : HasNaN (orthogonalize basis w).2 := by
  induction basis generalizing w with
  | nil => exact nan
  | cons v basis ih => exact ih (nan.subMul _ v)

theorem hasNaN_orthogonalizeTwice (basis : List (Vector Float n)) {w : Vector Float n}
    (nan : HasNaN w) : HasNaN (orthogonalizeTwice basis w).2 :=
  hasNaN_orthogonalize basis (hasNaN_orthogonalize basis nan)

end MinimalResidual

open Krylov.MinimalResidual (orthogonalizeTwice) in
/-- A vector of norm zero is negligible, whatever it is left of. -/
theorem negligible_of_zero {n : Nat} (basis : List (Vector Float n)) (w : Vector Float n)
    (zero : Scalar.same (norm (orthogonalizeTwice basis w).2) 0 = true) :
    Scalar.le (Scalar.abs (norm (orthogonalizeTwice basis w).2)) (Scalar.noise * norm w) =
      true := by
  have numbers : ¬HasNaN w := by
    intro nan
    have left := unpack_of_isNaN
      (isNaN_norm (MinimalResidual.hasNaN_orthogonalizeTwice basis nan))
    obtain ⟨s, hd⟩ := same_zero_iff.mp zero
    rw [hd] at left
    cases left
  have bound : (0.0 : Float) ≤ Scalar.noise * norm w :=
    zero_le_mul (by decide +kernel) (by decide +kernel) (zero_le_norm numbers)
  have magnitude : Scalar.same (Scalar.abs (norm (orthogonalizeTwice basis w).2)) 0 = true :=
    same_zero_iff.mpr ⟨_, unpack_abs_of_zero zero⟩
  exact decide_eq_true (le_of_same_zero magnitude bound)

/-! ## Divisions -/

namespace Stored

/-- A division by every number but zero.  What it makes of a zero is left open. -/
def Proper (divide : Float → Float → Except Fault Float) : Prop :=
  ∀ d, Scalar.same d 0 = false → Divisor divide d

/-- The division that ends a run with `fault` when the divisor is zero. -/
def trapping (fault : Fault) (a d : Float) : Except Fault Float :=
  if Scalar.same d 0 then .error fault else .ok (a / d)

theorem proper_trapping (fault : Fault) : Proper (trapping fault) := by
  intro d other a
  unfold trapping
  rw [other, if_neg Bool.false_ne_true]

theorem Proper.divisor {divide : Float → Float → Except Fault Float} (proper : Proper divide)
    {d : Float} (other : Scalar.same d 0 ≠ true) : Divisor divide d :=
  proper d (eq_false_of_ne_true other)

theorem divides_of_proper {divide : Float → Float → Except Fault Float} (proper : Proper divide)
    {criteria : Criteria Float} (absolute : (0.0 : Float) ≤ criteria.absolute) :
    Divides divide criteria where
  radius _ large := proper.divisor fun zero => by
    rw [lt_noise_of_zero zero] at large
    cases large
  pivot _ large := proper.divisor fun zero => by
    rw [not_noise_lt_of_zero zero] at large
    cases large
  scale basis w growing := proper.divisor fun zero => by
    rw [negligible_of_zero basis w zero] at growing
    cases growing
  residual _ origin i live := proper.divisor fun zero =>
    Criteria.check_of_zero zero absolute origin i live
  square _ origin i live := proper.divisor fun zero =>
    Criteria.check_of_zero (same_sqrt_of_zero zero) absolute origin i live
  curvature _ positive := proper.divisor fun zero => by
    cases (curvatureVerdict_of_zero zero).symm.trans positive
  product _ large := proper.divisor fun zero => by
    rw [vanishes_of_zero zero] at large
    cases large

/-- **No solver divides by zero.**  On storage every quotient is left to `divide`.  Let that divide
by the numbers that are not zero, and do whatever it does to the others: for any operator, which may
remember, fail, and answer NaNs and infinities, and for all criteria with an absolute tolerance that
is not negative, each method returns the record, the solution, the history and the memory that it
returns with the division of binary64.  With a division that faults at zero this says that no
divisor is zero. -/
theorem solve_of_proper {σ ε : Type} {n m : Nat} {divide : Float → Float → Except Fault Float}
    (proper : Proper divide) (A : Action σ (Failure ε) Float n) {criteria : Criteria Float}
    (absolute : (0.0 : Float) ≤ criteria.absolute) {restart : Nat} (positive : 1 ≤ restart)
    (b : Vector Float n) (x : Vector Float m) (memory : σ) :
    MinimalResidual.solve divide (onArrays A) criteria restart b.toArray x.toArray memory =
        ofReport (Krylov.MinimalResidual.solve A criteria restart b x memory) ∧
      ConjugateGradient.solve divide (onArrays A) criteria b.toArray x.toArray memory =
        ofReport (Krylov.ConjugateGradient.solve A criteria b x memory) ∧
      BiconjugateGradient.solve divide (onArrays A) criteria b.toArray x.toArray memory =
        ofReport (Krylov.BiconjugateGradient.solve A criteria b x memory) := by
  have divides := divides_of_proper proper absolute
  have implements := implements_onArrays A
  exact ⟨MinimalResidual.solve_eq divides implements positive b x memory,
    ConjugateGradient.solve_eq divides implements b x memory,
    BiconjugateGradient.solve_eq divides implements b x memory⟩

/-- A singular operator: one direction has no image at all.  Each method gives up where the next
division would be by zero, although such a division would end the run. -/
theorem solve_of_proper_singular :
    let A := Operators.Flat.action (.always (.rule (.dense #[[1.0, 0.0], [0.0, 0.0]]))) 2
    let criteria : Criteria Float := ⟨1e-12, 0.0, 1e5, 10⟩
    let divide := trapping .capacityOverflow
    let b : Vector Float 2 := #v[0.0, 1.0]
    let x : Vector Float 2 := #v[0.0, 0.0]
    let minimal := Krylov.MinimalResidual.solve A criteria 2 b x 0
    let conjugate := Krylov.ConjugateGradient.solve A criteria b x 0
    let biconjugate := Krylov.BiconjugateGradient.solve A criteria b x 0
    (Proper divide ∧ divide 1.0 0.0 = .error .capacityOverflow ∧ (0.0 : Float) ≤ criteria.absolute ∧
        1 ≤ 2) ∧
      (MinimalResidual.solve divide (onArrays A) criteria 2 b.toArray x.toArray 0 =
          ofReport minimal ∧
        ConjugateGradient.solve divide (onArrays A) criteria b.toArray x.toArray 0 =
          ofReport conjugate ∧
        BiconjugateGradient.solve divide (onArrays A) criteria b.toArray x.toArray 0 =
          ofReport biconjugate) ∧
      minimal.result.toOption.map Stats.reason = some .breakdown ∧
      conjugate.result.toOption.map Stats.reason = some .breakdown ∧
      biconjugate.result.toOption.map Stats.reason = some .shadowBreakdown := by
  intro A criteria divide b x minimal conjugate biconjugate
  have proper : Proper divide := proper_trapping _
  have traps : divide 1.0 0.0 = .error .capacityOverflow := if_pos (by decide +kernel)
  have absolute : (0.0 : Float) ≤ criteria.absolute := by decide +kernel
  refine ⟨⟨proper, traps, absolute, by decide⟩, ?_, ?_⟩
  · exact solve_of_proper proper A absolute (by decide) b x 0
  · decide +kernel

end Stored

end MatrixFree.Krylov
