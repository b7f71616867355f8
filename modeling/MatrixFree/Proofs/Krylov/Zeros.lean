import MatrixFree.Proofs.Krylov.Iteration
import MatrixFree.Proofs.Scalar.Zeros

/-!
# Tests of a zero

Every quantity of a method that is about to divide is tested first, and every test tells a zero: as
noise, as vanished, as a direction without curvature, or as a residual that is small enough.
-/

namespace MatrixFree.Krylov

open Binary64

variable {d : Float} (zero : Scalar.same d 0 = true)

include zero

theorem unpack_abs_of_zero : (Scalar.abs d).toModel.unpack = .zero .positive := by
  obtain ⟨s, hd⟩ := same_zero_iff.mp zero
  exact abs_of_zero hd

theorem lt_noise_of_zero : Scalar.lt (Scalar.abs d) Scalar.noise = true := by
  refine decide_eq_true (lt_iff_compare.mpr ?_)
  rw [unpack_abs_of_zero zero]
  decide +kernel

theorem not_noise_lt_of_zero : Scalar.lt Scalar.noise (Scalar.abs d) = false := by
  refine decide_eq_false fun above => ?_
  have above := lt_iff_compare.mp above
  rw [unpack_abs_of_zero zero] at above
  exact absurd above (by decide +kernel)

theorem vanishes_of_zero : BiconjugateGradient.vanishes d = true := by
  refine decide_eq_true (lt_iff_compare.mpr ?_)
  rw [unpack_abs_of_zero zero]
  decide +kernel

/-- A direction without curvature breaks conjugate gradients down. -/
theorem curvatureVerdict_of_zero : ConjugateGradient.curvatureVerdict d = some .breakdown := by
  have finite : Scalar.isFinite d = true := IsZero.isFinite (same_zero_iff.mp zero)
  have flat : Scalar.le d 0 = true := (Bool.and_eq_true_iff.mp zero).1
  have verdict : ConjugateGradient.curvatureVerdict d =
      if !Scalar.isFinite d then some .notFinite
      else if Scalar.le d 0 then some (if Scalar.same d 0 then .breakdown else .indefinite)
      else none := rfl
  rw [verdict, finite, flat, zero]
  rfl

/-- A residual that is zero is small enough. -/
theorem Criteria.check_of_zero {criteria : Criteria Float}
    (absolute : (0.0 : Float) ≤ criteria.absolute) (origin : Float) (i : Nat) :
    criteria.check d origin i ≠ .iterating := by
  have small : Scalar.le d criteria.absolute = true :=
    decide_eq_true (le_of_same_zero zero absolute)
  unfold Criteria.check
  rw [if_pos small]
  split_ifs <;> exact nofun

theorem same_sqrt_of_zero : Scalar.same (Scalar.sqrt d) 0 = true := by
  obtain ⟨s, hd⟩ := same_zero_iff.mp zero
  exact same_zero_iff.mpr ⟨s, sqrt_of_zero hd⟩

end MatrixFree.Krylov
