import MatrixFree.Proofs.Krylov.TrueResidual
import MatrixFree.Proofs.Krylov.Zeros

/-!
# Runs on the zero operator

An operator that answers zeros, of either sign, whatever it is applied to and whatever it remembers,
leaves the residual of every vector at the right-hand side.  So no record on it tells of
convergence, unless the right-hand side passes the test against itself.

Each method finds out at another place.  Minimal residuals compute the residual of what they
return, which is as large as the first.  For conjugate gradients the first search direction has no
curvature, and for the biconjugate recurrence its image is orthogonal to the shadow residual: both
give up before they move, so that a run is at its first iterate or has broken down
(`Method.not_converged_of_stuck`).
-/

namespace MatrixFree.Krylov

open Flat Binary64

variable {σ ε S : Type} {n : Nat}

/-- Whether a test is passed does not depend on the iteration. -/
theorem Criteria.isConverged_check (criteria : Criteria Float) (res origin : Float) (i j : Nat) :
    (criteria.check res origin i).isConverged = (criteria.check res origin j).isConverged := by
  unfold Criteria.check
  split_ifs <;> rfl

/-- Whatever the operator makes of a vector is zeros. -/
def Action.Annihilates (A : Action σ ε Float n) : Prop :=
  ∀ (x y v : Vector Float n) memory, (A x.toArray y memory).1 = .ok v → AllZero v

section Run

variable {A : Action σ ε Float n} {criteria : Criteria Float} {b x : Vector Float n}

/-- All residuals are the right-hand side, up to the signs of its zeros. -/
theorem Action.Annihilates.residual (annihilates : A.Annihilates) (finite : AllFinite b)
    {r : Vector Float n} {t : Trace σ Float} (res : (residual A b x t).1 = .ok r) :
    AllFinite r ∧ norm r = norm b := by
  obtain ⟨y, image, rfl⟩ := residual_ok (Prod.ext res rfl)
  have zeros : AllZero y := annihilates x _ y t.memory image
  exact ⟨finite.sub_of_allZero zeros, norm_sub_of_allZero finite zeros⟩

theorem Action.Annihilates.multiplyInto (annihilates : A.Annihilates) {y v : Vector Float n}
    {t u : Trace σ Float} (image : t.multiplyInto A x y = (.ok v, u)) : AllZero v :=
  annihilates x y v t.memory (congrArg Prod.fst image)

/-- A method that can only break down at its first iterate does not converge. -/
theorem Method.not_converged_of_stuck {M : Method S σ ε Float n n} (annihilates : A.Annihilates)
    (finite : AllFinite b) (unmet : (criteria.check (norm b) (norm b) 0).isConverged = false)
    (stuck : ∀ r, AllFinite r → ∀ t it t',
      M.step (norm r) (M.first criteria x r) t = (.ok it, t') →
        it.stats.reason ∈ Reason.breakdowns)
    {memory : σ} {stats : Stats Float} (ok : (M.solve A criteria b x memory).result = .ok stats) :
    stats.reason.isConverged = false := by
  obtain ⟨r, t, it, u, res, run, rfl, -⟩ := Method.solve_ok ok
  obtain ⟨bounded, size⟩ := annihilates.residual finite (congrArg Prod.fst res)
  have keep : ∀ (left : Nat) (it : Iterate S Float n) (t : Trace σ Float) it' t',
      it = M.first criteria x r ∨ it.stats.reason ∈ Reason.breakdowns →
      it.stats.reason = .iterating → M.step (norm r) it t = (.ok it', t') →
      it' = M.first criteria x r ∨ it'.stats.reason ∈ Reason.breakdowns := by
    rintro left it t it' t' (rfl | broken) live moved
    · exact Or.inr (stuck r bounded t it' t' moved)
    · exact absurd live (Reason.ne_iterating_of_mem (fun _ => id) broken)
  obtain ⟨-, rfl | broken, -⟩ := advance_ok (P := fun _ it _ => it = M.first criteria x r ∨
    it.stats.reason ∈ Reason.breakdowns) keep (Or.inl rfl) run
  · show (criteria.check (norm r) (norm r) 0).isConverged = false
    rw [size]
    exact unmet
  · exact eq_false_of_ne_true (Reason.of_mem_breakdowns broken).2.2.2

end Run

/-! ## The three methods -/

theorem BiconjugateGradient.blocks_of_allZero (c : Carried Float n) (finite : AllFinite c.shadow)
    {v : Vector Float n} (zeros : AllZero v) : blocks c v = true := by
  unfold blocks
  rw [vanishes_of_zero (same_zero_iff.mpr (isZero_dot finite zeros))]
  rfl

section Methods

variable {criteria : Criteria Float} {b x : Vector Float n}
  (finite : AllFinite b) (unmet : (criteria.check (norm b) (norm b) 0).isConverged = false)

include finite unmet

/-- The record of minimal residuals holds a residual of what is returned, and all residuals are as
large as the first. -/
theorem MinimalResidual.not_converged_of_annihilates {A : Action σ (Failure ε) Float n}
    (annihilates : A.Annihilates) {restart : Nat} {memory : σ} {stats : Stats Float}
    (ok : (solve A criteria restart b x memory).result = .ok stats) :
    stats.reason.isConverged = false := by
  obtain ⟨r, t, last, same⟩ := solve_synced ok
  obtain ⟨r₀, first, honest⟩ :=
    Method.solve_honest breakdowns_subset (fun _ => rfl) (fun _ _ _ _ _ _ => step_sound) ok
  have size := (annihilates.residual finite last).2
  have origin := (annihilates.residual finite first).2
  refine eq_false_of_ne_true fun converged => ?_
  have granted := honest.granted converged
  rw [same, size, origin] at granted
  rw [← granted, criteria.isConverged_check _ _ _ 0, unmet] at converged
  cases converged

variable {A : Action σ ε Float n} (annihilates : A.Annihilates)

include annihilates

theorem ConjugateGradient.not_converged_of_annihilates {memory : σ} {stats : Stats Float}
    (ok : (solve A criteria b x memory).result = .ok stats) :
    stats.reason.isConverged = false := by
  refine Method.not_converged_of_stuck annihilates finite unmet ?_ ok
  intro r bounded t it t' moved
  have outcome := iteration A criteria (norm r) ((method A criteria).first criteria x r) t
  rw [show step A criteria (norm r) _ t = _ from moved] at outcome
  cases outcome with
  | stopped image curvature => exact breakdowns_subset (curvatureVerdict_mem curvature)
  | moved image curvature =>
      have flat := isZero_dot bounded (annihilates.multiplyInto image)
      cases curvature.symm.trans (curvatureVerdict_of_zero (same_zero_iff.mpr flat))

theorem BiconjugateGradient.not_converged_of_annihilates {memory : σ} {stats : Stats Float}
    (ok : (solve A criteria b x memory).result = .ok stats) :
    stats.reason.isConverged = false := by
  refine Method.not_converged_of_stuck annihilates finite unmet ?_ ok
  intro r bounded t it t' moved
  have broke : Reason.shadowBreakdown ∈ Reason.breakdowns := by decide
  have outcome := iteration A criteria (norm r) ((method A criteria).first criteria x r) t
  rw [show step A criteria (norm r) _ t = _ from moved] at outcome
  cases outcome with
  | orthogonal vanished => exact broke
  | blocked product first length => exact broke
  | spent product first length unconverged second vanished => exact broke
  | halved product first length converged =>
      cases length.symm.trans (blocks_of_allZero _ bounded (annihilates.multiplyInto first))
  | stabilized product first length unconverged second square =>
      cases length.symm.trans (blocks_of_allZero _ bounded (annihilates.multiplyInto first))

end Methods

end MatrixFree.Krylov
