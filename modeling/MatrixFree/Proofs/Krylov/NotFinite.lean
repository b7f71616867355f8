import MatrixFree.Proofs.Krylov.TrueResidual
import MatrixFree.Proofs.Scalar.NaN

/-!
# Runs that meet a NaN

A method reads its guess through the operator alone.  Most operators on flat vectors answer a
vector with a NaN by another one (`Action.SpreadsNaN`).  Then the first residual of a guess with
a NaN has a NaN for a norm, the test stops the run before its first iteration, and the guess is
what the run returns (`Method.solve_of_hasNaN`).

Minimal residuals return no NaN without saying so: the record holds the residual of the vector
that is returned, and the test of a NaN is `notFinite` (`MinimalResidual.solve_notFinite`).
-/

namespace MatrixFree.Krylov

open Flat

/-- The test of a NaN, whatever it is compared with. -/
theorem Criteria.check_of_isNaN (criteria : Criteria Float) {res : Float} (nan : res.isNaN = true)
    (origin : Float) (i : Nat) : criteria.check res origin i = .notFinite := by
  have infinite : Scalar.isFinite res = false := Binary64.isFinite_of_isNaN nan
  unfold Criteria.check
  rw [infinite]
  rfl

variable {σ ε S : Type} {n : Nat}

/-- What the operator makes of a vector with a NaN has a NaN too, if it makes one. -/
def Action.SpreadsNaN (A : Action σ ε Float n) : Prop :=
  ∀ (x y v : Vector Float n) memory, HasNaN x → (A x.toArray y memory).1 = .ok v → HasNaN v

section Spreads

variable {A : Action σ ε Float n} {criteria : Criteria Float} {b x : Vector Float n}

theorem Action.SpreadsNaN.isNaN_residual (spreads : A.SpreadsNaN) (nan : HasNaN x)
    {r : Vector Float n} {t : Trace σ Float} (res : (residual A b x t).1 = .ok r) :
    (norm r).isNaN = true := by
  obtain ⟨y, image, rfl⟩ := residual_ok (Prod.ext res rfl)
  exact isNaN_norm ((spreads x _ y t.memory nan image).sub b)

/-- A run from a guess with a NaN returns the guess. Either the operator fails on it, or the record
says that it is not finite. -/
theorem Method.solve_of_hasNaN (M : Method S σ ε Float n n) (spreads : A.SpreadsNaN)
    (nan : HasNaN x) (memory : σ) :
    (M.solve A criteria b x memory).solution = x ∧
      ((∃ e, (M.solve A criteria b x memory).result = .error e ∧
          (A x.toArray (zero n) memory).1 = .error e) ∨
        ∃ stats, (M.solve A criteria b x memory).result = .ok stats ∧
          stats.reason = .notFinite) := by
  unfold Method.solve
  rcases res : residual A b x ⟨memory, #[]⟩ with ⟨e | r, t⟩
  · have failed : (A x.toArray (zero n) memory).1 = .error e := residual_error res
    exact ⟨rfl, Or.inl ⟨e, rfl, failed⟩⟩
  · have unordered : (norm r).isNaN = true := spreads.isNaN_residual nan (congrArg Prod.fst res)
    have verdict : (criteria.stats (norm r) (norm r) 0).reason = .notFinite :=
      criteria.check_of_isNaN unordered _ _
    have stopped : (criteria.stats (norm r) (norm r) 0).reason ≠ .iterating := by
      rw [verdict]
      decide
    dsimp only
    rw [advance_of_verdict _ _ stopped]
    exact ⟨rfl, Or.inr ⟨_, rfl, verdict⟩⟩

end Spreads

/-- Where the operator spreads NaNs, a vector with a NaN is
returned by minimal residuals under one reason only. -/
theorem MinimalResidual.solve_notFinite {A : Action σ (Failure ε) Float n}
    (spreads : A.SpreadsNaN) {criteria : Criteria Float} {restart : Nat} {b x : Vector Float n}
    {memory : σ} {stats : Stats Float}
    (ok : (solve A criteria restart b x memory).result = .ok stats)
    (nan : HasNaN (solve A criteria restart b x memory).solution) : stats.reason = .notFinite := by
  obtain ⟨r, t, last, same⟩ := solve_synced ok
  have unordered : stats.residual.isNaN = true := by
    rw [same]
    exact spreads.isNaN_residual nan last
  obtain ⟨r₀, -, honest⟩ :=
    Method.solve_honest breakdowns_subset (fun _ => rfl) (fun _ _ _ _ _ _ => step_sound) ok
  have verdict := criteria.check_of_isNaN unordered (norm r₀) stats.iterations
  rcases honest.judged with ⟨-, granted⟩ | ⟨undecided, -⟩
  · rw [granted, verdict]
  · rw [verdict] at undecided
    cases undecided

end MatrixFree.Krylov
