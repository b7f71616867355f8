import MatrixFree.Proofs.Krylov.Cycles

/-!
# The estimate of minimal residuals

A run goes from cycle to cycle, and each cycle starts from the residual of the iterate beside it.
So the invariant of a run is that its cycle is framed by the residual of its iterate
(`step_framed`), and at every iteration the estimate is the residual of the vector that the cycle
would answer there (`estimate_exact`).

Two guards can stand in the way.  A pivot in the noise is no pivot, and then nothing is said.
A cycle that stops growing needs no condition: what it has grown to is exact, and it grows no more.
-/

namespace MatrixFree.Krylov.MinimalResidual

open Flat ExactField

variable {σ ε α : Type} [ExactField α] {n : Nat} {L : (Fin n → α) →ₗ[α] (Fin n → α)}
  {A : Action σ (Failure ε) α n} {criteria : Criteria α} {restart : Nat} {b : Vector α n}
  {origin : α}

section Grow

variable {c : Cycle α n} {w : Vector α n} (image : entries w = L (entries (divBy c.next c.scale)))

include image

/-- A cycle without a next vector does not grow. -/
theorem image_eq_zero (zero : c.scale = 0) : entries w = 0 := by
  rw [image, entries_divBy, zero, inv_zero, zero_smul, map_zero]

omit image in
theorem scale_ne_zero_of_growing (threshold : 0 ≤ (noise : α)) {v : Vector α n}
    (growing : (c.grow v w).exhausted = false) : (c.grow v w).cycle.scale ≠ 0 := by
  intro zero
  have small : |(c.grow v w).cycle.scale| ≤ noise * norm w := by
    rw [zero, abs_zero, norm_eq_euclidean]
    exact mul_nonneg threshold (euclidean_nonneg _)
  exact absurd growing (ne_false_of_eq_true (decide_eq_true small))

theorem framed_grow {e : Fin n → α} (h : c.Framed L e) (threshold : 0 ≤ (noise : α))
    (alive : (c.grow (divBy c.next c.scale) w).cycle.scale ≠ 0 ∨
      Pivotal (c.grow (divBy c.next c.scale) w).cycle.problem.rows) :
    (c.grow (divBy c.next c.scale) w).cycle.Framed L e := by
  have nonzero : c.scale ≠ 0 := by
    intro zero
    have blank := image_eq_zero image zero
    rcases alive with alive | pivots
    · exact alive (scale_grow_zero blank c _)
    · exact not_pivotal_grow_zero blank c _ threshold pivots
  obtain ⟨a, col, extended⟩ := c.extends_grow w
  exact h.grow nonzero threshold extended image

end Grow

theorem step_framed (linear : A.Linear L) (threshold : 0 ≤ (noise : α))
    {it it' : Iterate (Carried α n) α n} {t t' : Trace σ α}
    (h : it.carried.cycle.Framed L (residualOf L b it.solution))
    (hstep : step A criteria restart b origin it t = (.ok it', t')) :
    it'.carried.cycle.Framed L (residualOf L b it'.solution) := by
  have outcome := iteration A criteria restart b origin it t
  rw [hstep] at outcome
  cases outcome with
  | grown room image more =>
      have growing := growing_of_not_closes more
      exact framed_grow (linear.multiply image) h threshold
        (Or.inl (scale_ne_zero_of_growing threshold growing))
  | finished room image closed res =>
      rw [← linear.residual (congrArg Prod.fst res)]
      exact .start L _

/-- **The estimate of minimal residuals is the residual.**  Over an exact field, at every iteration
of a run on a linear operator, the estimate does not increase.  Unless a pivot is taken for noise,
the basis is orthonormal, the operator acts on it by the columns of the problem before their
rotation, and the estimate is the residual of the vector that the cycle would answer at once, which
is the least of all combinations of the basis. -/
theorem estimate_exact (linear : A.Linear L) (threshold : 0 ≤ (noise : α))
    (criteria : Criteria α) (restart : Nat) (b x : Vector α n) (memory : σ) :
    ∃ passed, (method A criteria restart b).Runs A criteria b x memory passed
        (solve A criteria restart b x memory) ∧
      ∀ it ∈ passed, ∀ w, entries w = L (entries it.carried.basisVector) →
        let before := it.carried.cycle
        let after := (before.grow it.carried.basisVector w).cycle
        after.problem.residual ≤ before.problem.residual ∧
          (Pivotal after.problem.rows → after.Exact L b it.solution) := by
  obtain ⟨passed, runs, -⟩ := solve_runs A criteria restart b x memory
  have framed := runs.forall_passed
    (P := fun it => it.carried.cycle.Framed L (residualOf L b it.solution))
    (fun r t res => linear.residual (congrArg Prod.fst res) ▸ .start L r)
    (fun _ _ _ _ _ h _ => step_framed linear threshold h)
  refine ⟨passed, runs, fun it mem w image => ⟨?_, fun pivots => ?_⟩⟩
  · exact Triangular.residual_push_le ..
  · exact (framed_grow image (framed it mem).1 threshold (Or.inr pivots)).exact threshold pivots

/-- Two equations in real numbers, whose first iteration meets no threshold. -/
theorem estimate_exact_coupled :
    let A : Action Unit (Failure Empty) ℝ 2 := fun x _ memory =>
      (.ok #v[4 * x.getD 0 0 + x.getD 1 0, 3 * x.getD 0 0 + 3 * x.getD 1 0], memory)
    let L : (Fin 2 → ℝ) →ₗ[ℝ] (Fin 2 → ℝ) := !![4, 1; 3, 3].mulVecLin
    let criteria : Criteria ℝ := ⟨1e-5, 1e-50, 1e5, 20⟩
    let b : Vector ℝ 2 := #v[1, 0]
    let x : Vector ℝ 2 := #v[0, 0]
    A.Linear L ∧ 0 ≤ (noise : ℝ) ∧
      ∃ passed, (method A criteria 30 b).Runs A criteria b x () passed
          (solve A criteria 30 b x ()) ∧
        ∃ it ∈ passed, ∃ w, entries w = L (entries it.carried.basisVector) ∧
          (it.carried.cycle.grow it.carried.basisVector w).cycle.Exact L b it.solution := by
  intro A L criteria b x
  have linear : A.Linear L := by
    rintro x y memory v ⟨⟩
    funext i
    fin_cases i <;> simp [entries, L, Matrix.mulVec, dotProduct, Fin.sum_univ_two]
  have threshold : 0 ≤ (noise : ℝ) := by norm_num [noise]
  obtain ⟨passed, runs, exact⟩ := estimate_exact linear threshold criteria 30 b x ()
  obtain ⟨r, t, res⟩ : ∃ r t, residual A b x ⟨(), #[]⟩ = (.ok r, t) := ⟨_, _, rfl⟩
  have start : entries r = ![1, 0] := by
    rw [linear.residual (congrArg Prod.fst res)]
    funext i
    fin_cases i <;> simp [residualOf, entries, b, x, L, dotProduct]
  have one : norm r = 1 := by
    rw [norm_eq_euclidean, start]
    exact euclidean_eq zero_le_one (by simp [dotProduct])
  have live : ((method A criteria 30 b).first criteria x r).stats.reason = .iterating := by
    change criteria.check (norm r) (norm r) 0 = .iterating
    rw [one, Criteria.check_exact]
    norm_num [criteria]
  have mem := runs.first_mem res live
  have bounded (v : Fin 2 → ℝ) : 1 * euclidean v ≤ euclidean (L v) := by
    rw [one_mul, le_euclidean_iff (euclidean_nonneg v), euclidean_square]
    simp only [L, Matrix.mulVecLin_apply, Matrix.mulVec, dotProduct, Fin.sum_univ_two,
      Matrix.of_apply, Matrix.cons_val_zero, Matrix.cons_val_one]
    nlinarith [sq_nonneg (24 * v 0 + 13 * v 1), sq_nonneg (v 1)]
  have framed : (Cycle.start r (norm r)).Framed L (entries r) := .start L r
  have alive : (Cycle.start r (norm r)).scale ≠ 0 := by
    change norm r ≠ 0
    rw [one]
    exact one_ne_zero
  have above : (noise : ℝ) < 1 := by norm_num [noise]
  -- The operator gives the basis vector, which is the first axis, the image `(4, 3)`.
  have image : entries (#v[4, 3] : Vector ℝ 2) = L (entries (divBy r (norm r))) := by
    rw [entries_divBy, one, inv_one, one_smul, start]
    funext i
    fin_cases i <;> simp [entries, L, Matrix.mulVec, dotProduct]
  obtain ⟨a, col, extended⟩ := (Cycle.start r (norm r)).extends_grow #v[4, 3]
  have pivots := framed.pivotal_grow alive threshold extended image (List.forall_mem_nil _) above
    bounded
  exact ⟨linear, threshold, passed, runs, _, mem, #v[4, 3], image, (exact _ mem _ image).2 pivots⟩

end MatrixFree.Krylov.MinimalResidual
