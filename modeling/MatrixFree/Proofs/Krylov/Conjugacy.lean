import MatrixFree.Proofs.Krylov.Exact

/-!
# Conjugate directions

On a symmetric positive definite operator conjugate gradients end because they run out of room.
Each iteration adds its residual to a space `W` that the search directions span, and without
rounding three things stay true (`Conjugate`): the residual is orthogonal to `W`, the direction
is conjugate to `W`, and the operator takes `W` no further than the residual.  A residual that
is not zero is therefore new, `W` has one dimension for each iteration made, and after at most
`n` of them the residual has to be zero.

Along the way the curvature `p · A p` is positive on every direction, so no iteration breaks
down (`ConjugateGradient.step_follows`), and of the verdicts that are not successes only growth
is left.
-/

namespace MatrixFree.Krylov

open Flat Submodule

variable {σ ε α : Type} [ExactField α] {n : Nat} {L : (Fin n → α) →ₗ[α] (Fin n → α)}

/-- Symmetric, and positive on all vectors but zero. -/
structure PositiveDefinite (L : (Fin n → α) →ₗ[α] (Fin n → α)) : Prop where
  symmetric : ∀ u v, L u ⬝ᵥ v = u ⬝ᵥ L v
  positive : ∀ v, v ≠ 0 → 0 < v ⬝ᵥ L v

/-! ## One step of the recurrence -/

/-- A residual `r` and a search direction `p`, after the directions that span `W`. -/
structure Conjugate (L : (Fin n → α) →ₗ[α] (Fin n → α)) (W : Submodule α (Fin n → α))
    (r p : Fin n → α) : Prop where
  residual : ∀ w ∈ W, r ⬝ᵥ w = 0
  direction : ∀ w ∈ W, p ⬝ᵥ L w = 0
  turned : p - r ∈ W
  image : ∀ w ∈ W, L w ∈ W ⊔ span α {r}

namespace Conjugate

variable {W : Submodule α (Fin n → α)} {r p : Fin n → α}

theorem initial (L : (Fin n → α) →ₗ[α] (Fin n → α)) (r : Fin n → α) : Conjugate L ⊥ r r := by
  constructor
  · rintro w rfl
    exact dotProduct_zero r
  · rintro w rfl
    rw [map_zero, dotProduct_zero]
  · rw [sub_self]
    exact zero_mem _
  · rintro w rfl
    rw [map_zero]
    exact zero_mem _

theorem dot_direction (h : Conjugate L W r p) : r ⬝ᵥ p = r ⬝ᵥ r := by
  have apart := h.residual _ h.turned
  rwa [dotProduct_sub, sub_eq_zero] at apart

theorem direction_ne_zero (h : Conjugate L W r p) (nonzero : r ≠ 0) : p ≠ 0 := by
  rintro rfl
  have square := h.dot_direction
  rw [dotProduct_zero] at square
  exact nonzero (dotProduct_self_eq_zero.mp square.symm)

/-- The residual is new, so the space grows by one dimension. -/
theorem finrank_sup (h : Conjugate L W r p) (nonzero : r ≠ 0) :
    Module.finrank α ↥(W ⊔ span α {r}) = Module.finrank α W + 1 := by
  have apart : Disjoint W (span α {r}) :=
    disjoint_span_singleton.mpr fun mem => dotProduct_self_eq_zero.mp (h.residual r mem)
  have sum := finrank_sup_add_finrank_inf_eq W (span α {r})
  rwa [apart.eq_bot, finrank_bot, add_zero, finrank_span_singleton nonzero] at sum

/-- What the operator makes of a residual and of its direction differs by an image of `W`. -/
theorem direction_dot_image (h : Conjugate L W r p) : p ⬝ᵥ L r = p ⬝ᵥ L p := by
  have apart := h.direction _ h.turned
  rw [map_sub, dotProduct_sub, sub_eq_zero] at apart
  exact apart.symm

variable {c d : α}

/-- The step length `c` makes the next residual orthogonal to the present one as well. -/
theorem next_residual (definite : PositiveDefinite L) (h : Conjugate L W r p)
    (length : c * (p ⬝ᵥ L p) = r ⬝ᵥ r) :
    ∀ w ∈ W ⊔ span α {r}, (r - c • L p) ⬝ᵥ w = 0 := by
  intro w mem
  obtain ⟨u, hu, v, hv, rfl⟩ := mem_sup.mp mem
  obtain ⟨a, rfl⟩ := mem_span_singleton.mp hv
  have old : (r - c • L p) ⬝ᵥ u = 0 := by
    rw [sub_dotProduct, smul_dotProduct, h.residual u hu, definite.symmetric, h.direction u hu,
      smul_zero, sub_zero]
  have new : (r - c • L p) ⬝ᵥ r = 0 := by
    rw [sub_dotProduct, smul_dotProduct, definite.symmetric, h.direction_dot_image, smul_eq_mul,
      length, sub_self]
  rw [dotProduct_add, dotProduct_smul, old, new, smul_zero, add_zero]

/-- The share `d` of the old direction makes the next one conjugate to it as well. -/
theorem next_direction (definite : PositiveDefinite L) (h : Conjugate L W r p)
    (length : c * (p ⬝ᵥ L p) = r ⬝ᵥ r) {r' : Fin n → α} (moved : r' = r - c • L p)
    (share : c * d * (p ⬝ᵥ L p) = r' ⬝ᵥ r') (nonzero : c ≠ 0) :
    ∀ w ∈ W ⊔ span α {r}, (r' + d • p) ⬝ᵥ L w = 0 := by
  have orthogonal : ∀ w ∈ W ⊔ span α {r}, r' ⬝ᵥ w = 0 :=
    moved ▸ h.next_residual definite length
  intro w mem
  obtain ⟨u, hu, v, hv, rfl⟩ := mem_sup.mp mem
  obtain ⟨a, rfl⟩ := mem_span_singleton.mp hv
  have old (u : Fin n → α) (hu : u ∈ W) : (r' + d • p) ⬝ᵥ L u = 0 := by
    rw [add_dotProduct, smul_dotProduct, orthogonal _ (h.image u hu), h.direction u hu, smul_zero,
      add_zero]
  -- The image of the old direction is the difference of two residuals.
  have image : c * (r' ⬝ᵥ L p) = -(r' ⬝ᵥ r') := by
    have difference : c • L p = r - r' := by rw [moved, sub_sub_cancel]
    rw [← smul_eq_mul, ← dotProduct_smul, difference, dotProduct_sub,
      orthogonal r (mem_sup_right (mem_span_singleton_self r)), zero_sub]
  have along : (r' + d • p) ⬝ᵥ L p = 0 := by
    refine (mul_eq_zero.mp ?_).resolve_left nonzero
    rw [add_dotProduct, smul_dotProduct, smul_eq_mul, mul_add, image, ← mul_assoc, share,
      neg_add_cancel]
  have new : (r' + d • p) ⬝ᵥ L r = 0 := by
    have apart := old _ h.turned
    rw [map_sub, dotProduct_sub, along, zero_sub, neg_eq_zero] at apart
    exact apart
  rw [map_add, map_smul, dotProduct_add, dotProduct_smul, old u hu, new, smul_zero, add_zero]

/-- The image of the present direction leads to the next residual and no further. -/
theorem next_image (h : Conjugate L W r p) {r' : Fin n → α} (moved : r' = r - c • L p)
    (nonzero : c ≠ 0) : ∀ w ∈ W ⊔ span α {r}, L w ∈ W ⊔ span α {r} ⊔ span α {r'} := by
  have inner (w : Fin n → α) (hw : w ∈ W) : L w ∈ W ⊔ span α {r} ⊔ span α {r'} :=
    mem_sup_left (h.image w hw)
  have along : L p ∈ W ⊔ span α {r} ⊔ span α {r'} := by
    have difference : L p = c⁻¹ • (r - r') := by
      rw [moved, sub_sub_cancel, smul_smul, inv_mul_cancel₀ nonzero, one_smul]
    rw [difference]
    exact smul_mem _ _ (sub_mem (mem_sup_left (mem_sup_right (mem_span_singleton_self r)))
      (mem_sup_right (mem_span_singleton_self r')))
  have new : L r ∈ W ⊔ span α {r} ⊔ span α {r'} := by
    have sum : L r = L p - L (p - r) := by rw [map_sub, sub_sub_cancel]
    rw [sum]
    exact sub_mem along (inner _ h.turned)
  intro w mem
  obtain ⟨u, hu, v, hv, rfl⟩ := mem_sup.mp mem
  obtain ⟨a, rfl⟩ := mem_span_singleton.mp hv
  rw [map_add, map_smul]
  exact add_mem (inner u hu) (smul_mem _ a new)

/-- One step along the direction. -/
theorem next (definite : PositiveDefinite L) (h : Conjugate L W r p) (nonzero : r ≠ 0) :
    let c := (r ⬝ᵥ r) / (p ⬝ᵥ L p)
    let r' := r - c • L p
    Conjugate L (W ⊔ span α {r}) r' (r' + ((r' ⬝ᵥ r') / (r ⬝ᵥ r)) • p) := by
  intro c r'
  have square : r ⬝ᵥ r ≠ 0 := (dotProduct_self_pos nonzero).ne'
  have curvature : p ⬝ᵥ L p ≠ 0 := (definite.positive p (h.direction_ne_zero nonzero)).ne'
  have length : c * (p ⬝ᵥ L p) = r ⬝ᵥ r := div_mul_cancel₀ _ curvature
  have ahead : c ≠ 0 := div_ne_zero square curvature
  have share : c * ((r' ⬝ᵥ r') / (r ⬝ᵥ r)) * (p ⬝ᵥ L p) = r' ⬝ᵥ r' := by
    rw [mul_right_comm, length, mul_div_cancel₀ _ square]
  refine ⟨h.next_residual definite length, h.next_direction definite length rfl share ahead, ?_,
    h.next_image rfl ahead⟩
  have sum : p = (p - r) + r := (sub_add_cancel p r).symm
  rw [add_sub_cancel_left, sum]
  exact smul_mem _ _ (add_mem (mem_sup_left h.turned)
    (mem_sup_right (mem_span_singleton_self r)))

end Conjugate

/-! ## Runs -/

namespace ConjugateGradient

variable {A : Action σ ε α n} {criteria : Criteria α} {origin : α} {b : Vector α n}

/-- The record is the test's verdict on the residual that is carried, and the directions so far
span a space with one dimension for each iteration. -/
structure Follows (L : (Fin n → α) →ₗ[α] (Fin n → α)) (criteria : Criteria α) (origin : α)
    (it : Iterate (Carried α n) α n) : Prop where
  judged : it.stats.reason = criteria.check it.stats.residual origin it.stats.iterations
  reported : it.stats.residual = norm it.carried.res
  square : it.carried.square = dot it.carried.res it.carried.res
  space : ∃ W : Submodule α (Fin n → α), Module.finrank α W = it.stats.iterations ∧
    Conjugate L W (entries it.carried.res) (entries it.carried.direction)

theorem Follows.initial (L : (Fin n → α) →ₗ[α] (Fin n → α)) (criteria : Criteria α)
    (x r : Vector α n) :
    Follows L criteria (norm r) ((method A criteria).first criteria x r) :=
  ⟨rfl, rfl, rfl, ⊥, finrank_bot α (Fin n → α), .initial L (entries r)⟩

theorem Follows.iterations_le {it : Iterate (Carried α n) α n} (h : Follows L criteria origin it) :
    it.stats.iterations ≤ n := by
  obtain ⟨W, dimension, -⟩ := h.space
  rw [← dimension]
  exact W.finrank_le.trans (Module.finrank_fin_fun α).le

/-- In the whole space there is no room for a residual. -/
theorem Follows.residual_eq_zero {it : Iterate (Carried α n) α n}
    (h : Follows L criteria origin it) (full : it.stats.iterations = n) :
    it.stats.residual = 0 := by
  obtain ⟨W, dimension, conjugate⟩ := h.space
  have whole : W = ⊤ :=
    eq_top_of_finrank_eq (dimension.trans (full.trans (Module.finrank_fin_fun α).symm))
  have square := conjugate.residual (entries it.carried.res) (whole ▸ mem_top)
  rw [h.reported, norm_eq_euclidean, euclidean_eq_zero_iff]
  exact dotProduct_self_eq_zero.mp square

theorem Follows.res_ne_zero {it : Iterate (Carried α n) α n} (h : Follows L criteria origin it)
    (relative : 0 ≤ criteria.relative) (nonneg : 0 ≤ origin)
    (live : it.stats.reason = .iterating) : entries it.carried.res ≠ 0 := by
  have positive := Criteria.pos_of_iterating relative nonneg (h.judged.symm.trans live)
  rw [h.reported, norm_eq_euclidean] at positive
  intro zero
  exact positive.ne' (euclidean_eq_zero_iff.mpr zero)

/-- A verdict is a success or growth: at the limit there is no residual left. -/
theorem Follows.verdict {it : Iterate (Carried α n) α n} (h : Follows L criteria origin it)
    (relative : 0 ≤ criteria.relative) (nonneg : 0 ≤ origin) (enough : n ≤ criteria.limit)
    (ended : it.stats.reason ≠ .iterating) :
    0 < it.stats.reason.code ∨
      it.stats.reason = .growth ∧ criteria.growth * origin ≤ it.stats.residual := by
  by_cases full : it.stats.iterations = n
  · rw [h.judged, h.residual_eq_zero full, Criteria.check_zero relative nonneg]
    exact Or.inl (by decide)
  · have before : ¬criteria.limit ≤ it.stats.iterations := by
      have within := h.iterations_le
      omega
    rw [h.judged] at ended ⊢
    rw [Criteria.check_exact] at ended ⊢
    split_ifs at ended ⊢ with met small grown
    · exact Or.inl (by decide)
    · exact Or.inl (by decide)
    · exact Or.inr ⟨rfl, grown.2⟩
    · exact absurd rfl ended

/-- A positive curvature is no verdict. -/
theorem curvatureVerdict_of_pos {pap : α} (positive : 0 < pap) : curvatureVerdict pap = none := by
  simp only [curvatureVerdict, Scalar.isFinite, Scalar.le, Bool.not_true, Bool.false_eq_true,
    if_false, decide_eq_true_eq, if_neg (not_le.mpr positive)]

/-- No iteration breaks down, and each adds a dimension. -/
theorem step_follows (linear : A.Linear L) (definite : PositiveDefinite L)
    (relative : 0 ≤ criteria.relative) (nonneg : 0 ≤ origin)
    {it it' : Iterate (Carried α n) α n} {t t' : Trace σ α} (h : Follows L criteria origin it)
    (live : it.stats.reason = .iterating) (hstep : step A criteria origin it t = (.ok it', t')) :
    Follows L criteria origin it' := by
  obtain ⟨W, dimension, conjugate⟩ := h.space
  have nonzero := h.res_ne_zero relative nonneg live
  have curvature := definite.positive _ (conjugate.direction_ne_zero nonzero)
  have outcome := iteration A criteria origin it t
  rw [hstep] at outcome
  cases outcome with
  | stopped image verdict =>
      rw [dot_eq_dotProduct, linear.multiply image, curvatureVerdict_of_pos curvature] at verdict
      cases verdict
  | @moved ap _ image verdict =>
      have next := conjugate.next definite nonzero
      rw [← linear.multiply image] at next
      refine ⟨rfl, rfl, rfl, W ⊔ span α {entries it.carried.res}, ?_, ?_⟩
      · rw [conjugate.finrank_sup nonzero, dimension]
        rfl
      · unfold move
        simp only [h.square, entries_addMul, entries_subMul, dot_eq_dotProduct]
        exact next

/-- Where a run ends, the directions of all its iterations are conjugate, and the residual in the
record is the solution's. -/
theorem solve_follows (linear : A.Linear L) (definite : PositiveDefinite L)
    (relative : 0 ≤ criteria.relative) {x : Vector α n} {memory : σ} {stats : Stats α}
    (h : (solve A criteria b x memory).result = .ok stats) :
    ∃ it : Iterate (Carried α n) α n, it.stats = stats ∧
      Follows L criteria (euclidean (residualOf L b x)) it ∧
      stats.residual = euclidean (residualOf L b (solve A criteria b x memory).solution) := by
  obtain ⟨r, t, it, u, hres, hrun, rfl, hreport⟩ := Method.solve_ok h
  have res := linear.residual (congrArg Prod.fst hres)
  rw [← res, ← norm_eq_euclidean]
  have nonneg : 0 ≤ norm r := norm_eq_euclidean r ▸ euclidean_nonneg _
  have first : Follows L criteria (norm r) ((method A criteria).first criteria x r) ∧
      Tracks Carried.res L b ((method A criteria).first criteria x r) :=
    ⟨.initial L criteria x r, .of_stats res rfl fun _ => rfl⟩
  obtain ⟨-, ⟨follows, tracks⟩, -⟩ := advance_ok
    (P := fun _ it _ => Follows L criteria (norm r) it ∧ Tracks Carried.res L b it)
    (fun _ _ _ _ _ h live hstep =>
      ⟨step_follows linear definite relative nonneg h.1 live hstep,
        step_tracks linear h.2 live hstep⟩) first hrun
  have solved : (solve A criteria b x memory).solution = it.solution :=
    congrArg Report.solution hreport
  exact ⟨it, rfl, follows, solved ▸ tracks.reported⟩

/-- **Conjugate gradients end within the dimension.**  Over an exact field, on a symmetric
positive definite operator and with as many iterations allowed as there are equations, every
solve answers a record.  It is one of success, or the residual has grown to the divergence
tolerance; no other failure is possible, and no more iterations than equations are made. -/
theorem solve_definite (linear : A.Linear L) (total : A.Total) (definite : PositiveDefinite L)
    (relative : 0 ≤ criteria.relative) (enough : n ≤ criteria.limit) (b x : Vector α n)
    (memory : σ) :
    ∃ stats, (solve A criteria b x memory).result = .ok stats ∧ stats.iterations ≤ n ∧
      (0 < stats.reason.code ∨ stats.reason = .growth ∧
        criteria.growth * euclidean (residualOf L b x) ≤
          euclidean (residualOf L b (solve A criteria b x memory).solution)) := by
  cases result : (solve A criteria b x memory).result with
  | error e => exact (solve_failsOnly total result).elim
  | ok stats =>
      obtain ⟨_, _, honest⟩ := Method.solve_honest breakdowns_subset (fun _ => rfl)
        (fun _ _ _ _ _ _ => step_sound) result
      obtain ⟨it, rfl, follows, residual⟩ := solve_follows linear definite relative result
      rw [← residual]
      exact ⟨it.stats, rfl, follows.iterations_le,
        follows.verdict relative (euclidean_nonneg _) enough honest.ended.1⟩

/-- Two equations with an operator that couples them. -/
theorem solve_definite_coupled :
    let A : Action Unit Empty ℝ 2 := fun x _ memory =>
      (.ok #v[4 * x.getD 0 0 + x.getD 1 0, x.getD 0 0 + 3 * x.getD 1 0], memory)
    let L : (Fin 2 → ℝ) →ₗ[ℝ] (Fin 2 → ℝ) := !![4, 1; 1, 3].mulVecLin
    let criteria : Criteria ℝ := ⟨1e-10, 1e-50, 1e5, 20⟩
    let b : Vector ℝ 2 := #v[1, 2]
    let x : Vector ℝ 2 := #v[0, 0]
    (A.Linear L ∧ A.Total ∧ PositiveDefinite L ∧ 0 ≤ criteria.relative ∧ 2 ≤ criteria.limit) ∧
      ∃ stats, (solve A criteria b x ()).result = .ok stats ∧ stats.iterations ≤ 2 ∧
        (0 < stats.reason.code ∨ stats.reason = .growth ∧
          criteria.growth * euclidean (residualOf L b x) ≤
            euclidean (residualOf L b (solve A criteria b x ()).solution)) := by
  intro A L criteria b x
  have linear : A.Linear L := by
    rintro x y memory v ⟨⟩
    funext i
    fin_cases i <;> simp [entries, L, Matrix.mulVec, dotProduct, Fin.sum_univ_two]
  have total : A.Total := fun x y memory e failed => e.elim
  have definite : PositiveDefinite L := by
    constructor
    · intro u v
      simp only [L, Matrix.mulVecLin_apply, Matrix.mulVec, dotProduct, Fin.sum_univ_two,
        Matrix.of_apply, Matrix.cons_val_zero, Matrix.cons_val_one]
      ring
    · intro v nonzero
      have square := dotProduct_self_pos nonzero
      simp only [L, Matrix.mulVecLin_apply, Matrix.mulVec, dotProduct, Fin.sum_univ_two,
        Matrix.of_apply, Matrix.cons_val_zero, Matrix.cons_val_one] at square ⊢
      nlinarith [sq_nonneg (v 0 + v 1)]
  have relative : 0 ≤ criteria.relative := by norm_num [criteria]
  have enough : 2 ≤ criteria.limit := by decide
  exact ⟨⟨linear, total, definite, relative, enough⟩,
    solve_definite linear total definite relative enough b x ()⟩

end ConjugateGradient
end MatrixFree.Krylov
