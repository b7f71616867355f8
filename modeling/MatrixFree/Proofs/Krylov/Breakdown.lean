import MatrixFree.Proofs.Krylov.Estimate

/-!
# When minimal residuals break down

A breakdown is meant to tell that the operator is singular.  Three guards decide it.  Whether a
cycle has stopped growing is measured against the image of its last vector, but rotations and
pivots are measured against the fixed threshold `noise`, and so a breakdown tells the scale of
the operator instead.

An operator that stretches every vector by more than the threshold has all its pivots above it, and
a cycle that stops growing has a residual small enough to converge (`residual_le_of_exhausted`).  An
operator that stretches no vector by more than the threshold has all its pivots below it: the
unknowns stay zero, and the run ends where it began (`step_stuck`), however regular the operator is.
-/

namespace MatrixFree.Krylov.MinimalResidual

open Flat ExactField

variable {σ ε α : Type} [ExactField α] {n : Nat} {L : (Fin n → α) →ₗ[α] (Fin n → α)}
  {A : Action σ (Failure ε) α n} {criteria : Criteria α} {restart : Nat} {b x : Vector α n}
  {origin : α} {c g : Cycle α n} {e : Fin n → α} {w : Vector α n}

/-- A solve on a total operator answers a record, if there is room for the basis. -/
theorem exists_record (total : A.Total) (room : Storage.HasRoom (restart + 1) Storage.vectorBytes)
    (criteria : Criteria α) (b x : Vector α n) (memory : σ) :
    ∃ stats, (solve A criteria restart b x memory).result = .ok stats := by
  cases result : (solve A criteria restart b x memory).result with
  | ok stats => exact ⟨stats, rfl⟩
  | error e =>
      exact ((solve_leaves total.leaves total.leaves (fun full => absurd room full) criteria b x
        trivial).2 e result).elim

theorem Cycle.Exact.residual_le (h : c.Exact L b x) :
    c.problem.residual ≤ euclidean (residualOf L b x) := by
  have guess := h.least (List.replicate c.basis.length 0) List.length_replicate
  rw [combine_replicate_zero, add_zero] at guess
  exact guess

theorem check_ne_breakdown (criteria : Criteria α) (res origin : α) (i : Nat) :
    criteria.check res origin i ≠ .breakdown :=
  fun broken => (Reason.of_mem_answers (broken ▸ criteria.check_mem res origin i)).2.2 (by decide)

/-! ## Operators above the threshold -/

/-- The operator stretches every vector by a factor from `least` to `most`. -/
structure Stretches (L : (Fin n → α) →ₗ[α] (Fin n → α)) (least most : α) : Prop where
  lower : ∀ v, least * euclidean v ≤ euclidean (L v)
  upper : ∀ v, euclidean (L v) ≤ most * euclidean v

section Above

variable {least most : α} (stretches : Stretches L least most) (threshold : 0 ≤ (noise : α))
  (above : noise < least)

include stretches threshold above

/-- A cycle ends by itself only under a residual that meets the relative test. -/
theorem residual_le_of_exhausted (conditioned : noise * most ≤ criteria.relative * least)
    (h : c.Framed L (residualOf L b x)) (alive : c.scale ≠ 0) (pivots : Pivotal c.problem.rows)
    (image : entries w = L (entries (divBy c.next c.scale)))
    (exhausted : (c.grow (divBy c.next c.scale) w).exhausted = true) :
    (c.grow (divBy c.next c.scale) w).cycle.problem.residual ≤
      criteria.relative * euclidean (residualOf L b x) := by
  have positive := threshold.trans_lt above
  obtain ⟨a, col, extended⟩ := c.extends_grow w
  have radius := h.le_radius alive threshold extended image pivots positive.le stretches.lower
  have share := c.problem.residual_push_mul_radius a col
    (c.grow (divBy c.next c.scale) w).cycle.scale (positive.trans_le radius)
    (above.le.trans radius)
  rw [← extended.problem] at share
  have size : norm w ≤ most := by
    have upper := stretches.upper (entries (divBy c.next c.scale))
    rwa [h.euclidean_vector alive, mul_one, ← image, ← norm_eq_euclidean] at upper
  have small : |(c.grow (divBy c.next c.scale) w).cycle.scale| ≤ noise * norm w :=
    of_decide_eq_true exhausted
  have before := (h.exact threshold pivots).residual_le
  have nonneg : 0 ≤ (c.grow (divBy c.next c.scale) w).cycle.problem.residual := abs_nonneg _
  refine le_of_mul_le_mul_right ?_ positive
  calc (c.grow (divBy c.next c.scale) w).cycle.problem.residual * least
      ≤ |(c.grow (divBy c.next c.scale) w).cycle.scale| * c.problem.residual :=
        (mul_le_mul_of_nonneg_left radius nonneg).trans_eq share
    _ ≤ noise * most * euclidean (residualOf L b x) := by
        refine mul_le_mul (small.trans (mul_le_mul_of_nonneg_left size threshold)) before
          (abs_nonneg _) ?_
        exact (abs_nonneg _).trans (small.trans (mul_le_mul_of_nonneg_left size threshold))
    _ ≤ criteria.relative * least * euclidean (residualOf L b x) :=
        mul_le_mul_of_nonneg_right conditioned (euclidean_nonneg _)
    _ = criteria.relative * euclidean (residualOf L b x) * least := mul_right_comm _ _ _

end Above

/-- An iterate of a run in which no pivot is taken for noise. -/
structure Sturdy (L : (Fin n → α) →ₗ[α] (Fin n → α)) (b : Vector α n) (origin : α)
    (it : Iterate (Carried α n) α n) : Prop where
  framed : it.carried.cycle.Framed L (residualOf L b it.solution)
  pivots : Pivotal it.carried.cycle.problem.rows
  bounded : euclidean (residualOf L b it.solution) ≤ origin
  alive : it.stats.reason = .iterating → it.carried.cycle.scale ≠ 0
  reason : it.stats.reason ≠ .breakdown

section Above

variable {least most : α} (linear : A.Linear L) (stretches : Stretches L least most)
  (threshold : 0 ≤ (noise : α)) (above : noise < least)
  (conditioned : noise * most ≤ criteria.relative * least) (relative : 0 ≤ criteria.relative)

include linear stretches threshold above conditioned relative

theorem step_sturdy {it it' : Iterate (Carried α n) α n} {t t' : Trace σ α}
    (nonneg : 0 ≤ origin) (h : Sturdy L b origin it) (live : it.stats.reason = .iterating)
    (hstep : step A criteria restart b origin it t = (.ok it', t')) : Sturdy L b origin it' := by
  have alive := h.alive live
  have outcome := iteration A criteria restart b origin it t
  rw [hstep] at outcome
  cases outcome with
  | @grown w u room answered more =>
      have image : entries w = L (entries it.carried.basisVector) := linear.multiply answered
      obtain ⟨a, col, extended⟩ := it.carried.cycle.extends_grow w
      have pivots := h.framed.pivotal_grow alive threshold extended image h.pivots above
        stretches.lower
      exact ⟨framed_grow image h.framed threshold (Or.inr pivots), pivots, h.bounded,
        fun _ => scale_ne_zero_of_growing threshold (growing_of_not_closes more), h.reason⟩
  | @finished w r u u' room answered closed res =>
      have image : entries w = L (entries it.carried.basisVector) := linear.multiply answered
      obtain ⟨a, col, extended⟩ := it.carried.cycle.extends_grow w
      have pivots := h.framed.pivotal_grow alive threshold extended image h.pivots above
        stretches.lower
      have exact : (it.carried.cycle.grow it.carried.basisVector w).cycle.Exact L b it.solution :=
        (framed_grow image h.framed threshold (Or.inr pivots)).exact threshold pivots
      have computed := linear.residual (congrArg Prod.fst res)
      have reached : norm r =
          (it.carried.cycle.grow it.carried.basisVector w).cycle.problem.residual := by
        rw [norm_eq_euclidean, computed, exact.attained]
      have reason : (closingStats criteria origin (it.carried.cycle.grow it.carried.basisVector w)
          (norm r) (it.carried.iterations + 1)).reason =
            criteria.check (norm r) origin (it.carried.iterations + 1) := by
        rw [closingStats_reason]
        refine if_neg fun ⟨undecided, exhausted⟩ => ?_
        have met := residual_le_of_exhausted stretches threshold above conditioned h.framed alive
          h.pivots image exhausted
        have relative := met.trans (mul_le_mul_of_nonneg_left h.bounded relative)
        rw [Criteria.check_exact, if_pos (reached.trans_le relative)] at undecided
        cases undecided
      refine ⟨computed ▸ .start L r, nofun, ?_, fun live' => ?_, ?_⟩
      · exact exact.attained.symm.trans_le (exact.residual_le.trans h.bounded)
      · exact (Criteria.pos_of_iterating relative nonneg (reason.symm.trans live')).ne'
      · exact fun broken => check_ne_breakdown _ _ _ _ (reason.symm.trans broken)

/-- An operator above the threshold, and not too ill-conditioned for it, is never given up. -/
theorem solve_not_breakdown {x : Vector α n} {memory : σ} {stats : Stats α}
    (result : (solve A criteria restart b x memory).result = .ok stats) :
    stats.reason ≠ .breakdown := by
  obtain ⟨r, t, it, u, res, run, rfl, -⟩ := Method.solve_ok result
  have computed := linear.residual (congrArg Prod.fst res)
  have nonneg : 0 ≤ norm r := norm_eq_euclidean r ▸ euclidean_nonneg _
  have first : Sturdy L b (norm r) ((method A criteria restart b).first criteria x r) := by
    refine ⟨computed ▸ .start L r, nofun, ?_, fun live => ?_, check_ne_breakdown _ _ _ _⟩
    · rw [norm_eq_euclidean, computed]
      exact le_rfl
    · exact (Criteria.pos_of_iterating relative nonneg live).ne'
  obtain ⟨-, sturdy, -⟩ := advance_ok (P := fun _ it _ => Sturdy L b (norm r) it)
    (fun _ _ _ _ _ => step_sturdy linear stretches threshold above conditioned relative nonneg)
    first run
  exact sturdy.reason

end Above

/-! ## Operators below the threshold -/

/-- Pivots that are all taken for noise leave the unknowns at zero. -/
theorem backSubstitute_faint {rows : List (Row α)} (faint : ∀ row ∈ rows, |row.pivot| ≤ noise) :
    backSubstitute rows = List.replicate rows.length 0 := by
  induction rows with
  | nil => rfl
  | cons row rows ih =>
      obtain ⟨pivot, others⟩ := List.forall_mem_cons.mp faint
      rw [backSubstitute, ih others, List.length_cons, List.replicate_succ]
      refine congrArg (· :: _) (if_neg fun counts => ?_)
      exact absurd (of_decide_eq_true counts) (not_lt.mpr pivot)

/-- An iterate of a run that never left its guess `x`. -/
structure Stuck (L : (Fin n → α) →ₗ[α] (Fin n → α)) (b x : Vector α n)
    (it : Iterate (Carried α n) α n) : Prop where
  framed : it.carried.cycle.Framed L (residualOf L b x)
  units : ∀ r ∈ it.carried.cycle.problem.rotations, r.Unit
  faint : ∀ row ∈ it.carried.cycle.problem.rows, |row.pivot| ≤ noise
  solution : it.solution = x
  alive : it.stats.reason = .iterating → it.carried.cycle.scale ≠ 0
  reason : it.stats.reason ∈ [.iterating, .breakdown, .limit]

section Below

variable (threshold : 0 < (noise : α)) (below : ∀ v, euclidean (L v) ≤ noise * euclidean v)

include threshold below

theorem radius_le_noise (h : c.Framed L e) (alive : c.scale ≠ 0)
    (units : ∀ r ∈ c.problem.rotations, r.Unit) {a : α} {col : List α}
    (extended : c.Extends g (entries w) a col)
    (image : entries w = L (entries (divBy c.next c.scale))) :
    Rotation.radius (Rotation.sweep c.problem.rotations a col).2 g.scale ≤ noise := by
  have orthonormal := h.orthonormal_frame alive
  have size : euclidean (entries w) ≤ noise := by
    have bound := below (entries (divBy c.next c.scale))
    rwa [h.euclidean_vector alive, mul_one, ← image] at bound
  have sizes : (a :: col).length = c.frame.length := by
    rw [List.length_cons, extended.size, c.length_frame]
  have apart := combine_dotProduct (extended.apart orthonormal) (a :: col)
  have square : entries w ⬝ᵥ entries w = squares (a :: col) + g.scale * g.scale := by
    rw [extended.sum, add_dotProduct_self apart, orthonormal.combine_dotProduct_self sizes,
      extended.length, euclidean_square]
  refine (abs_le_of_sq_le_sq ?_ (threshold.le)).trans' (le_abs_self _)
  have swept := Rotation.squares_sweep units a (extended.size.trans h.sized.rotations.symm)
  have rest := squares_nonneg (Rotation.sweep c.problem.rotations a col).1
  have whole := (euclidean_le_iff threshold.le).mp size
  rw [sq, sq, Rotation.radius_mul_self]
  linarith

/-- The cycle stays stuck with one column more. -/
theorem faint_grow (h : c.Framed L e) (alive : c.scale ≠ 0)
    (units : ∀ r ∈ c.problem.rotations, r.Unit)
    (faint : ∀ row ∈ c.problem.rows, |row.pivot| ≤ noise)
    (image : entries w = L (entries (divBy c.next c.scale))) :
    (∀ r ∈ (c.grow (divBy c.next c.scale) w).cycle.problem.rotations, r.Unit) ∧
      ∀ row ∈ (c.grow (divBy c.next c.scale) w).cycle.problem.rows, |row.pivot| ≤ noise := by
  obtain ⟨a, col, extended⟩ := c.extends_grow w
  have radius := radius_le_noise threshold below h alive units extended image
  rw [extended.problem]
  refine ⟨List.forall_mem_append.mpr
    ⟨units, List.forall_mem_singleton.mpr (Rotation.unit_align threshold _ _)⟩, ?_⟩
  exact (h.sized.forall_pivot_push (P := (|·| ≤ noise)) extended.size a _).mpr
    ⟨faint, (Rotation.abs_upper_align_le _ _).trans radius⟩

omit threshold below in
theorem improve_faint (faint : ∀ row ∈ c.problem.rows, |row.pivot| ≤ noise) (x : Vector α n) :
    c.improve x = x := by
  refine entries_injective ?_
  rw [entries_improve, Triangular.solution, backSubstitute_faint faint, combine_replicate_zero,
    add_zero]

variable (linear : A.Linear L) (relative : 0 ≤ criteria.relative)
  (live₀ : criteria.check (euclidean (residualOf L b x)) (euclidean (residualOf L b x)) 0 =
    .iterating)

omit threshold below in
include live₀ in
/-- A residual without a verdict at first has none later, unless the limit is reached. -/
theorem check_first_residual (i : Nat) :
    criteria.check (euclidean (residualOf L b x)) (euclidean (residualOf L b x)) i =
      if criteria.limit ≤ i then .limit else .iterating := by
  rw [Criteria.check_exact] at live₀ ⊢
  split_ifs at live₀ ⊢ <;> rfl

include linear relative live₀

theorem step_stuck {it it' : Iterate (Carried α n) α n} {t t' : Trace σ α}
    (h : Stuck L b x it) (live : it.stats.reason = .iterating)
    (hstep : step A criteria restart b (euclidean (residualOf L b x)) it t = (.ok it', t')) :
    Stuck L b x it' := by
  have alive := h.alive live
  have outcome := iteration A criteria restart b (euclidean (residualOf L b x)) it t
  rw [hstep] at outcome
  cases outcome with
  | @grown w u room answered more =>
      have image : entries w = L (entries it.carried.basisVector) := linear.multiply answered
      have growing := scale_ne_zero_of_growing threshold.le (growing_of_not_closes more)
      obtain ⟨units, faint⟩ := faint_grow threshold below h.framed alive h.units h.faint image
      exact ⟨framed_grow image h.framed threshold.le (Or.inl growing), units, faint, h.solution,
        fun _ => growing, h.reason⟩
  | @finished w r u u' room answered closed res =>
      have image : entries w = L (entries it.carried.basisVector) := linear.multiply answered
      obtain ⟨-, faint⟩ := faint_grow threshold below h.framed alive h.units h.faint image
      have same : (it.carried.cycle.grow it.carried.basisVector w).cycle.improve it.solution = x :=
        (improve_faint faint it.solution).trans h.solution
      have computed : entries r = residualOf L b x := by
        rw [linear.residual (congrArg Prod.fst res), same]
      have length : norm r = euclidean (residualOf L b x) := by rw [norm_eq_euclidean, computed]
      have positive := Criteria.pos_of_iterating relative (euclidean_nonneg _) live₀
      refine ⟨computed ▸ .start L r, nofun, nofun, same, fun _ => ?_, ?_⟩
      · exact (length ▸ positive : 0 < norm r).ne'
      · change (closingStats ..).reason ∈ _
        rw [closingStats_reason, length, check_first_residual live₀]
        split_ifs <;> decide

theorem solve_stuck {memory : σ} {stats : Stats α}
    (result : (solve A criteria restart b x memory).result = .ok stats) :
    stats.reason ∈ [.breakdown, .limit] ∧ (solve A criteria restart b x memory).solution = x := by
  obtain ⟨r₀, -, honest⟩ := Method.solve_honest breakdowns_subset (fun _ => rfl)
    (fun _ _ _ _ _ _ => step_sound) result
  obtain ⟨r, t, it, u, res, run, rfl, report⟩ := Method.solve_ok result
  have computed := linear.residual (congrArg Prod.fst res)
  have length : norm r = euclidean (residualOf L b x) := by rw [norm_eq_euclidean, computed]
  have positive := Criteria.pos_of_iterating relative (euclidean_nonneg _) live₀
  rw [length] at run
  have first : Stuck L b x ((method A criteria restart b).first criteria x r) := by
    refine ⟨computed ▸ .start L r, nofun, nofun, rfl, fun _ => ?_, ?_⟩
    · exact (length ▸ positive : 0 < norm r).ne'
    · change criteria.check (norm r) (norm r) 0 ∈ _
      rw [length, live₀]
      decide
  obtain ⟨-, stuck, -⟩ := advance_ok (P := fun _ it _ => Stuck L b x it)
    (fun _ _ _ _ _ => step_stuck threshold below linear relative live₀) first run
  refine ⟨?_, (congrArg Report.solution report).trans stuck.solution⟩
  exact (List.mem_cons.mp stuck.reason).resolve_left honest.ended.1

end Below

/-! ## One iteration on an eigenvector -/

section Eigen

variable {factor : α} {r : Vector α n}

/-- The first column of a cycle that starts at an eigenvector. -/
theorem extends_eigenvector (nonzero : norm r ≠ 0) (eigen : L (entries r) = factor • entries r)
    (image : entries w = L (entries (divBy r (norm r)))) {a : α} {col : List α}
    (extended : (Cycle.start r (norm r)).Extends g (entries w) a col) :
    a = factor ∧ g.scale = 0 := by
  have framed : (Cycle.start r (norm r)).Framed L (entries r) := .start L r
  have orthonormal := framed.orthonormal_frame nonzero
  obtain rfl := List.length_eq_zero_iff.mp extended.size
  obtain ⟨v, hv⟩ : ∃ v, v = (norm r)⁻¹ • entries r := ⟨_, rfl⟩
  have frame : (Cycle.start r (norm r)).frame = [v] := by rw [Cycle.frame_start, hv]
  have unit : v ⬝ᵥ v = 1 := orthonormal.unit v (by rw [frame]; exact List.mem_singleton_self v)
  have apart : v ⬝ᵥ entries g.next = 0 :=
    extended.apart orthonormal v (by rw [frame]; exact List.mem_singleton_self v)
  have sum : factor • v = a • v + entries g.next := by
    have sum := extended.sum
    rwa [frame, combine_cons, combine_nil, add_zero, image, entries_divBy, map_smul, eigen,
      smul_comm, ← hv] at sum
  have along : a = factor := by
    have product := congrArg (v ⬝ᵥ ·) sum
    simp only [dotProduct_add, dotProduct_smul, unit, apart, smul_eq_mul, mul_one, add_zero]
      at product
    exact product.symm
  refine ⟨along, ?_⟩
  rw [along, left_eq_add] at sum
  rw [extended.length, sum, euclidean_eq_zero_iff]

variable (threshold : 0 ≤ (noise : α)) (above : noise < |factor|)

include threshold above

/-- The first cycle of such a run solves the system. -/
theorem exact_eigenvector (nonzero : norm r ≠ 0) (start : entries r = residualOf L b x)
    (eigen : L (entries r) = factor • entries r)
    (image : entries w = L (entries (divBy r (norm r)))) :
    let g := ((Cycle.start r (norm r)).grow (divBy r (norm r)) w).cycle
    g.scale = 0 ∧ euclidean (residualOf L b (g.improve x)) = 0 := by
  intro g
  have framed : (Cycle.start r (norm r)).Framed L (residualOf L b x) := start ▸ .start L r
  obtain ⟨a, col, extended⟩ : ∃ a col, (Cycle.start r (norm r)).Extends g (entries w) a col :=
    (Cycle.start r (norm r)).extends_grow w
  obtain ⟨rfl, zero⟩ := extends_eigenvector nonzero eigen image extended
  have radius : noise < Rotation.radius (Rotation.sweep [] a col).2 g.scale :=
    above.trans_le (Rotation.abs_le_radius a g.scale).1
  have pivots : Pivotal g.problem.rows := by
    rw [extended.problem]
    exact (framed.sized.pivotal_push extended.size threshold a g.scale).mpr ⟨nofun, radius⟩
  have exact : g.Exact L b x :=
    (framed_grow image framed threshold (Or.inr pivots)).exact threshold pivots
  have share := (Cycle.start r (norm r)).problem.residual_push_mul_radius a col g.scale
    (threshold.trans_lt radius) radius.le
  rw [← extended.problem, zero, abs_zero, zero_mul] at share
  refine ⟨zero, exact.attained.symm.trans ?_⟩
  exact (mul_eq_zero.mp share).resolve_right (threshold.trans_lt (zero ▸ radius)).ne'

variable (linear : A.Linear L) (relative : 0 ≤ criteria.relative)
  (eigen : L (residualOf L b x) = factor • residualOf L b x)

include linear relative eigen

theorem step_eigenvector (nonneg : 0 ≤ origin) (nonzero : norm r ≠ 0)
    (start : entries r = residualOf L b x) {stats : Stats α}
    {it' : Iterate (Carried α n) α n} {t t' : Trace σ α}
    (hstep : step A criteria restart b origin ⟨x, stats, ⟨.start r (norm r), 0⟩⟩ t =
      (.ok it', t')) :
    it'.stats.reason = .relative ∧ it'.stats.iterations = 1 ∧
      residualOf L b it'.solution = 0 := by
  have outcome := iteration A criteria restart b origin ⟨x, stats, ⟨.start r (norm r), 0⟩⟩ t
  rw [hstep] at outcome
  have eigen : L (entries r) = factor • entries r := by rw [start, eigen]
  cases outcome with
  | grown room answered more =>
      have image := linear.multiply answered
      have growing := scale_ne_zero_of_growing threshold (growing_of_not_closes more)
      exact absurd (exact_eigenvector threshold above nonzero start eigen image).1 growing
  | @finished w r' u u' room answered closed res =>
      have image := linear.multiply answered
      have solved := (exact_eigenvector threshold above nonzero start eigen image).2
      have length : norm r' = 0 := by
        rw [norm_eq_euclidean, linear.residual (congrArg Prod.fst res)]
        exact solved
      have reason : criteria.check (norm r') origin 1 = .relative := by
        rw [length]
        exact Criteria.check_zero relative nonneg 1
      refine ⟨?_, ?_, euclidean_eq_zero_iff.mp solved⟩
      · change (closingStats criteria origin _ (norm r') 1).reason = _
        rw [closingStats_reason, reason]
        exact if_neg nofun
      · exact closingStats_iterations ..

theorem solve_eigenvector {memory : σ} {stats : Stats α}
    (live : criteria.check (euclidean (residualOf L b x)) (euclidean (residualOf L b x)) 0 =
      .iterating)
    (result : (solve A criteria restart b x memory).result = .ok stats) :
    stats.reason = .relative ∧ stats.iterations = 1 ∧
      residualOf L b (solve A criteria restart b x memory).solution = 0 := by
  obtain ⟨r, t, it, u, res, run, rfl, report⟩ := Method.solve_ok result
  have start := linear.residual (congrArg Prod.fst res)
  have length : norm r = euclidean (residualOf L b x) := by rw [norm_eq_euclidean, start]
  have nonneg : 0 ≤ norm r := length ▸ euclidean_nonneg _
  rw [← length] at live
  have nonzero := (Criteria.pos_of_iterating relative nonneg live).ne'
  obtain ⟨k, limit⟩ := Nat.exists_eq_add_of_lt (Criteria.lt_limit_of_iterating live)
  rw [Nat.zero_add] at limit
  rw [limit] at run
  have solution := congrArg Report.solution report
  cases hstep : (method A criteria restart b).step (norm r)
      ((method A criteria restart b).first criteria x r) (t.note 0 (norm r)) with
  | mk answer v =>
      cases answer with
      | error e =>
          rw [advance_succ_error _ k live hstep] at run
          cases run
      | ok it' =>
          have done := step_eigenvector threshold above linear relative eigen nonneg nonzero start
            hstep
          rw [advance_succ_ok _ k live hstep,
            advance_of_verdict _ k (by rw [done.1]; decide)] at run
          cases run
          exact ⟨done.1, done.2.1, solution ▸ done.2.2⟩

end Eigen

/-! ## Every operator -/

/-- **What breaks down is a small operator, singular or not.**  Over an exact field every solve on
a linear operator answers a record.  The record is no breakdown if the operator stretches all
vectors by more than the threshold, and not too unevenly for the wanted share of the residual.  An
operator that does not stretch any vector by more than the threshold is given up, with the guess
untouched; and where the first residual is an eigenvector, one iteration solves the system as soon
as the factor is above the threshold. -/
theorem breakdown_scale (linear : A.Linear L) (total : A.Total)
    (room : Storage.HasRoom (restart + 1) Storage.vectorBytes) (threshold : 0 < (noise : α))
    (relative : 0 ≤ criteria.relative) (b x : Vector α n) (memory : σ) :
    let first := residualOf L b x
    let report := solve A criteria restart b x memory
    ∃ stats, report.result = .ok stats ∧
      (∀ least most : α, Stretches L least most → noise < least →
        noise * most ≤ criteria.relative * least → stats.reason ≠ .breakdown) ∧
      (criteria.check (euclidean first) (euclidean first) 0 = .iterating →
        ((∀ v, euclidean (L v) ≤ noise * euclidean v) →
          stats.reason ∈ [.breakdown, .limit] ∧ report.solution = x) ∧
        ∀ factor : α, L first = factor • first → noise < |factor| →
          stats.reason = .relative ∧ stats.iterations = 1 ∧
            residualOf L b report.solution = 0) := by
  intro first report
  obtain ⟨stats, result⟩ := exists_record total room criteria b x memory
  refine ⟨stats, result, ?_, fun live => ⟨?_, ?_⟩⟩
  · intro least most stretches above conditioned
    exact solve_not_breakdown linear stretches threshold.le above conditioned relative result
  · exact fun below => solve_stuck threshold below linear relative live result
  · exact fun factor eigen above =>
      solve_eigenvector threshold.le above linear relative eigen live result

/-- Two multiples of the identity, on either side of the threshold. -/
theorem breakdown_scale_multiples :
    let A (factor : ℝ) : Action Unit (Failure Empty) ℝ 1 := fun x _ memory =>
      (.ok #v[factor * x.getD 0 0], memory)
    let criteria : Criteria ℝ := ⟨1e-5, 1e-50, 1e5, 20⟩
    let solve (factor : ℝ) := solve (A factor) criteria 30 (#v[1] : Vector ℝ 1) #v[0] ()
    (∃ stats, (solve 1e-15).result = .ok stats ∧ stats.reason ∈ [.breakdown, .limit] ∧
        (solve 1e-15).solution = #v[0]) ∧
      ∃ stats, (solve 1e-13).result = .ok stats ∧ stats.reason = .relative ∧
        stats.iterations = 1 := by
  intro A criteria solve
  have linear (factor : ℝ) : (A factor).Linear (factor • LinearMap.id) := by
    rintro x y memory v ⟨⟩
    funext i
    fin_cases i
    simp [entries]
  have total (factor : ℝ) : (A factor).Total := by
    rintro x y memory e ⟨⟩
  have room : Storage.HasRoom (30 + 1) Storage.vectorBytes := by decide
  have threshold : 0 < (noise : ℝ) := by norm_num [noise]
  have relative : 0 ≤ criteria.relative := by norm_num [criteria]
  have start (factor : ℝ) :
      residualOf (factor • LinearMap.id) (#v[1] : Vector ℝ 1) #v[0] = fun _ => 1 := by
    funext i
    fin_cases i
    simp [residualOf, entries]
  have length : euclidean (fun _ : Fin 1 => (1 : ℝ)) = 1 :=
    euclidean_eq zero_le_one (by simp [dotProduct])
  have live : criteria.check (1 : ℝ) 1 0 = .iterating := by
    rw [Criteria.check_exact]
    norm_num [criteria]
  constructor
  · obtain ⟨stats, result, -, scale⟩ :=
      breakdown_scale (linear 1e-15) (total 1e-15) room threshold relative #v[1] #v[0] ()
    rw [start, length] at scale
    refine ⟨stats, result, (scale live).1 fun v => ?_⟩
    have small : |(1e-15 : ℝ)| ≤ noise := by norm_num [noise, abs_of_pos]
    rw [LinearMap.smul_apply, LinearMap.id_apply, euclidean_smul]
    exact mul_le_mul_of_nonneg_right small (euclidean_nonneg v)
  · obtain ⟨stats, result, -, scale⟩ :=
      breakdown_scale (linear 1e-13) (total 1e-13) room threshold relative #v[1] #v[0] ()
    rw [start, length] at scale
    obtain ⟨reason, iterations, -⟩ := (scale live).2 1e-13 rfl (by norm_num [noise, abs_of_pos])
    exact ⟨stats, result, reason, iterations⟩

/-- The same in floating point: one equation with factor `1e-15` is given up by minimal residuals,
at the guess, though its solution is `1e15`, which conjugate gradients find. -/
theorem breakdown_of_small_factor :
    let A := Operators.Flat.action (.always (.rule (.scale 1e-15))) 1
    let criteria : Criteria Float := ⟨1e-5, 1e-50, 1e5, 10⟩
    let b : Vector Float 1 := #v[1.0]
    (∃ stats, (solve A criteria 30 b (zero 1) 0).result = .ok stats ∧
        stats.reason = .breakdown ∧ stats.iterations = 1) ∧
      (solve A criteria 30 b (zero 1) 0).solution.all (· == 0.0) = true ∧
      ∃ stats, (ConjugateGradient.solve A criteria b (zero 1) 0).result = .ok stats ∧
        stats.reason = .relative := by
  intro A criteria b
  refine ⟨?_, by decide +kernel, ?_⟩
  · obtain ⟨stats, result, reason⟩ :=
      exists_ok_of_any (p := fun s => s.reason == .breakdown && s.iterations == 1)
        (show (solve A criteria 30 b (zero 1) 0).result.toOption.any _ = true by decide +kernel)
    rw [Bool.and_eq_true] at reason
    exact ⟨stats, result, eq_of_beq reason.1, eq_of_beq reason.2⟩
  · obtain ⟨stats, result, reason⟩ := exists_ok_of_any (p := fun s => s.reason == .relative)
      (show (ConjugateGradient.solve A criteria b (zero 1) 0).result.toOption.any _ = true by
        decide +kernel)
    exact ⟨stats, result, eq_of_beq reason⟩

end MatrixFree.Krylov.MinimalResidual
