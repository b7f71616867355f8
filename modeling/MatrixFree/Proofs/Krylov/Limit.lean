import MatrixFree.Operators.Flat
import MatrixFree.Proofs.Krylov.Mirror
import MatrixFree.Proofs.Krylov.Termination

/-!
# Runs that end below their limit

The limit on the iterations stands in every test, and the test of minimal residuals on the
estimate of a cycle can end that cycle because of it.  A run whose record stays below the
limit has still not met it: the same iterations are made under any other limit that the
record stays below, on the same memories.

* `Criteria.check_limit`: below two limits the test answers the same.
* `step_limit`, for each method: so does an iteration that arrives below both.
* `Loop.transfer`: an iteration that arrives below the last one is made by both runs.
* `limit_unreached`: so the two solves are one.

A record at the limit is another matter, even one that converged.
-/

namespace MatrixFree.Krylov

variable {σ ε α S : Type} {m n : Nat}

/-! ## Loops -/

section Loop

variable {step step' : Step S σ ε α m} {count : Iterate S α m → Nat}
  {passed passed' : List (Iterate S α m)} {it last : Iterate S α m} {t u : Trace σ α}

/-- A loop has one outcome. -/
theorem Loop.unique {out out' : Except ε (Iterate S α m) × Trace σ α}
    (loop : Loop step passed it t out) (loop' : Loop step passed' it t out') : out = out' := by
  induction loop generalizing passed' with
  | stop verdict =>
      cases loop' with
      | stop _ => rfl
      | fail live _ => exact absurd live verdict
      | next live _ _ => exact absurd live verdict
  | fail live failed =>
      cases loop' with
      | stop verdict => exact absurd live verdict
      | fail _ failed' => exact failed.symm.trans failed'
      | next _ moved' _ => cases failed.symm.trans moved'
  | next live moved rest ih =>
      cases loop' with
      | stop verdict => exact absurd live verdict
      | fail _ failed' => cases moved.symm.trans failed'
      | next _ moved' rest' =>
          cases moved.symm.trans moved'
          exact ih rest'

/-- A loop to an iterate is also the loop of any step that agrees with its own wherever the
count does not pass that iterate's. -/
theorem Loop.transfer
    (grows : ∀ it t it' t', step it t = (.ok it', t') → count it ≤ count it')
    (agrees : ∀ it t it' t', step it t = (.ok it', t') → count it' ≤ count last →
      step' it t = (.ok it', t'))
    {out : Except ε (Iterate S α m) × Trace σ α} (loop : Loop step passed it t out)
    (ended : out = (.ok last, u)) : Loop step' passed it t out := by
  induction loop with
  | stop verdict => exact .stop verdict
  | fail live failed => cases ended
  | next live moved rest ih =>
      -- A count that no iteration lowers is largest at the end.
      have within := (rest.ends (P := fun it _ => count _ ≤ count it)
        (fun _ _ _ _ h _ moved => Nat.le_trans h (grows _ _ _ _ moved)) ended (Nat.le_refl _)).1
      exact .next live (agrees _ _ _ _ moved within) (ih ended)

end Loop

/-! ## Two limits -/

/-- Two solves that differ in their limit are one, provided that the first left a record below
both limits: the same record, solution, history and memory, and the same arrays multiplied.
`listed` are the solves with a list of these arrays. -/
def Report.Unmoved (limit limit' : Nat) (plain plain' : Report σ ε α m)
    (listed listed' : Report (σ × List (Array α)) ε α m) : Prop :=
  ∀ stats, plain.result = .ok stats → stats.iterations < limit → stats.iterations < limit' →
    plain' = plain ∧ listed'.memory.2 = listed.memory.2

theorem Report.Unmoved.of_mirrors {limit limit' : Nat} {plain plain' : Report σ ε α m}
    {listed listed' : Report (σ × List (Array α)) ε α m}
    (same : listed.Mirrors (fun p memory => p.1 = memory) plain)
    (moved : ∀ stats, plain.result = .ok stats → stats.iterations < limit →
      stats.iterations < limit' → plain' = plain)
    (movedListed : ∀ stats, listed.result = .ok stats → stats.iterations < limit →
      stats.iterations < limit' → listed' = listed) :
    plain.Unmoved limit limit' plain' listed listed' := by
  intro stats ok below below'
  have listedOk : listed.result = .ok stats := same.result.trans ok
  refine ⟨moved stats ok below below', ?_⟩
  rw [movedListed stats listedOk below below']

/-! ## Solves -/

section Solve

variable [Scalar α]

/-- Below two limits the test answers the same. -/
theorem Criteria.check_limit (c : Criteria α) {limit i : Nat} (below : i < c.limit)
    (below' : i < limit) (res res0 : α) :
    { c with limit }.check res res0 i = c.check res res0 i := by
  simp only [Criteria.check, Nat.not_le.mpr below, Nat.not_le.mpr below', if_false]

theorem Criteria.stats_limit (c : Criteria α) {limit i : Nat} (below : i < c.limit)
    (below' : i < limit) (res res0 : α) :
    { c with limit }.stats res res0 i = c.stats res res0 i := by
  simp only [Criteria.stats, c.check_limit below below']

/-- Whether a residual converges is no matter of the limit. -/
theorem Criteria.converged_limit (c : Criteria α) (limit : Nat) (res res0 : α) (i : Nat) :
    ({ c with limit }.stats res res0 i).converged = (c.stats res res0 i).converged := by
  have undecided (r : Nat) :
      (if r ≤ i then Reason.limit else .iterating).isConverged = false := by
    split <;> rfl
  simp only [Stats.converged, Criteria.stats_reason, Criteria.check, apply_ite Reason.isConverged]
  simp only [← apply_ite Reason.isConverged, undecided]

/-- What a method has to do with the limit in its criteria.  The count tells the number of the
iteration for which tests are made. -/
structure Method.Counts (M : Criteria α → Method S σ ε α n m) (count : Iterate S α m → Nat) :
    Prop where
  begin : ∀ c limit, (M { c with limit }).begin = (M c).begin
  first : ∀ c x r, count ((M c).first c x r) = 0
  grows : ∀ c origin it t it' t', (M c).step origin it t = (.ok it', t') → count it ≤ count it'
  /-- An iteration that arrives below two limits is made under both. -/
  agrees : ∀ c limit origin it t it' t', (M c).step origin it t = (.ok it', t') →
    count it' < c.limit → count it' < limit →
    (M { c with limit }).step origin it t = (.ok it', t')
  /-- With a verdict, the record has the count. -/
  told : ∀ c origin it t it' t', it.stats.reason = .iterating →
    (M c).step origin it t = (.ok it', t') → it'.stats.reason ≠ .iterating →
    it'.stats.iterations = count it'

variable {M : Criteria α → Method S σ ε α n m} {count : Iterate S α m → Nat}
  {A : Action σ ε α n} {c : Criteria α} {limit : Nat} {b : Vector α n} {x : Vector α m}
  {memory : σ} {passed : List (Iterate S α m)} {report : Report σ ε α m}

theorem Method.Counts.loop_told (counts : Counts M count) {origin : α} {it last : Iterate S α m}
    {t u : Trace σ α} (loop : Loop ((M c).step origin) passed it t (.ok last, u))
    (start : it.stats.iterations = count it) : last.stats.iterations = count last := by
  obtain ⟨told, verdict⟩ := loop.ends
    (P := fun it _ => it.stats.reason ≠ .iterating → it.stats.iterations = count it)
    (fun it t it' t' _ => counts.told c origin it t it' t') rfl fun _ => start
  exact told verdict

/-- A solve whose loop ends at an iterate leaves that iterate. -/
theorem Method.Runs.eq_of_loop {M : Method S σ ε α n m}
    (runs : M.Runs A c b x memory passed report) {r : Vector α n} {t u : Trace σ α}
    {passed' : List (Iterate S α m)} {it : Iterate S α m}
    (res : residual A b x ⟨memory, #[]⟩ = (.ok r, t))
    (loop : Loop (M.step (Flat.norm r)) passed' (M.first c x r) (t.note 0 (Flat.norm r))
      (.ok it, u)) :
    report = ⟨.ok it.stats, it.solution, u.history, u.memory⟩ := by
  cases runs with
  | refused res' => cases res.symm.trans res'
  | failed res' loop' =>
      cases res.symm.trans res'
      cases loop.unique loop'
  | ended res' loop' =>
      cases res.symm.trans res'
      cases loop.unique loop'
      rfl

/-- A solve with a record below two limits is the solve under the other. -/
theorem Method.Counts.runs_eq (counts : Counts M count) {passed' : List (Iterate S α m)}
    {report' : Report σ ε α m} (runs : (M c).Runs A c b x memory passed report)
    (runs' : (M { c with limit }).Runs A { c with limit } b x memory passed' report')
    {stats : Stats α} (ok : report.result = .ok stats) (below : stats.iterations < c.limit)
    (below' : stats.iterations < limit) : report' = report := by
  cases runs with
  | refused res => cases ok
  | failed res loop => cases ok
  | @ended r t u _ last res loop =>
      cases ok
      have zero : count ((M c).first c x r) = 0 := counts.first c x r
      have total : last.stats.iterations = count last := counts.loop_told loop zero.symm
      rw [total] at below below'
      -- No iteration arrives beyond the last, so the other limit makes all of them too.
      have other : Loop ((M { c with limit }).step (Flat.norm r)) _ ((M c).first c x r)
          (t.note 0 (Flat.norm r)) (.ok last, u) :=
        loop.transfer (counts.grows c (Flat.norm r))
          (fun it t it' t' moved within =>
            counts.agrees c limit (Flat.norm r) it t it' t' moved (Nat.lt_of_le_of_lt within below)
              (Nat.lt_of_le_of_lt within below'))
          rfl
      have same : (M { c with limit }).first { c with limit } x r = (M c).first c x r := by
        simp only [Method.first, counts.begin,
          c.stats_limit (Nat.zero_lt_of_lt below) (Nat.zero_lt_of_lt below')]
      rw [← same] at other
      exact runs'.eq_of_loop res other

/-! ## The three methods -/

namespace ConjugateGradient

variable {it it' : Iterate (Carried α n) α m} {t t' : Trace σ α} {origin : α}

theorem move_limit (c : Criteria α) {limit : Nat} (below : it.stats.iterations + 1 < c.limit)
    (below' : it.stats.iterations + 1 < limit) (ap : Vector α n) (pap : α) :
    move { c with limit } origin it ap pap = move c origin it ap pap := by
  simp only [move, c.stats_limit below below']

theorem step_limit (hstep : step A c origin it t = (.ok it', t'))
    (below : it'.stats.iterations < c.limit) (below' : it'.stats.iterations < limit) :
    step A { c with limit } origin it t = (.ok it', t') := by
  have outcome := iteration A c origin it t
  rw [hstep] at outcome
  cases outcome with
  | stopped image curvature => exact (Iteration.stopped image curvature).step_eq
  | moved image curvature =>
      rw [← move_limit c below below']
      exact (Iteration.moved image curvature).step_eq

theorem step_counts (hstep : step A c origin it t = (.ok it', t')) :
    it.stats.iterations ≤ it'.stats.iterations := by
  have outcome := iteration A c origin it t
  rw [hstep] at outcome
  cases outcome with
  | stopped image curvature => exact Nat.le_refl _
  | moved image curvature => exact Nat.le_succ _

theorem counts (A : Action σ ε α n) :
    Method.Counts (m := m) (method A) (·.stats.iterations) where
  begin _ _ := rfl
  first _ _ _ := rfl
  grows _ _ _ _ _ _ := step_counts
  agrees _ _ _ _ _ _ _ := step_limit
  told _ _ _ _ _ _ _ _ _ := rfl

theorem solve_limit (A : Action σ ε α n) (c : Criteria α) (limit : Nat) (b : Vector α n)
    (x : Vector α m) (memory : σ) {stats : Stats α} (ok : (solve A c b x memory).result = .ok stats)
    (below : stats.iterations < c.limit) (below' : stats.iterations < limit) :
    solve A { c with limit } b x memory = solve A c b x memory := by
  obtain ⟨_, runs, -, -⟩ := solve_runs A c b x memory
  obtain ⟨_, runs', -, -⟩ := solve_runs A { c with limit } b x memory
  exact (counts A).runs_eq runs runs' ok below below'

end ConjugateGradient

namespace BiconjugateGradient

variable {it it' : Iterate (Carried α n) α m} {t t' : Trace σ α} {origin : α}

theorem stabilize_limit (c : Criteria α) {limit i : Nat} (below : i < c.limit)
    (below' : i < limit) (x : Vector α m) (carried : Carried α n) (s w : Vector α n) (ww : α) :
    stabilize { c with limit } origin x carried s w ww i =
      stabilize c origin x carried s w ww i := by
  unfold stabilize
  dsimp only
  rw [c.stats_limit below below']

/-- The first half of an iteration is tested for the number that its second half brings, and
asks only whether the residual converges. -/
theorem step_limit (hstep : step A c origin it t = (.ok it', t'))
    (below : it'.stats.iterations < c.limit) (below' : it'.stats.iterations < limit) :
    step A { c with limit } origin it t = (.ok it', t') := by
  have outcome := iteration A c origin it t
  rw [hstep] at outcome
  cases outcome with
  | orthogonal vanished => exact (Iteration.orthogonal vanished).step_eq
  | blocked product first length => exact (Iteration.blocked product first length).step_eq
  | halved product first length converged =>
      rw [← c.converged_limit limit] at converged
      rw [← c.stats_limit (i := it.stats.iterations + 1) below below']
      exact (Iteration.halved product first length converged).step_eq
  | spent product first length unconverged second vanished =>
      rw [← c.converged_limit limit] at unconverged
      exact (Iteration.spent product first length unconverged second vanished).step_eq
  | stabilized product first length unconverged second square =>
      rw [← c.converged_limit limit] at unconverged
      rw [stabilize_iterations] at below below'
      rw [← stabilize_limit c below below']
      exact (Iteration.stabilized product first length unconverged second square).step_eq

theorem step_counts (hstep : step A c origin it t = (.ok it', t')) :
    it.stats.iterations ≤ it'.stats.iterations := by
  have outcome := iteration A c origin it t
  rw [hstep] at outcome
  cases outcome with
  | orthogonal vanished => exact Nat.le_refl _
  | blocked product first length => exact Nat.le_refl _
  | spent product first length unconverged second vanished => exact Nat.le_refl _
  | halved product first length converged => exact Nat.le_succ _
  | stabilized product first length unconverged second square =>
      rw [stabilize_iterations]
      exact Nat.le_succ _

theorem counts (A : Action σ ε α n) :
    Method.Counts (m := m) (method A) (·.stats.iterations) where
  begin _ _ := rfl
  first _ _ _ := rfl
  grows _ _ _ _ _ _ := step_counts
  agrees _ _ _ _ _ _ _ := step_limit
  told _ _ _ _ _ _ _ _ _ := rfl

theorem solve_limit (A : Action σ ε α n) (c : Criteria α) (limit : Nat) (b : Vector α n)
    (x : Vector α m) (memory : σ) {stats : Stats α} (ok : (solve A c b x memory).result = .ok stats)
    (below : stats.iterations < c.limit) (below' : stats.iterations < limit) :
    solve A { c with limit } b x memory = solve A c b x memory := by
  obtain ⟨_, runs, -, -⟩ := solve_runs A c b x memory
  obtain ⟨_, runs', -, -⟩ := solve_runs A { c with limit } b x memory
  exact (counts A).runs_eq runs runs' ok below below'

end BiconjugateGradient

namespace MinimalResidual

variable {A : Action σ (Failure ε) α n} {restart : Nat} {it it' : Iterate (Carried α n) α m}
  {t t' : Trace σ α} {origin : α}

/-- An estimate ends a cycle for the limit only at the limit. -/
theorem closes_limit (c : Criteria α) {limit i : Nat} (below : i < c.limit) (below' : i < limit)
    (restart : Nat) (g : Grown α n) :
    closes { c with limit } restart origin g i = closes c restart origin g i := by
  simp only [closes, c.check_limit below below']

theorem closingStats_limit (c : Criteria α) {limit i : Nat} (below : i < c.limit)
    (below' : i < limit) (g : Grown α n) (beta : α) :
    closingStats { c with limit } origin g beta i = closingStats c origin g beta i := by
  unfold closingStats
  rw [c.stats_limit below below']

theorem step_limit (hstep : step A c restart b origin it t = (.ok it', t'))
    (below : it'.carried.iterations < c.limit) (below' : it'.carried.iterations < limit) :
    step A { c with limit } restart b origin it t = (.ok it', t') := by
  have outcome := iteration A c restart b origin it t
  rw [hstep] at outcome
  cases outcome with
  | grown room image more =>
      rw [← closes_limit c below below'] at more
      exact (Iteration.grown room image more).step_eq
  | finished room image closed res =>
      rw [← closes_limit c below below'] at closed
      rw [← closingStats_limit c below below']
      exact (Iteration.finished room image closed res).step_eq

theorem step_counts (hstep : step A c restart b origin it t = (.ok it', t')) :
    it.carried.iterations ≤ it'.carried.iterations := by
  have outcome := iteration A c restart b origin it t
  rw [hstep] at outcome
  cases outcome with
  | grown room image more => exact Nat.le_succ _
  | finished room image closed res => exact Nat.le_succ _

/-- Only the end of a cycle brings a verdict, and the record is then renewed. -/
theorem step_told (live : it.stats.reason = .iterating)
    (hstep : step A c restart b origin it t = (.ok it', t'))
    (verdict : it'.stats.reason ≠ .iterating) : it'.stats.iterations = it'.carried.iterations := by
  have outcome := iteration A c restart b origin it t
  rw [hstep] at outcome
  cases outcome with
  | grown room image more => exact absurd live verdict
  | finished room image closed res => exact closingStats_iterations ..

theorem counts (A : Action σ (Failure ε) α n) (restart : Nat) (b : Vector α n) :
    Method.Counts (m := m) (method A · restart b) (·.carried.iterations) where
  begin _ _ := rfl
  first _ _ _ := rfl
  grows _ _ _ _ _ _ := step_counts
  agrees _ _ _ _ _ _ _ := step_limit
  told _ _ _ _ _ _ := step_told

theorem solve_limit (A : Action σ (Failure ε) α n) (c : Criteria α) (limit restart : Nat)
    (b : Vector α n) (x : Vector α m) (memory : σ) {stats : Stats α}
    (ok : (solve A c restart b x memory).result = .ok stats)
    (below : stats.iterations < c.limit) (below' : stats.iterations < limit) :
    solve A { c with limit } restart b x memory = solve A c restart b x memory := by
  obtain ⟨_, runs, -, -⟩ := solve_runs A c restart b x memory
  obtain ⟨_, runs', -, -⟩ := solve_runs A { c with limit } restart b x memory
  exact (counts A restart b).runs_eq runs runs' ok below below'

end MinimalResidual

/-! ## Every solve -/

/-- **Limits that are not reached are not felt.**  Whatever the operator does, and whatever it
remembers, a solve by any of the three methods that ends with a record below its limit is the
same solve under every other limit above the iterations it made, application by application. -/
theorem limit_unreached (A : Action σ (Failure ε) α n) (c : Criteria α) (limit restart : Nat)
    (b : Vector α n) (x : Vector α m) (memory : σ) :
    let c' : Criteria α := { c with limit }
    (ConjugateGradient.solve A c b x memory).Unmoved c.limit limit
        (ConjugateGradient.solve A c' b x memory)
        (ConjugateGradient.solve A.recorded c b x (memory, []))
        (ConjugateGradient.solve A.recorded c' b x (memory, [])) ∧
      (BiconjugateGradient.solve A c b x memory).Unmoved c.limit limit
        (BiconjugateGradient.solve A c' b x memory)
        (BiconjugateGradient.solve A.recorded c b x (memory, []))
        (BiconjugateGradient.solve A.recorded c' b x (memory, [])) ∧
      (MinimalResidual.solve A c restart b x memory).Unmoved c.limit limit
        (MinimalResidual.solve A c' restart b x memory)
        (MinimalResidual.solve A.recorded c restart b x (memory, []))
        (MinimalResidual.solve A.recorded c' restart b x (memory, [])) := by
  intro c'
  have ops := A.recorded_mirrors n
  have guess := A.recorded_mirrors m
  refine ⟨.of_mirrors ?_ ?_ ?_, .of_mirrors ?_ ?_ ?_, .of_mirrors ?_ ?_ ?_⟩
  · exact ConjugateGradient.solve_mirrors ops guess c b x rfl
  · exact fun _ => ConjugateGradient.solve_limit A c limit b x memory
  · exact fun _ => ConjugateGradient.solve_limit A.recorded c limit b x (memory, [])
  · exact BiconjugateGradient.solve_mirrors ops guess c b x rfl
  · exact fun _ => BiconjugateGradient.solve_limit A c limit b x memory
  · exact fun _ => BiconjugateGradient.solve_limit A.recorded c limit b x (memory, [])
  · exact MinimalResidual.solve_mirrors ops guess c restart b x rfl
  · exact fun _ => MinimalResidual.solve_limit A c limit restart b x memory
  · exact fun _ => MinimalResidual.solve_limit A.recorded c limit restart b x (memory, [])

/-- Two cycles of one basis vector each, under a limit of twenty and under the least limit above
the two iterations. -/
theorem limit_unreached_dense :
    let A := Operators.Flat.action (.always (.rule (.dense #[[4.0, 1.0], [1.0, 3.0]]))) 2
    let c : Criteria Float := ⟨0.1, 1e-50, 1e5, 20⟩
    let b : Vector Float 2 := #v[1.0, 2.0]
    let report := MinimalResidual.solve A c 1 b (Flat.zero 2) 0
    ∃ s, report.result = .ok s ∧ s.iterations = 2 ∧ s.reason = .relative ∧
      MinimalResidual.solve A { c with limit := 3 } 1 b (Flat.zero 2) 0 = report := by
  intro A c b report
  obtain ⟨s, ok, told⟩ :=
    exists_ok_of_any (p := fun s => s.iterations == 2 && s.reason == .relative)
      (show report.result.toOption.any _ = true by decide +kernel)
  rw [Bool.and_eq_true] at told
  have two : s.iterations = 2 := eq_of_beq told.1
  have below : s.iterations < 20 := by omega
  have below' : s.iterations < 3 := by omega
  obtain ⟨-, -, unmoved⟩ := limit_unreached A c 3 1 b (Flat.zero 2) 0
  exact ⟨s, ok, two, eq_of_beq told.2, (unmoved s ok below below').1⟩

/-- A run that converges at its limit can do something else under a larger one.  The limit closes
the cycle early here, and the operator answers the right-hand side from its third application on. -/
example :
    let A := Operators.Flat.action
      (.switch 2 (.always (.rule (.dense #[[4.0, 1.0], [1.0, 3.0]]))) (.always (.rule (.const 1.0)))) 2
    let records (limit : Nat) :=
      (MinimalResidual.solve A (⟨1e-5, 1e-50, 1e5, limit⟩ : Criteria Float) 30 #v[1.0, 1.0]
        (Flat.zero 2) 0).result.toOption.map fun s => (s.iterations, s.reason)
    records 1 = some (1, .relative) ∧ records 20 = some (2, .relative) := by
  decide +kernel

end Solve

end MatrixFree.Krylov
