import MatrixFree.Proofs.Krylov.Verdict

/-!
# Runs end by a verdict

The loop of a run counts down the iterations that the limit allows, and stops when the count
is used up.  This module says that the count never stops it.  `Loop` is the loop without a
count: iterate while there is no verdict.  Every method that keeps its iterates sound ends
that loop too, at the same place and with the same answer (`loop_advance`), since the test
has a verdict at the limit and every iteration brings the counter one closer to it.

`Method.Runs` is a whole solve with that loop in it.  It also lists the iterates at which an
iteration began, on which what a run did is counted.
-/

namespace MatrixFree.Krylov

variable {σ ε α S : Type} {m n : Nat}

/-! ## The loop without a count -/

/-- Iterate until a verdict or a failure.  The list holds the iterates at which an iteration
began, first to last. -/
inductive Loop (step : Step S σ ε α m) : List (Iterate S α m) → Iterate S α m → Trace σ α →
    Except ε (Iterate S α m) × Trace σ α → Prop where
  | stop {it : Iterate S α m} {t : Trace σ α} (verdict : it.stats.reason ≠ .iterating) :
      Loop step [] it t (.ok it, t)
  | fail {it : Iterate S α m} {t u : Trace σ α} {e : ε} (live : it.stats.reason = .iterating)
      (failed : step it t = (.error e, u)) : Loop step [it] it t (.error e, u)
  | next {it it' : Iterate S α m} {t u : Trace σ α} {passed : List (Iterate S α m)}
      {out : Except ε (Iterate S α m) × Trace σ α} (live : it.stats.reason = .iterating)
      (moved : step it t = (.ok it', u)) (rest : Loop step passed it' u out) :
      Loop step (it :: passed) it t out

/-- What iterations keep holds wherever one begins. -/
theorem Loop.forall_passed {step : Step S σ ε α m} {P : Iterate S α m → Prop}
    (keep : ∀ it t it' t', P it → it.stats.reason = .iterating → step it t = (.ok it', t') → P it')
    {passed : List (Iterate S α m)} {it : Iterate S α m} {t : Trace σ α}
    {out : Except ε (Iterate S α m) × Trace σ α} (loop : Loop step passed it t out) (h : P it) :
    ∀ p ∈ passed, P p ∧ p.stats.reason = .iterating := by
  induction loop with
  | stop verdict => nofun
  | fail live failed => exact List.forall_mem_singleton.mpr ⟨h, live⟩
  | next live moved rest ih =>
      exact List.forall_mem_cons.mpr ⟨⟨h, live⟩, ih (keep _ _ _ _ h live moved)⟩

/-- What iterations keep holds at the end of a loop, and there is a verdict there. -/
theorem Loop.ends {step : Step S σ ε α m} {P : Iterate S α m → Trace σ α → Prop}
    (keep : ∀ it t it' t', P it t → it.stats.reason = .iterating → step it t = (.ok it', t') →
      P it' t')
    {passed : List (Iterate S α m)} {it last : Iterate S α m} {t u : Trace σ α}
    {out : Except ε (Iterate S α m) × Trace σ α} (loop : Loop step passed it t out)
    (ended : out = (.ok last, u)) (h : P it t) : P last u ∧ last.stats.reason ≠ .iterating := by
  induction loop with
  | stop verdict =>
      cases ended
      exact ⟨h, verdict⟩
  | fail live failed => cases ended
  | next live moved rest ih => exact ih ended (keep _ _ _ _ h live moved)

section Sound

variable [Scalar α] {criteria : Criteria α} {origin : α} {own : List Reason}
  {count : Iterate S α m → Nat} {step : Step S σ ε α m}

/-- Where iterations keep iterates sound, the loop without a count ends, and where the
counted loop does.  Each iteration begins below the limit. -/
theorem loop_advance
    (keep : ∀ left it t it' t', Sound criteria origin own count (left + 1) it →
      it.stats.reason = .iterating → step it t = (.ok it', t') →
      Sound criteria origin own count left it') :
    ∀ left it t, Sound criteria origin own count left it →
      ∃ passed, Loop step passed it t (advance step left it t) ∧ passed.length ≤ left ∧
        ∀ p ∈ passed, count p < criteria.limit := by
  intro left
  induction left with
  | zero =>
      intro it t sound
      -- With no iterations left the count has reached the limit, so there is a verdict.
      have verdict : it.stats.reason ≠ .iterating := by
        intro live
        have pace := sound.pace live
        have before := sound.live live
        omega
      refine ⟨[], .stop verdict, Nat.le_refl 0, ?_⟩
      intro p mem
      cases mem
  | succ left ih =>
      intro it t sound
      by_cases live : it.stats.reason = .iterating
      · cases hstep : step it t with
        | mk answer u =>
            cases answer with
            | error e =>
                rw [advance_succ_error step left live hstep]
                refine ⟨[it], .fail live hstep, ?_, ?_⟩
                · simp only [List.length_singleton]
                  omega
                · intro p mem
                  rw [List.mem_singleton.1 mem]
                  exact sound.live live
            | ok it' =>
                rw [advance_succ_ok step left live hstep]
                obtain ⟨passed, rest, length, below⟩ :=
                  ih it' u (keep left it t it' u sound live hstep)
                refine ⟨it :: passed, .next live hstep rest, ?_, ?_⟩
                · simp only [List.length_cons]
                  omega
                · intro p mem
                  rcases List.mem_cons.1 mem with rfl | later
                  · exact sound.live live
                  · exact below p later
      · rw [advance_of_verdict step (left + 1) live t]
        refine ⟨[], .stop live, Nat.zero_le _, ?_⟩
        intro p mem
        cases mem

end Sound

/-! ## The whole solve -/

section Solve

variable [Scalar α]

/-- A solve in which nothing but a verdict or a failure ends the loop. -/
inductive Method.Runs (M : Method S σ ε α n m) (A : Action σ ε α n) (criteria : Criteria α)
    (b : Vector α n) (x : Vector α m) (memory : σ) :
    List (Iterate S α m) → Report σ ε α m → Prop where
  | refused {e : ε} {t : Trace σ α} (res : residual A b x ⟨memory, #[]⟩ = (.error e, t)) :
      Runs M A criteria b x memory [] ⟨.error e, x, t.history, t.memory⟩
  | failed {r : Vector α n} {t u : Trace σ α} {passed : List (Iterate S α m)} {e : ε}
      (res : residual A b x ⟨memory, #[]⟩ = (.ok r, t))
      (loop : Loop (M.step (Flat.norm r)) passed (M.first criteria x r) (t.note 0 (Flat.norm r))
        (.error e, u)) :
      Runs M A criteria b x memory passed ⟨.error e, x, u.history, u.memory⟩
  | ended {r : Vector α n} {t u : Trace σ α} {passed : List (Iterate S α m)}
      {it : Iterate S α m} (res : residual A b x ⟨memory, #[]⟩ = (.ok r, t))
      (loop : Loop (M.step (Flat.norm r)) passed (M.first criteria x r) (t.note 0 (Flat.norm r))
        (.ok it, u)) :
      Runs M A criteria b x memory passed ⟨.ok it.stats, it.solution, u.history, u.memory⟩

variable {M : Method S σ ε α n m} {A : Action σ ε α n} {criteria : Criteria α}
  {b : Vector α n} {x : Vector α m} {memory : σ}

/-- An iteration begins at the guess unless there is a verdict on it. -/
theorem Method.Runs.first_mem {r : Vector α n} {t : Trace σ α} {passed : List (Iterate S α m)}
    {report : Report σ ε α m} (runs : M.Runs A criteria b x memory passed report)
    (res : residual A b x ⟨memory, #[]⟩ = (.ok r, t))
    (live : (M.first criteria x r).stats.reason = .iterating) :
    M.first criteria x r ∈ passed := by
  cases runs with
  | refused res' =>
      rw [res] at res'
      cases res'
  | failed res' loop =>
      rw [res] at res'
      cases res'
      cases loop with
      | fail live' failed => exact List.mem_singleton_self _
      | next live' moved rest => exact List.mem_cons_self
  | ended res' loop =>
      rw [res] at res'
      cases res'
      cases loop with
      | stop verdict => exact absurd live verdict
      | next live' moved rest => exact List.mem_cons_self

/-- The same of a whole solve. -/
theorem Method.Runs.forall_passed {P : Iterate S α m → Prop}
    (start : ∀ r t, residual A b x ⟨memory, #[]⟩ = (.ok r, t) → P (M.first criteria x r))
    (keep : ∀ origin it t it' t', P it → it.stats.reason = .iterating →
      M.step origin it t = (.ok it', t') → P it')
    {passed : List (Iterate S α m)} {report : Report σ ε α m}
    (runs : M.Runs A criteria b x memory passed report) :
    ∀ p ∈ passed, P p ∧ p.stats.reason = .iterating := by
  cases runs with
  | refused res => nofun
  | failed res loop => exact loop.forall_passed (keep _) (start _ _ res)
  | ended res loop => exact loop.forall_passed (keep _) (start _ _ res)

/-- A method whose iterations keep soundness runs to its end, in at most as many iterations as
the limit allows, and its counter stays within the limit. -/
theorem Method.solve_runs {own : List Reason} {count : Iterate S α m → Nat}
    (start : ∀ r, count (M.first criteria x r) = 0)
    (keep : ∀ origin left it t it' t', Sound criteria origin own count (left + 1) it →
      it.stats.reason = .iterating → M.step origin it t = (.ok it', t') →
      Sound criteria origin own count left it') :
    ∃ passed, M.Runs A criteria b x memory passed (M.solve A criteria b x memory) ∧
      passed.length ≤ criteria.limit ∧ ∀ p ∈ passed, count p < criteria.limit := by
  unfold Method.solve
  rcases res : residual A b x ⟨memory, #[]⟩ with ⟨e | r, t⟩
  · refine ⟨[], .refused res, Nat.zero_le _, ?_⟩
    intro p mem
    cases mem
  · have first : Sound criteria (Flat.norm r) own count criteria.limit (M.first criteria x r) :=
      .of_stats rfl (Nat.zero_add _) (start r)
    obtain ⟨passed, loop, length, below⟩ :=
      loop_advance (keep (Flat.norm r)) criteria.limit _ (t.note 0 (Flat.norm r)) first
    unfold Method.first at loop
    dsimp only
    generalize advance (M.step (Flat.norm r)) criteria.limit _ (t.note 0 (Flat.norm r)) = out
      at loop ⊢
    obtain ⟨e | it, u⟩ := out
    · exact ⟨passed, .failed res loop, length, below⟩
    · exact ⟨passed, .ended res loop, length, below⟩

/-! ## The three methods -/

theorem ConjugateGradient.solve_runs (A : Action σ ε α n) (criteria : Criteria α) (b : Vector α n)
    (x : Vector α m) (memory : σ) :
    ∃ passed, (method A criteria).Runs A criteria b x memory passed
        (solve A criteria b x memory) ∧
      passed.length ≤ criteria.limit ∧ ∀ it ∈ passed, it.stats.iterations < criteria.limit :=
  Method.solve_runs (fun _ => rfl) fun _ _ _ _ _ _ => step_sound

theorem BiconjugateGradient.solve_runs (A : Action σ ε α n) (criteria : Criteria α)
    (b : Vector α n) (x : Vector α m) (memory : σ) :
    ∃ passed, (method A criteria).Runs A criteria b x memory passed
        (solve A criteria b x memory) ∧
      passed.length ≤ criteria.limit ∧ ∀ it ∈ passed, it.stats.iterations < criteria.limit :=
  Method.solve_runs (fun _ => rfl) fun _ _ _ _ _ _ => step_sound

theorem MinimalResidual.solve_runs (A : Action σ (Failure ε) α n) (criteria : Criteria α)
    (restart : Nat) (b : Vector α n) (x : Vector α m) (memory : σ) :
    ∃ passed, (method A criteria restart b).Runs A criteria b x memory passed
        (solve A criteria restart b x memory) ∧
      passed.length ≤ criteria.limit ∧ ∀ it ∈ passed, it.carried.iterations < criteria.limit :=
  Method.solve_runs (fun _ => rfl) fun _ _ _ _ _ _ => step_sound

end Solve

end MatrixFree.Krylov
