import MatrixFree.Krylov.Run

/-!
# From one iteration to a whole run

Every method is one iteration handed to `advance`, so what a run does is said once here, for
all of them.  `advance_ends` carries a property of iterates through the loop, to its verdict
or its failure: the property may mention the iterations that are left, which is how a count of
iterations is tied to the limit.  `Method.solve_ok` and `Method.solve_error` open a whole solve
into its first residual and its loop.
-/

namespace MatrixFree.Krylov

variable {σ ε α S : Type} {m n : Nat}

/-- A test that an answer is there and passes finds the answer. -/
theorem exists_ok_of_any {X : Type} {answer : Except ε X} {p : X → Bool}
    (h : answer.toOption.any p = true) : ∃ a, answer = .ok a ∧ p a = true := by
  cases answer with
  | error e => cases h
  | ok a => exact ⟨a, rfl, h⟩

theorem error_of_map {X Y : Type} {answer : Except ε X} {f : X → Y} {e : ε}
    (h : answer.map f = .error e) : answer = .error e := by
  cases answer with
  | error e' => exact congrArg Except.error (Except.error.inj h)
  | ok a => cases h

/-! ## The loop -/

theorem advance_of_verdict (step : Step S σ ε α m) (fuel : Nat) {it : Iterate S α m}
    (h : it.stats.reason ≠ .iterating) (t : Trace σ α) :
    advance step fuel it t = (.ok it, t) := by
  cases fuel with
  | zero => rfl
  | succ fuel => simp only [advance, if_neg h]

theorem advance_succ_ok (step : Step S σ ε α m) (fuel : Nat) {it it' : Iterate S α m}
    {t t' : Trace σ α} (h : it.stats.reason = .iterating) (hstep : step it t = (.ok it', t')) :
    advance step (fuel + 1) it t = advance step fuel it' t' := by
  simp only [advance, if_pos h, hstep]

theorem advance_succ_error (step : Step S σ ε α m) (fuel : Nat) {it : Iterate S α m}
    {e : ε} {t t' : Trace σ α} (h : it.stats.reason = .iterating)
    (hstep : step it t = (.error e, t')) :
    advance step (fuel + 1) it t = (.error e, t') := by
  simp only [advance, if_pos h, hstep]

/-- Two iterations that agree where a property holds, which they keep, make one loop from there. -/
theorem advance_congr {step step' : Step S σ ε α m} {P : Iterate S α m → Prop}
    (agree : ∀ it t, P it → step it t = step' it t)
    (keep : ∀ it t it' t', P it → step it t = (.ok it', t') → P it') (fuel : Nat)
    {it : Iterate S α m} (h : P it) (t : Trace σ α) :
    advance step fuel it t = advance step' fuel it t := by
  induction fuel generalizing it t with
  | zero => rfl
  | succ fuel ih =>
      unfold advance
      rw [← agree it t h]
      cases moved : step it t with
      | mk answer u =>
          cases answer with
          | error e => rfl
          | ok it' =>
              dsimp only
              rw [ih (keep it t it' u h moved) u]

section Rule

variable {step : Step S σ ε α m} {P : Nat → Iterate S α m → Trace σ α → Prop}

/-- A property that each iteration keeps, with one iteration less to go, holds where the
loop ends: at an iterate with a verdict, or with all iterations used up, or before an
iteration that fails. -/
theorem advance_ends
    (keep : ∀ fuel it t it' t', P (fuel + 1) it t → it.stats.reason = .iterating →
      step it t = (.ok it', t') → P fuel it' t') :
    ∀ fuel it t, P fuel it t →
      (∃ left it' t', advance step fuel it t = (.ok it', t') ∧ P left it' t' ∧
        (left = 0 ∨ it'.stats.reason ≠ .iterating)) ∨
      ∃ left last u e t', advance step fuel it t = (.error e, t') ∧ P (left + 1) last u ∧
        last.stats.reason = .iterating ∧ step last u = (.error e, t') := by
  intro fuel
  induction fuel with
  | zero =>
      intro it t hP
      exact Or.inl ⟨0, it, t, rfl, hP, Or.inl rfl⟩
  | succ fuel ih =>
      intro it t hP
      by_cases hr : it.stats.reason = .iterating
      · cases hstep : step it t with
        | mk answer u =>
            cases answer with
            | error e =>
                have failed := advance_succ_error step fuel hr hstep
                exact Or.inr ⟨fuel, it, t, e, u, failed, hP, hr, hstep⟩
            | ok next =>
                rw [advance_succ_ok step fuel hr hstep]
                exact ih next u (keep fuel it t next u hP hr hstep)
      · have stopped := advance_of_verdict step (fuel + 1) hr t
        exact Or.inl ⟨fuel + 1, it, t, stopped, hP, Or.inr hr⟩

theorem advance_ok
    (keep : ∀ fuel it t it' t', P (fuel + 1) it t → it.stats.reason = .iterating →
      step it t = (.ok it', t') → P fuel it' t')
    {fuel : Nat} {it it' : Iterate S α m} {t t' : Trace σ α} (hP : P fuel it t)
    (h : advance step fuel it t = (.ok it', t')) :
    ∃ left, P left it' t' ∧ (left = 0 ∨ it'.stats.reason ≠ .iterating) := by
  rcases advance_ends keep fuel it t hP with
    ⟨left, last, u, ended, hP', stop⟩ | ⟨left, last, u, e, v, failed, -⟩
  · rw [h] at ended
    cases ended
    exact ⟨left, hP', stop⟩
  · rw [h] at failed
    cases failed

end Rule

/-! ## The whole solve -/

section Solve

variable [Scalar α]

/-- The iterate before the first iteration, on a guess with residual `r`. -/
def Method.first (M : Method S σ ε α n m) (criteria : Criteria α) (x : Vector α m)
    (r : Vector α n) : Iterate S α m :=
  ⟨x, criteria.stats (Flat.norm r) (Flat.norm r) 0, M.begin r (Flat.norm r)⟩

variable {M : Method S σ ε α n m} {A : Action σ ε α n} {criteria : Criteria α}
  {b : Vector α n} {x : Vector α m} {memory : σ}

/-- A solve with a record is a first residual and a loop that ends. -/
theorem Method.solve_ok {stats : Stats α}
    (h : (M.solve A criteria b x memory).result = .ok stats) :
    ∃ r t it u, residual A b x ⟨memory, #[]⟩ = (.ok r, t) ∧
      advance (M.step (Flat.norm r)) criteria.limit (M.first criteria x r)
        (t.note 0 (Flat.norm r)) = (.ok it, u) ∧
      it.stats = stats ∧
      M.solve A criteria b x memory = ⟨.ok it.stats, it.solution, u.history, u.memory⟩ := by
  unfold Method.solve at h ⊢
  split at h
  · cases h
  · next r t hres =>
      dsimp only at h ⊢
      split at h
      · cases h
      · next it u hrun =>
          exact ⟨r, t, it, u, hres, hrun, Except.ok.inj h, rfl⟩

/-- A residual that is computed took an image of its vector. -/
theorem residual_ok {r : Vector α n} {t u : Trace σ α} (h : residual A b x t = (.ok r, u)) :
    ∃ y, (A x.toArray (Flat.zero n) t.memory).1 = .ok y ∧ r = Flat.sub b y := by
  unfold residual at h
  split at h
  · cases h
  · next y v image =>
      cases h
      exact ⟨y, congrArg Prod.fst image, rfl⟩

/-- A residual that fails does so in the image of its vector. -/
theorem residual_error {e : ε} {t u : Trace σ α} (h : residual A b x t = (.error e, u)) :
    (A x.toArray (Flat.zero n) t.memory).1 = .error e := by
  unfold residual at h
  split at h
  · next e' v image =>
      cases h
      exact congrArg Prod.fst image
  · cases h

/-- A solve that fails leaves the guess, and fails in its first residual or in its loop. -/
theorem Method.solve_error {e : ε}
    (h : (M.solve A criteria b x memory).result = .error e) :
    (M.solve A criteria b x memory).solution = x ∧
      ((∃ t, residual A b x ⟨memory, #[]⟩ = (.error e, t)) ∨
        ∃ r t u, residual A b x ⟨memory, #[]⟩ = (.ok r, t) ∧
          advance (M.step (Flat.norm r)) criteria.limit (M.first criteria x r)
            (t.note 0 (Flat.norm r)) = (.error e, u)) := by
  unfold Method.solve at h ⊢
  split at h
  · next e' t hres =>
      cases h
      exact ⟨rfl, Or.inl ⟨t, hres⟩⟩
  · next r t hres =>
      dsimp only at h ⊢
      split at h
      · next e' u hrun =>
          cases h
          exact ⟨rfl, Or.inr ⟨r, t, u, hres, hrun⟩⟩
      · cases h

/-- Two methods that begin alike, and whose iterations agree where a property holds, which they
keep, make one solve. -/
theorem Method.solve_congr {M M' : Method S σ ε α n m} {P : Iterate S α m → Prop}
    (begin : M'.begin = M.begin) (first : ∀ r, P (M.first criteria x r))
    (agree : ∀ origin it t, P it → M.step origin it t = M'.step origin it t)
    (keep : ∀ origin it t it' t', P it → M.step origin it t = (.ok it', t') → P it') :
    M.solve A criteria b x memory = M'.solve A criteria b x memory := by
  unfold Method.solve
  cases residual A b x ⟨memory, #[]⟩ with
  | mk answer t =>
      cases answer with
      | error e => rfl
      | ok r =>
          have same := advance_congr (agree (Flat.norm r)) (keep (Flat.norm r)) criteria.limit
            (first r) (t.note 0 (Flat.norm r))
          unfold Method.first at same
          dsimp only
          rw [begin, same]

end Solve

end MatrixFree.Krylov
