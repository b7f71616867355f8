import MatrixFree.Operators.Flat
import MatrixFree.Proofs.Krylov.Iteration
import MatrixFree.Proofs.Krylov.Loop

/-!
# The verdict of a run

A run ends with a record, and this module says how far the record can be trusted: its reason
is what `Criteria.check` answers for the very residual and count that stand beside it, or
else `check` has no verdict on them and the method itself gave up.

The loop invariant is `Sound`.  It ties the iterations made to the iterations left, through
a count that a method names: the record's own for the short recurrences, and the carried one
for minimal residuals, whose record is renewed at the end of a cycle only.
-/

namespace MatrixFree.Krylov

variable {σ ε α S : Type} [Scalar α] {m n : Nat}

/-! ## What a test answers -/

/-- The answers of a test: its five verdicts, and that there is none. -/
def Reason.answers : List Reason := [.notFinite, .relative, .absolute, .growth, .limit, .iterating]

/-- The verdicts that a method may reach without the test. -/
def Reason.breakdowns : List Reason := [.breakdown, .shadowBreakdown, .indefinite, .notFinite]

theorem Reason.of_mem_answers {r : Reason} (h : r ∈ answers) :
    r ≠ .null ∧ r ≠ .happyBreakdown ∧ r ∉ [.breakdown, .shadowBreakdown, .indefinite] := by
  revert h
  cases r <;> decide

theorem Reason.of_mem_breakdowns {r : Reason} (h : r ∈ breakdowns) :
    r ≠ .null ∧ r ≠ .happyBreakdown ∧ r ≠ .limit ∧ ¬r.isConverged = true := by
  revert h
  cases r <;> decide

theorem Criteria.check_mem (c : Criteria α) (res res0 : α) (i : Nat) :
    c.check res res0 i ∈ Reason.answers := by
  unfold Criteria.check
  repeat' split
  all_goals decide

theorem Criteria.lt_limit_of_iterating {c : Criteria α} {res res0 : α} {i : Nat}
    (h : c.check res res0 i = .iterating) : i < c.limit := by
  unfold Criteria.check at h
  by_cases hi : c.limit ≤ i
  · rw [if_pos hi] at h
    repeat' split at h
    all_goals cases h
  · exact Nat.lt_of_not_le hi

theorem Criteria.limit_le_of_limit {c : Criteria α} {res res0 : α} {i : Nat}
    (h : c.check res res0 i = .limit) : c.limit ≤ i := by
  unfold Criteria.check at h
  by_cases hi : c.limit ≤ i
  · exact hi
  · rw [if_neg hi] at h
    repeat' split at h
    all_goals cases h

/-! ## Records -/

/-- The reason of a record is the test's answer, or one of `own` where the test has no verdict. -/
def Stats.Judged (criteria : Criteria α) (origin : α) (own : List Reason) (s : Stats α) : Prop :=
  s.reason = criteria.check s.residual origin s.iterations ∨
    criteria.check s.residual origin s.iterations = .iterating ∧ s.reason ∈ own

section Judged

variable {criteria : Criteria α} {origin : α} {own : List Reason}

theorem Criteria.stats_judged (criteria : Criteria α) (res origin : α) (i : Nat) :
    (criteria.stats res origin i).Judged criteria origin own := Or.inl rfl

theorem Stats.Judged.check_eq_iterating {s : Stats α} (h : s.Judged criteria origin own)
    (live : s.reason = .iterating) :
    criteria.check s.residual origin s.iterations = .iterating := by
  rcases h with granted | ⟨undecided, _⟩
  · rw [← granted, live]
  · exact undecided

/-- Giving up on a record without a verdict leaves it judged. -/
theorem Stats.Judged.stopped {s : Stats α} (h : s.Judged criteria origin own)
    (live : s.reason = .iterating) {reason : Reason} (mem : reason ∈ own) :
    (s.stopped reason).Judged criteria origin own :=
  Or.inr ⟨h.check_eq_iterating live, mem⟩

/-- What a final record says about its run. -/
structure Stats.Honest (criteria : Criteria α) (origin : α) (own : List Reason) (s : Stats α) :
    Prop where
  /-- The test has a verdict and the record carries it, or it has none and the method gave up. -/
  judged :
    criteria.check s.residual origin s.iterations ≠ .iterating ∧
        s.reason = criteria.check s.residual origin s.iterations ∨
      criteria.check s.residual origin s.iterations = .iterating ∧ s.reason ∈ own
  ended : s.reason ≠ .iterating ∧ s.reason ≠ .null ∧ s.reason ≠ .happyBreakdown
  granted : s.reason.isConverged = true →
    criteria.check s.residual origin s.iterations = s.reason
  within : s.iterations ≤ criteria.limit
  limited : s.reason = .limit → s.iterations = criteria.limit
  /-- A method gives up only before the limit. -/
  early : criteria.check s.residual origin s.iterations = .iterating →
    s.iterations < criteria.limit
  broken : s.reason ∈ [.breakdown, .shadowBreakdown, .indefinite] →
    s.iterations < criteria.limit

/-- A judged record with a verdict, within the limit, is honest. -/
theorem Stats.Judged.honest {s : Stats α} (h : s.Judged criteria origin own)
    (proper : own ⊆ Reason.breakdowns) (ended : s.reason ≠ .iterating)
    (within : s.iterations ≤ criteria.limit) : s.Honest criteria origin own := by
  have early : criteria.check s.residual origin s.iterations = .iterating →
      s.iterations < criteria.limit := Criteria.lt_limit_of_iterating
  rcases h with granted | ⟨undecided, given⟩
  · have answer := criteria.check_mem s.residual origin s.iterations
    rw [← granted] at answer
    obtain ⟨notNull, notHappy, notBroken⟩ := Reason.of_mem_answers answer
    refine ⟨Or.inl ⟨granted ▸ ended, granted⟩, ⟨ended, notNull, notHappy⟩, fun _ => granted.symm,
      within, ?_, early, fun broken => absurd broken notBroken⟩
    intro limited
    have reached := Criteria.limit_le_of_limit (granted ▸ limited)
    omega
  · obtain ⟨notNull, notHappy, notLimit, notConverged⟩ := Reason.of_mem_breakdowns (proper given)
    exact ⟨Or.inr ⟨undecided, given⟩, ⟨ended, notNull, notHappy⟩,
      fun converged => absurd converged notConverged, within,
      fun limited => absurd limited notLimit, early, fun _ => early undecided⟩

end Judged

/-! ## The loop invariant -/

/-- An iterate on the way: its record is judged, and while there is no verdict, the iterations that
`count` tells and those that are left make up the limit, with at least one of them left. -/
structure Sound (criteria : Criteria α) (origin : α) (own : List Reason)
    (count : Iterate S α m → Nat) (left : Nat) (it : Iterate S α m) : Prop where
  judged : it.stats.Judged criteria origin own
  within : it.stats.iterations ≤ criteria.limit
  pace : it.stats.reason = .iterating → count it + left = criteria.limit
  live : it.stats.reason = .iterating → count it < criteria.limit

section Sound

variable {criteria : Criteria α} {origin : α} {own : List Reason} {count : Iterate S α m → Nat}

/-- A record with a verdict says nothing about the iterations left. -/
theorem Sound.of_verdict {left : Nat} {it : Iterate S α m}
    (judged : it.stats.Judged criteria origin own) (within : it.stats.iterations ≤ criteria.limit)
    (verdict : it.stats.reason ≠ .iterating) : Sound criteria origin own count left it :=
  ⟨judged, within, fun h => absurd h verdict, fun h => absurd h verdict⟩

/-- A fresh record of the test is sound if its count is in step. -/
theorem Sound.of_stats {left i : Nat} {it : Iterate S α m} {res : α}
    (fresh : it.stats = criteria.stats res origin i) (step : i + left = criteria.limit)
    (counted : count it = i) : Sound criteria origin own count left it := by
  refine ⟨fresh ▸ criteria.stats_judged res origin i, ?_, fun _ => counted ▸ step, ?_⟩
  · rw [fresh]
    exact Nat.le.intro step
  · intro live
    rw [fresh] at live
    exact counted ▸ Criteria.lt_limit_of_iterating live

variable {M : Method S σ ε α n m} {A : Action σ ε α n} {b : Vector α n} {x : Vector α m}
  {memory : σ}

/-- A method whose iterations keep soundness ends with honest records. -/
theorem Method.solve_honest (proper : own ⊆ Reason.breakdowns)
    (start : ∀ r, count (M.first criteria x r) = 0)
    (keep : ∀ origin left it t it' t', Sound criteria origin own count (left + 1) it →
      it.stats.reason = .iterating → M.step origin it t = (.ok it', t') →
      Sound criteria origin own count left it')
    {stats : Stats α} (h : (M.solve A criteria b x memory).result = .ok stats) :
    ∃ r, (residual A b x ⟨memory, #[]⟩).1 = .ok r ∧
      stats.Honest criteria (Flat.norm r) own := by
  obtain ⟨r, t, it, u, hres, hrun, rfl, -⟩ := Method.solve_ok h
  refine ⟨r, by rw [hres], ?_⟩
  have first : Sound criteria (Flat.norm r) own count criteria.limit (M.first criteria x r) :=
    .of_stats rfl (Nat.zero_add _) (start r)
  obtain ⟨left, sound, stop⟩ :=
    advance_ok (P := fun left it _ => Sound criteria (Flat.norm r) own count left it)
      (keep (Flat.norm r)) first hrun
  have ended : it.stats.reason ≠ .iterating := by
    intro live
    rcases stop with rfl | verdict
    · have pace := sound.pace live
      have before := sound.live live
      omega
    · exact verdict live
  exact sound.judged.honest proper ended sound.within

theorem Reason.ne_iterating_of_mem {own : List Reason} (proper : own ⊆ Reason.breakdowns)
    {reason : Reason} (mem : reason ∈ own) : reason ≠ .iterating := by
  rintro rfl
  have given := proper mem
  revert given
  decide

/-- A run that gives up at an iterate without a verdict. -/
theorem Sound.stopped {left : Nat} {it : Iterate S α m}
    (h : Sound criteria origin own count left it) (live : it.stats.reason = .iterating)
    (proper : own ⊆ Reason.breakdowns) {reason : Reason}
    (mem : reason ∈ own) (left' : Nat) :
    Sound criteria origin own count left' { it with stats := it.stats.stopped reason } :=
  .of_verdict (h.judged.stopped live mem) h.within (Reason.ne_iterating_of_mem proper mem)

/-- A fresh record of the test, on which the method gives up if the test has no verdict. -/
theorem Sound.of_closing {left i : Nat} {it : Iterate S α m} {res : α} {exhausted : Bool}
    {reason : Reason} (proper : own ⊆ Reason.breakdowns) (mem : reason ∈ own)
    (closing : it.stats =
      if (criteria.stats res origin i).reason = .iterating && exhausted then
        (criteria.stats res origin i).stopped reason
      else criteria.stats res origin i)
    (step : i + left = criteria.limit) (counted : count it = i) :
    Sound criteria origin own count left it := by
  split at closing
  · next given =>
      rw [Bool.and_eq_true, decide_eq_true_iff] at given
      refine .of_verdict ?_ ?_ ?_
      · rw [closing]
        exact (criteria.stats_judged res origin i).stopped given.1 mem
      · rw [closing]
        exact Nat.le.intro step
      · rw [closing]
        exact Reason.ne_iterating_of_mem proper mem
  · exact .of_stats closing step counted

end Sound

/-! ## The three methods -/

namespace ConjugateGradient

/-- The verdicts of conjugate gradients that are not the test's. -/
def breakdowns : List Reason := [.breakdown, .indefinite, .notFinite]

theorem breakdowns_subset : breakdowns ⊆ Reason.breakdowns := by decide

theorem step_sound {A : Action σ ε α n} {criteria : Criteria α} {origin : α} {left : Nat}
    {it it' : Iterate (Carried α n) α m} {t t' : Trace σ α}
    (h : Sound criteria origin breakdowns (fun it => it.stats.iterations) (left + 1) it)
    (live : it.stats.reason = .iterating) (hstep : step A criteria origin it t = (.ok it', t')) :
    Sound criteria origin breakdowns (fun it => it.stats.iterations) left it' := by
  have outcome := iteration A criteria origin it t
  rw [hstep] at outcome
  cases outcome with
  | stopped image curvature =>
      exact h.stopped live breakdowns_subset (curvatureVerdict_mem curvature) left
  | moved image curvature =>
      have pace := h.pace live
      exact .of_stats rfl (by omega) rfl

end ConjugateGradient

namespace BiconjugateGradient

/-- The verdict of biconjugate gradients that is not the test's. -/
def breakdowns : List Reason := [.shadowBreakdown]

theorem breakdowns_subset : breakdowns ⊆ Reason.breakdowns := by decide

theorem stabilize_residual (criteria : Criteria α) (origin : α) (x : Vector α m) (c : Carried α n)
    (s t : Vector α n) (tt : α) (i : Nat) :
    (stabilize criteria origin x c s t tt i).stats.residual =
      Flat.norm (Flat.subMul s (Flat.dot t s / tt) t) := by
  unfold stabilize
  dsimp only
  split <;> rfl

theorem stabilize_iterations (criteria : Criteria α) (origin : α) (x : Vector α m) (c : Carried α n)
    (s t : Vector α n) (tt : α) (i : Nat) :
    (stabilize criteria origin x c s t tt i).stats.iterations = i := by
  unfold stabilize
  dsimp only
  split <;> rfl

theorem step_sound {A : Action σ ε α n} {criteria : Criteria α} {origin : α} {left : Nat}
    {it it' : Iterate (Carried α n) α m} {t t' : Trace σ α}
    (h : Sound criteria origin breakdowns (fun it => it.stats.iterations) (left + 1) it)
    (live : it.stats.reason = .iterating) (hstep : step A criteria origin it t = (.ok it', t')) :
    Sound criteria origin breakdowns (fun it => it.stats.iterations) left it' := by
  have pace := h.pace live
  have outcome := iteration A criteria origin it t
  rw [hstep] at outcome
  cases outcome with
  | orthogonal vanished => exact h.stopped live breakdowns_subset (by decide) left
  | blocked product first length => exact h.stopped live breakdowns_subset (by decide) left
  | spent product first length unconverged second vanished =>
      exact h.stopped live breakdowns_subset (by decide) left
  | halved product first length converged => exact .of_stats rfl (by omega) rfl
  | stabilized product first length unconverged second square =>
      exact .of_closing breakdowns_subset (by decide) rfl (by omega) (stabilize_iterations ..)

end BiconjugateGradient

namespace MinimalResidual

/-- The verdict of minimal residuals that is not the test's. -/
def breakdowns : List Reason := [.breakdown]

theorem breakdowns_subset : breakdowns ⊆ Reason.breakdowns := by decide

/-- Between two cycles the record is the one of the last cycle's end, so the count is the
carried one. A cycle goes on only while the estimate has no verdict either, hence below the
limit. -/
theorem step_sound {A : Action σ (Failure ε) α n} {criteria : Criteria α} {restart : Nat}
    {b : Vector α n} {origin : α} {left : Nat} {it it' : Iterate (Carried α n) α m}
    {t t' : Trace σ α}
    (h : Sound criteria origin breakdowns (fun it => it.carried.iterations) (left + 1) it)
    (live : it.stats.reason = .iterating)
    (hstep : step A criteria restart b origin it t = (.ok it', t')) :
    Sound criteria origin breakdowns (fun it => it.carried.iterations) left it' := by
  have pace := h.pace live
  have outcome := iteration A criteria restart b origin it t
  rw [hstep] at outcome
  cases outcome with
  | grown room image more =>
      have undecided := check_of_not_closes more
      exact ⟨h.judged, h.within, fun _ => by dsimp only; omega,
        fun _ => Criteria.lt_limit_of_iterating undecided⟩
  | finished room image closed res =>
      exact .of_closing breakdowns_subset (by decide) rfl (by omega) rfl

end MinimalResidual

/-! ## Every solve -/

/-- Whenever the solve answered a record, there was a first residual, and the record is
honest about the run that began with it. -/
def Report.Honest (criteria : Criteria α) (own : List Reason) (first : Except ε (Vector α n))
    (report : Report σ ε α m) : Prop :=
  ∀ stats, report.result = .ok stats →
    ∃ r, first = .ok r ∧ stats.Honest criteria (Flat.norm r) own

/-- **Verdicts are honest.**  Whatever the operator does, nonlinear, with a memory, failing
or full of NaNs, a record of any of the three methods has the reason that the test gives to
the residual and the count in it, or the test has no verdict there and the reason is one of
the method's own. -/
theorem solve_verdict (A : Action σ (Failure ε) α n) (criteria : Criteria α) (restart : Nat)
    (b : Vector α n) (x : Vector α m) (memory : σ) :
    let first := (residual A b x ⟨memory, #[]⟩).1
    (MinimalResidual.solve A criteria restart b x memory).Honest criteria [.breakdown] first ∧
      (ConjugateGradient.solve A criteria b x memory).Honest criteria
        [.breakdown, .indefinite, .notFinite] first ∧
      (BiconjugateGradient.solve A criteria b x memory).Honest criteria [.shadowBreakdown]
        first := by
  refine ⟨?_, ?_, ?_⟩
  · intro stats h
    exact Method.solve_honest MinimalResidual.breakdowns_subset (fun _ => rfl)
      (fun _ _ _ _ _ _ => MinimalResidual.step_sound) h
  · intro stats h
    exact Method.solve_honest ConjugateGradient.breakdowns_subset (fun _ => rfl)
      (fun _ _ _ _ _ _ => ConjugateGradient.step_sound) h
  · intro stats h
    exact Method.solve_honest BiconjugateGradient.breakdowns_subset (fun _ => rfl)
      (fun _ _ _ _ _ _ => BiconjugateGradient.step_sound) h

/-- Three honest records for one negative factor: two methods converge on it, and conjugate
gradients give up in their first iteration, with the count and the residual of the guess. -/
theorem solve_verdict_negative :
    let A := Operators.Flat.action (.always (.rule (.scale (-2.0)))) 1
    let criteria : Criteria Float := ⟨1e-5, 1e-50, 1e5, 10⟩
    let b : Vector Float 1 := #v[3.0]
    let first := (residual A b (Flat.zero 1) ⟨0, #[]⟩).1
    (∃ s, (MinimalResidual.solve A criteria 30 b (Flat.zero 1) 0).result = .ok s ∧
        s.reason = .relative ∧ ∃ r, first = .ok r ∧ s.Honest criteria (Flat.norm r) [.breakdown]) ∧
      (∃ s, (ConjugateGradient.solve A criteria b (Flat.zero 1) 0).result = .ok s ∧
        s.reason = .indefinite ∧ s.iterations = 0 ∧
        ∃ r, first = .ok r ∧
          s.Honest criteria (Flat.norm r) [.breakdown, .indefinite, .notFinite]) ∧
      ∃ s, (BiconjugateGradient.solve A criteria b (Flat.zero 1) 0).result = .ok s ∧
        s.reason = .relative ∧
        ∃ r, first = .ok r ∧ s.Honest criteria (Flat.norm r) [.shadowBreakdown] := by
  intro A criteria b first
  obtain ⟨minimal, conjugate, biconjugate⟩ := solve_verdict A criteria 30 b (Flat.zero 1) 0
  refine ⟨?_, ?_, ?_⟩
  · obtain ⟨s, h, reason⟩ := exists_ok_of_any (p := fun s => s.reason == .relative)
      (show (MinimalResidual.solve A criteria 30 b (Flat.zero 1) 0).result.toOption.any _ = true by
        decide +kernel)
    exact ⟨s, h, eq_of_beq reason, minimal s h⟩
  · obtain ⟨s, h, reason⟩ :=
      exists_ok_of_any (p := fun s => s.reason == .indefinite && s.iterations == 0)
      (show (ConjugateGradient.solve A criteria b (Flat.zero 1) 0).result.toOption.any _ = true by
        decide +kernel)
    rw [Bool.and_eq_true] at reason
    exact ⟨s, h, eq_of_beq reason.1, eq_of_beq reason.2, conjugate s h⟩
  · obtain ⟨s, h, reason⟩ := exists_ok_of_any (p := fun s => s.reason == .relative)
      (show (BiconjugateGradient.solve A criteria b (Flat.zero 1) 0).result.toOption.any _ = true by
        decide +kernel)
    exact ⟨s, h, eq_of_beq reason, biconjugate s h⟩

end MatrixFree.Krylov
