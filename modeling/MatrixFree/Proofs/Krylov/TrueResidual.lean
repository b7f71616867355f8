import MatrixFree.Operators.Flat
import MatrixFree.Proofs.Krylov.Verdict

/-!
# The residual that minimal residuals report

Within a cycle of minimal residuals the residual is only estimated, and the estimate can be
as wrong as rounding makes it.  It never reaches the record.  The invariant is that the
residual in the record is the norm of a residual computed from the iterate that stands
beside it (`Synced`): an iteration inside a cycle changes neither of the two, and the end of
a cycle renews both together.
-/

namespace MatrixFree.Krylov

variable {σ ε α : Type} {m n : Nat}

/-- What the operator answers does not depend on its memory. -/
def Action.Stateless (A : Action σ ε α n) : Prop :=
  ∀ x y memory memory', (A x y memory).1 = (A x y memory').1

section Residual

variable [Scalar α]

/-- Without a memory of its operator, a residual is the same whenever it is computed. -/
theorem Action.Stateless.residual_eq {A : Action σ ε α n} (h : A.Stateless) (b : Vector α n)
    (x : Vector α m) (t u : Trace σ α) : (residual A b x t).1 = (residual A b x u).1 := by
  have same : (t.multiply A x).1 = (u.multiply A x).1 := h x.toArray (Flat.zero n) t.memory u.memory
  unfold residual
  rcases ht : t.multiply A x with ⟨answer, t'⟩
  rcases hu : u.multiply A x with ⟨answer', u'⟩
  rw [ht, hu] at same
  obtain rfl : answer = answer' := same
  cases answer <;> rfl

namespace MinimalResidual

/-- The residual in the record is the norm of one computed from the iterate. -/
def Synced (A : Action σ ε α n) (b : Vector α n) (x : Vector α m) (stats : Stats α) : Prop :=
  ∃ r t, (residual A b x t).1 = .ok r ∧ stats.residual = Flat.norm r

theorem step_synced {A : Action σ (Failure ε) α n} {criteria : Criteria α} {restart : Nat}
    {b : Vector α n} {origin : α} {it it' : Iterate (Carried α n) α m} {t t' : Trace σ α}
    (h : Synced A b it.solution it.stats)
    (hstep : step A criteria restart b origin it t = (.ok it', t')) :
    Synced A b it'.solution it'.stats := by
  have outcome := iteration A criteria restart b origin it t
  rw [hstep] at outcome
  cases outcome with
  | grown room image more => exact h
  | finished room image closed res => exact ⟨_, _, congrArg Prod.fst res, closingStats_residual ..⟩

theorem solve_synced {A : Action σ (Failure ε) α n} {criteria : Criteria α} {restart : Nat}
    {b : Vector α n} {x : Vector α m} {memory : σ} {stats : Stats α}
    (h : (solve A criteria restart b x memory).result = .ok stats) :
    Synced A b (solve A criteria restart b x memory).solution stats := by
  obtain ⟨r, t, it, u, hres, hrun, rfl, hreport⟩ := Method.solve_ok h
  have first : Synced A b x (criteria.stats (Flat.norm r) (Flat.norm r) 0) :=
    ⟨r, ⟨memory, #[]⟩, congrArg Prod.fst hres, rfl⟩
  obtain ⟨left, synced, -⟩ :=
    advance_ok (P := fun _ it _ => Synced A b it.solution it.stats)
      (fun _ _ _ _ _ h _ hstep => step_synced h hstep) first hrun
  have solved : (solve A criteria restart b x memory).solution = it.solution :=
    congrArg Report.solution hreport
  rw [solved]
  exact synced

/-- **The true residual decides.**  A record of minimal residuals holds the norm of the
residual of the very solution that is returned with it, whatever the estimates within the
cycles were; and a verdict of success is the test's on that norm. -/
theorem solve_residual {A : Action σ (Failure ε) α n} (stateless : A.Stateless)
    (criteria : Criteria α) (restart : Nat) (b : Vector α n) (x : Vector α m) (memory : σ)
    {stats : Stats α} (h : (solve A criteria restart b x memory).result = .ok stats)
    (t : Trace σ α) :
    ∃ r₀ r, (residual A b x t).1 = .ok r₀ ∧
      (residual A b (solve A criteria restart b x memory).solution t).1 = .ok r ∧
      stats.residual = Flat.norm r ∧
      (stats.converged = true →
        criteria.check (Flat.norm r) (Flat.norm r₀) stats.iterations = stats.reason) := by
  obtain ⟨r₀, hfirst, honest⟩ :=
    Method.solve_honest breakdowns_subset (fun _ => rfl) (fun _ _ _ _ _ _ => step_sound) h
  obtain ⟨r, u, hlast, hnorm⟩ := solve_synced h
  refine ⟨r₀, r, ?_, ?_, hnorm, ?_⟩
  · rw [stateless.residual_eq b x t ⟨memory, #[]⟩]
    exact hfirst
  · rw [stateless.residual_eq b _ t u]
    exact hlast
  · intro converged
    rw [← hnorm]
    exact honest.granted converged

/-- Two cycles of one basis vector each on a system of two equations. -/
theorem solve_residual_dense :
    let A := Operators.Flat.action (.always (.rule (.dense #[[4.0, 1.0], [1.0, 3.0]]))) 2
    let criteria : Criteria Float := ⟨0.1, 1e-50, 1e5, 20⟩
    let b : Vector Float 2 := #v[1.0, 2.0]
    let report := solve A criteria 1 b (Flat.zero 2) 0
    A.Stateless ∧ ∃ stats, report.result = .ok stats ∧ stats.iterations = 2 ∧
      stats.converged = true ∧ ∃ r₀ r, (residual A b (Flat.zero 2) ⟨0, #[]⟩).1 = .ok r₀ ∧
        (residual A b report.solution ⟨0, #[]⟩).1 = .ok r ∧ stats.residual = Flat.norm r ∧
        criteria.check (Flat.norm r) (Flat.norm r₀) stats.iterations = stats.reason := by
  intro A criteria b report
  have stateless : A.Stateless := fun _ _ _ _ => rfl
  have run : report.result.toOption.any
      (fun s => s.iterations == 2 && s.converged) = true := by decide +kernel
  obtain ⟨stats, h, two⟩ := exists_ok_of_any run
  rw [Bool.and_eq_true, beq_iff_eq] at two
  obtain ⟨r₀, r, hfirst, hlast, hnorm, granted⟩ :=
    solve_residual stateless criteria 1 b (Flat.zero 2) 0 h ⟨0, #[]⟩
  exact ⟨stateless, stats, h, two.1, two.2, r₀, r, hfirst, hlast, hnorm, granted two.2⟩

end MinimalResidual

end Residual

end MatrixFree.Krylov
