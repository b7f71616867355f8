import MatrixFree.Operators.Flat
import MatrixFree.Proofs.Krylov.Mirror
import MatrixFree.Proofs.Krylov.Stored.Runs

/-!
# Cycles that the limit cuts short

A cycle of minimal residuals has at most as many basis vectors as the run has made iterations
(`MinimalResidual.Paced`).  So a cycle that is as long as the limit on the iterations is ended by
the limit, be it the first cycle or a later one, and the length that a cycle is allowed beyond the
limit is never asked for (`MinimalResidual.closes_restart`).

The storage of a cycle does have the length that is allowed.  The entries beyond the limit are zeros
that no iteration reads: on storage of either size a run leaves what the run on lists leaves.
-/

namespace MatrixFree.Krylov.MinimalResidual

variable {σ ε α : Type} [Scalar α] {m n : Nat} {A : Action σ (Failure ε) α n}
  {criteria : Criteria α} {restart : Nat} {b : Vector α n} {origin : α}
  {it it' : Iterate (Carried α n) α m} {t t' : Trace σ α}

/-- The basis of a cycle has no more vectors than iterations were made, over all cycles. -/
def Paced (it : Iterate (Carried α n) α m) : Prop :=
  it.carried.cycle.basis.length ≤ it.carried.iterations

theorem step_paced (paced : Paced it)
    (hstep : step A criteria restart b origin it t = (.ok it', t')) : Paced it' := by
  have outcome := iteration A criteria restart b origin it t
  rw [hstep] at outcome
  cases outcome with
  | grown room image more =>
      exact (Cycle.length_basis_grow ..).trans_le (Nat.succ_le_succ paced)
  | finished room image closed res => exact Nat.zero_le _

/-- Where a cycle is no longer than the run, its length meets the limit no sooner than the run
does. -/
theorem closes_restart {g : Grown α n} {i : Nat} (paced : g.cycle.basis.length ≤ i) :
    closes criteria (min restart criteria.limit) origin g i =
      closes criteria restart origin g i := by
  unfold closes
  by_cases live : criteria.check g.cycle.problem.residual origin i = .iterating
  · have below : i < criteria.limit := criteria.lt_limit_of_iterating live
    have full : min restart criteria.limit ≤ g.cycle.basis.length ↔
        restart ≤ g.cycle.basis.length := by omega
    simp only [full]
  · simp [live]

theorem step_restart (room : Storage.HasRoom (restart + 1) Storage.vectorBytes) (paced : Paced it) :
    step A criteria restart b origin it t =
      step A criteria (min restart criteria.limit) b origin it t := by
  have less : Storage.HasRoom (min restart criteria.limit + 1) Storage.vectorBytes :=
    Nat.le_trans (Nat.mul_le_mul_right _ (by omega)) room
  rw [step_eq, step_eq, Storage.reserve_of_hasRoom room, Storage.reserve_of_hasRoom less]
  dsimp only
  cases t.multiply A it.carried.basisVector with
  | mk answer u =>
      cases answer with
      | error e => rfl
      | ok w =>
          have longer := it.carried.cycle.length_basis_grow it.carried.basisVector w
          dsimp only
          rw [closes_restart (longer.trans_le (Nat.succ_le_succ paced))]

theorem solve_restart (A : Action σ (Failure ε) α n) (criteria : Criteria α)
    (room : Storage.HasRoom (restart + 1) Storage.vectorBytes) (b : Vector α n) (x : Vector α m)
    (memory : σ) :
    solve A criteria restart b x memory =
      solve A criteria (min restart criteria.limit) b x memory :=
  Method.solve_congr (P := Paced) rfl (fun _ => Nat.zero_le _) (fun _ _ _ => step_restart room)
    fun _ _ _ _ _ => step_paced

/-- **A cycle need not be longer than the run.**  Whatever the operator does and remembers, a solve
whose cycles may have `restart` basis vectors is the solve whose cycles may have as many as the
limit on the iterations, if that is less: the same record or failure, solution, history and memory,
and the same arrays multiplied, in the same order.  On storage, which is larger for the longer
cycles, the two leave the same as well. -/
theorem restart_beyond_limit (A : Action σ (Failure ε) α n) (criteria : Criteria α)
    (limited : 1 ≤ criteria.limit) (positive : 1 ≤ restart)
    (room : Storage.HasRoom (restart + 1) Storage.vectorBytes) (b : Vector α n) (x : Vector α m)
    (memory : σ) :
    let short := min restart criteria.limit
    solve A criteria restart b x memory = solve A criteria short b x memory ∧
      solve A.recorded criteria restart b x (memory, []) =
        solve A.recorded criteria short b x (memory, []) ∧
      ∀ divide, Stored.Divides divide criteria →
        Stored.MinimalResidual.solve divide (Stored.onArrays A) criteria restart b.toArray x.toArray
            memory =
          Stored.MinimalResidual.solve divide (Stored.onArrays A) criteria short b.toArray x.toArray
            memory := by
  intro short
  have same := solve_restart A criteria room b x memory
  refine ⟨same, solve_restart A.recorded criteria room b x (memory, []), ?_⟩
  intro divide divides
  have implements := Stored.implements_onArrays A
  rw [Stored.MinimalResidual.solve_eq divides implements positive,
    Stored.MinimalResidual.solve_eq divides implements (le_min positive limited), same]

/-- Thirty basis vectors and a limit of two iterations, which a system of three equations needs
more of. -/
theorem restart_beyond_limit_two :
    let A := Operators.Flat.action
      (.always (.rule (.dense #[[4.0, 1.0, 0.0], [1.0, 3.0, 1.0], [0.0, 1.0, 2.0]]))) 3
    let criteria : Criteria Float := ⟨1e-12, 1e-50, 1e5, 2⟩
    let b : Vector Float 3 := #v[1.0, 2.0, 4.0]
    let x : Vector Float 3 := Flat.zero 3
    let listed := solve A.recorded criteria 30 b x (0, [])
    (1 ≤ criteria.limit ∧ 1 ≤ 30 ∧ Storage.HasRoom (30 + 1) Storage.vectorBytes) ∧
      solve A criteria 30 b x 0 = solve A criteria 2 b x 0 ∧
      listed = solve A.recorded criteria 2 b x (0, []) ∧
      listed.result.toOption.map (fun s => (s.iterations, s.reason, listed.memory.2.length)) =
        some (2, .limit, 4) := by
  intro A criteria b x listed
  have room : Storage.HasRoom (30 + 1) Storage.vectorBytes := by decide
  obtain ⟨same, sameListed, -⟩ :=
    restart_beyond_limit A criteria (by decide) (by decide : 1 ≤ 30) room b x 0
  refine ⟨⟨by decide, by decide, room⟩, same, sameListed, ?_⟩
  decide +kernel

end MatrixFree.Krylov.MinimalResidual
