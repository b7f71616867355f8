import MatrixFree.Proofs.Engine.Configuration
import MatrixFree.Proofs.Krylov.Termination

/-!
# What a solve leaves

The solution vector of a solve with a handle is copied into the method, which works on its own
iterates, and copied back at the end.  Nothing of an iterate is left where the method failed:
a solve that does not reach its method leaves the solution as it was, one that fails in its
method leaves the guess, which is the solution or zeros, and only a solve with a verdict
leaves the last iterate, and a record that belongs to it (`Handle.Concludes`).

The handle keeps its operator, its scope and its settings in any case.
-/

namespace MatrixFree.Engine

open Options Krylov

namespace Handle

variable {γ σ : Type}

/-! ## Solves that do not reach their method -/

/-- The errors of a solve that does not reach its method. -/
inductive Refusal : EngineError → Prop where
  | wrongState (what : String) : Refusal (.wrongState what)
  | invalidArgument (what : String) : Refusal (.invalidArgument what)
  | sizeMismatch (expected found : Nat) : Refusal (.sizeMismatch expected found)

theorem refusal_of_checkReady {h : Handle γ σ} {e : EngineError}
    (refused : h.checkReady = .error e) : Refusal e := by
  unfold checkReady at refused
  split at refused
  · cases refused
    exact .wrongState _
  · split at refused
    · cases refused
      exact .wrongState _
    · split at refused
      · cases refused
      · next e' invalid =>
          cases refused
          unfold Settings.validate at invalid
          split_ifs at invalid
          · cases invalid
            exact .invalidArgument _
          · cases invalid
            exact .invalidArgument _

/-- A handle that is or can be made ready, and vectors that fit its operator: the method is run. -/
structure Reaches (h : Handle γ σ) (op : Shell γ σ) (b x : Slice) : Prop where
  bound : h.operator = some op
  solvable : h.Solvable
  rhs : b.size = op.size
  solution : x.size = op.size

/-! ## Solves that do -/

/-- The guess as a slice is the solution that was given, or zeros in its place. -/
theorem guess_slice (h : Handle γ σ) {n : Nat} {x : Slice} (hx : x.size = n) :
    (⟨(h.guess ⟨x.entries, hx⟩).toArray, x.globalSize⟩ : Slice) =
      if h.settings.keepGuess then x else x.fill 0.0 := by
  unfold guess
  split
  · rfl
  · subst hx
    exact congrArg (Slice.mk · x.globalSize) Array.map_const'.symm

/-- What a handle passes on of the report of its method, from a solve with solution `x`. -/
structure Passes (h : Handle γ σ) (x : Slice) {n : Nat}
    (report : Report σ (Failure EngineError) Float n) (out : Outcome γ σ) : Prop where
  result : out.result = report.result.map Stats.reason
  memory : out.memory = report.memory
  /-- Nothing of an iterate is left after a failure. -/
  failed : ∀ e, out.result = .error e → report.result = .error e ∧
    out.solution = (if h.settings.keepGuess then x else x.fill 0.0) ∧ out.handle.last = h.last
  /-- With a verdict come the last iterate and its record. -/
  ended : ∀ reason, out.result = .ok reason → ∃ stats, report.result = .ok stats ∧
    out.solution = ⟨report.solution.toArray, x.globalSize⟩ ∧ out.handle.last = some stats ∧
    stats.reason = reason ∧ out.handle.reason = reason

theorem passes_ofReport {h : Handle γ σ} {ready : Bool} {x : Slice} {n : Nat} (hx : x.size = n)
    {report : Report σ (Failure EngineError) Float n} (log : List Event)
    (untouched : ∀ e, report.result = .error e → report.solution = h.guess ⟨x.entries, hx⟩) :
    h.Passes x report
      { Outcome.ofReport { h with isSetUp := ready } x.globalSize report with log } := by
  refine ⟨Outcome.ofReport_result _ _ _, Outcome.ofReport_memory _ _ _, ?_, ?_⟩
  · intro e result
    dsimp only at result ⊢
    rw [Outcome.ofReport_result] at result
    have failed := error_of_map result
    rw [Outcome.ofReport_solution, Outcome.ofReport_handle, untouched e failed, guess_slice, failed]
    exact ⟨rfl, rfl, rfl⟩
  · intro reason result
    dsimp only at result ⊢
    rw [Outcome.ofReport_result] at result
    cases answer : report.result with
    | error e =>
        rw [answer] at result
        cases result
    | ok stats =>
        rw [answer] at result
        cases result
        rw [Outcome.ofReport_solution, Outcome.ofReport_handle, answer]
        exact ⟨stats, rfl, rfl, rfl, rfl, rfl⟩

/-- What becomes of a solve, from what is known beforehand. -/
structure Concludes (h : Handle γ σ) (b x : Slice) (memory : σ) (out : Outcome γ σ) : Prop where
  /-- The handle keeps its operator, its scope and its settings. -/
  frame : ∃ ready last, out.handle = { h with isSetUp := ready, last }
  refused : (∀ op, ¬h.Reaches op b x) → ∃ e, Refusal e ∧ out.result = .error (.error e) ∧
    out.solution = x ∧ out.memory = memory ∧ out.handle.last = h.last
  ran : ∀ op, ∀ fits : h.Reaches op b x,
    let rhs : Vector Float op.size := ⟨b.entries, fits.rhs⟩
    let start := h.guess ⟨x.entries, fits.solution⟩
    let report := runSolver h.settings op.apply rhs start memory
    h.Passes x report out ∧
      report.Blames start
        (fun e => e = .fault .capacityOverflow ∧ h.settings.solver = .minimalResidual ∧
          ¬Storage.HasRoom (h.settings.restart + 1) Storage.vectorBytes)
        (runSolver h.settings op.apply.answering rhs start (memory, []))

theorem Kept.concludes {h : Handle γ σ} (kept : h.Kept) (b x : Slice) (memory : σ) :
    h.Concludes b x memory (h.solve b x memory) := by
  obtain ⟨ready, last, frame, -⟩ := (h.solve_frame b x memory).1
  have solves := kept.solves b x memory
  generalize h.solve b x memory = out at frame solves
  refine ⟨⟨ready, last, frame⟩, ?_, ?_⟩
  · intro unreached
    cases solves with
    | @refused e off failed =>
        exact ⟨e, refusal_of_checkReady (setUp_of_error failed).2.1, rfl, rfl, rfl, rfl⟩
    | misfit => exact ⟨_, .sizeMismatch _ _, rfl, rfl, rfl, rfl⟩
    | @ran op log bound able admissible hb hx =>
        exact absurd ⟨bound, ⟨⟨op, bound, able⟩, admissible⟩, hb, hx⟩ (unreached op)
  · intro op fits rhs start report
    cases solves with
    | refused off failed => exact absurd fits.solvable (setUp_of_error failed).1
    | @misfit op' v log solvable bound first other =>
        obtain rfl : op' = op := Option.some.inj (bound.symm.trans fits.bound)
        rcases first with rfl | ⟨-, rfl⟩
        · exact absurd fits.rhs other
        · exact absurd fits.solution other
    | @ran op' log bound able admissible hb hx =>
        obtain rfl : op' = op := Option.some.inj (bound.symm.trans fits.bound)
        have blames := runSolver_blames op'.apply h.settings rhs start memory
        exact ⟨passes_ofReport hx log blames.untouched, blames⟩

/-- **Failures are contained.**  Each method, on any system and from any guess, ends with the
failure of the first application that fails, and the guess is then as it was; otherwise it ends
at its last iterate.  A handle, whatever was called on it before, passes this on: a solve that
does not reach its method leaves the solution as it was, one whose method fails leaves the
guess, a solve with a verdict leaves the last iterate with its record, and none of them changes
the operator, the scope or the settings. -/
theorem failures_contained {τ ε α : Type} [Scalar α] {m n : Nat} (A : Action τ (Failure ε) α n)
    (criteria : Criteria α) (restart : Nat) (rhs : Vector α n) (start : Vector α m) (before : τ)
    (comm : Communicator) (calls : List (Call γ σ)) (b x : Slice) (memory : σ) :
    ((ConjugateGradient.solve A criteria rhs start before).Blames start (fun _ => False)
        (ConjugateGradient.solve A.answering criteria rhs start (before, [])) ∧
      ∃ passed, (ConjugateGradient.method A criteria).Runs A criteria rhs start before passed
        (ConjugateGradient.solve A criteria rhs start before)) ∧
    ((BiconjugateGradient.solve A criteria rhs start before).Blames start (fun _ => False)
        (BiconjugateGradient.solve A.answering criteria rhs start (before, [])) ∧
      ∃ passed, (BiconjugateGradient.method A criteria).Runs A criteria rhs start before passed
        (BiconjugateGradient.solve A criteria rhs start before)) ∧
    ((MinimalResidual.solve A criteria restart rhs start before).Blames start
        (fun e => e = .fault .capacityOverflow ∧
          ¬Storage.HasRoom (restart + 1) Storage.vectorBytes)
        (MinimalResidual.solve A.answering criteria restart rhs start (before, [])) ∧
      ∃ passed, (MinimalResidual.method A criteria restart rhs).Runs A criteria rhs start before
        passed (MinimalResidual.solve A criteria restart rhs start before)) ∧
    let h : Handle γ σ := (create comm).afterAll calls
    h.Concludes b x memory (h.solve b x memory) := by
  refine ⟨⟨?_, ?_⟩, ⟨?_, ?_⟩, ⟨?_, ?_⟩, ?_⟩
  · exact ConjugateGradient.solve_blames A criteria rhs start before _
  · exact (ConjugateGradient.solve_runs A criteria rhs start before).imp fun _ => And.left
  · exact BiconjugateGradient.solve_blames A criteria rhs start before _
  · exact (BiconjugateGradient.solve_runs A criteria rhs start before).imp fun _ => And.left
  · exact MinimalResidual.solve_blames A criteria restart rhs start before fun full => ⟨rfl, full⟩
  · exact (MinimalResidual.solve_runs A criteria restart rhs start before).imp fun _ => And.left
  · exact (kept_afterAll calls (kept_create comm)).concludes b x memory

/-- An operator that fails at its third application, after the first iteration: minimal residuals
leave their guess, and a handle leaves zeros, since it does not keep the guess. -/
theorem failures_contained_midway :
    let staged : Operators.Staged Operators.Flat :=
      .switch 2 (.always (.rule (.dense #[[4.0, 1.0], [1.0, 3.0]])))
        (.always (.fails (.wrongState "no")))
    let A := Operators.Flat.action staged 2
    let criteria : Criteria Float := ⟨0.1, 1e-50, 1e5, 20⟩
    let b : Vector Float 2 := #v[1.0, 2.0]
    let x : Vector Float 2 := #v[5.0, 7.0]
    let report := MinimalResidual.solve A criteria 30 b x 0
    let op : Shell Unit Nat := ⟨.serial, 2, 2, (), some (Operators.Flat.multiply staged 2)⟩
    let h : Handle Unit Nat := (create .serial).afterAll [.setOperator op]
    let out := h.solve ⟨b.toArray, 2⟩ ⟨x.toArray, 2⟩ 0
    (report.result = .error (.error (.wrongState "no")) ∧ report.solution = x ∧
      (MinimalResidual.solve A.answering criteria 30 b x (0, [])).memory.2.length = 3) ∧
    h.Reaches op ⟨b.toArray, 2⟩ ⟨x.toArray, 2⟩ ∧
    out.result = .error (.error (.wrongState "no")) ∧
    out.solution = (⟨x.toArray, 2⟩ : Slice).fill 0.0 ∧ out.handle.last = none := by
  intro staged A criteria b x report op h out
  obtain ⟨-, -, ⟨blames, -⟩, concludes⟩ :=
    failures_contained A criteria 30 b x 0 .serial [.setOperator op] ⟨b.toArray, 2⟩ ⟨x.toArray, 2⟩ 0
  have third : ((MinimalResidual.solve A.answering criteria 30 b x (0, [])).memory.2[2]?).map
      (Except.map fun _ => ()) = some (.error (.error (.wrongState "no"))) := by
    decide +kernel
  obtain ⟨answer, listed, failed⟩ := Option.map_eq_some_iff.mp third
  obtain ⟨result, length⟩ := blames.failed 2 _ (listed.trans (congrArg some (error_of_map failed)))
  have admissible : h.settings.Admissible := Settings.validate_eq_ok_iff.mp (by decide +kernel)
  have reaches : h.Reaches op ⟨b.toArray, 2⟩ ⟨x.toArray, 2⟩ :=
    ⟨rfl, ⟨⟨op, rfl, rfl⟩, admissible⟩, rfl, rfl⟩
  have answered : out.result = .error (.error (.wrongState "no")) := by decide +kernel
  obtain ⟨-, solution, last⟩ := (concludes.ran op reaches).1.failed _ answered
  exact ⟨⟨result, blames.untouched _ result, length⟩, reaches, answered, solution, last⟩

end Handle

end MatrixFree.Engine
