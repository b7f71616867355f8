import MatrixFree.Engine.Handle
import MatrixFree.Proofs.Krylov.Failures
import MatrixFree.Proofs.Krylov.Mirror
import MatrixFree.Proofs.Krylov.TrueResidual

/-!
# Solves with a handle

A solve with a handle changes little: the record of the last solve, and whether the handle
is set up (`Handle.solve_frame`).  Unless the settings keep the guess, it reads even less of
what came before: neither the record nor the entries of the solution vector
(`Handle.solve_agree`), so that a solve after any solves answers what it would have answered
first.
-/

namespace MatrixFree.Engine

open Options Krylov

/-! ## The chosen method -/

section Chosen

variable {σ τ ε : Type} {n : Nat}

theorem runSolver_mirrors {R : σ → τ → Prop} {A : Action σ (Failure ε) Float n}
    {B : Action τ (Failure ε) Float n} (ops : A.Mirrors R B) (s : Settings) (b x : Vector Float n)
    {memory : σ} {memory' : τ} (related : R memory memory') :
    (runSolver s A b x memory).Mirrors R (runSolver s B b x memory') := by
  unfold runSolver
  cases s.solver with
  | minimalResidual =>
      exact MinimalResidual.solve_mirrors ops ops s.criteria s.restart b x related
  | conjugateGradient => exact ConjugateGradient.solve_mirrors ops ops s.criteria b x related
  | biconjugateGradient => exact BiconjugateGradient.solve_mirrors ops ops s.criteria b x related

theorem runSolver_leaves {Good : σ → Prop} {Bad : Failure ε → σ → Prop}
    {A : Action σ (Failure ε) Float n} (ops : A.Leaves Good Bad) {s : Settings}
    (full : s.solver = .minimalResidual →
      ¬Storage.HasRoom (s.restart + 1) Storage.vectorBytes →
      ∀ memory, Good memory → Bad (.fault .capacityOverflow) memory)
    (b x : Vector Float n) {memory : σ} (good : Good memory) :
    (runSolver s A b x memory).Leaves Good Bad := by
  unfold runSolver
  cases choice : s.solver with
  | minimalResidual => exact MinimalResidual.solve_leaves ops ops (full choice) s.criteria b x good
  | conjugateGradient => exact ConjugateGradient.solve_leaves ops ops s.criteria b x good
  | biconjugateGradient => exact BiconjugateGradient.solve_leaves ops ops s.criteria b x good

theorem runSolver_failsOnly {P : Failure ε → Prop} {A : Action σ (Failure ε) Float n}
    (ops : A.FailsOnly P) (room : P (.fault .capacityOverflow)) {s : Settings}
    {b x : Vector Float n} {memory : σ} {e : Failure ε}
    (failed : (runSolver s A b x memory).result = .error e) : P e :=
  (runSolver_leaves ops.leaves (fun _ _ _ _ => room) b x trivial).2 e failed

/-- A record has a verdict. -/
theorem runSolver_ended {A : Action σ (Failure ε) Float n} {s : Settings} {b x : Vector Float n}
    {memory : σ} {stats : Stats Float} (h : (runSolver s A b x memory).result = .ok stats) :
    stats.reason ≠ .iterating := by
  unfold runSolver at h
  cases choice : s.solver with
  | minimalResidual =>
      rw [choice] at h
      obtain ⟨r, -, honest⟩ := Method.solve_honest MinimalResidual.breakdowns_subset
        (fun _ => rfl) (fun _ _ _ _ _ _ => MinimalResidual.step_sound) h
      exact honest.ended.1
  | conjugateGradient =>
      rw [choice] at h
      obtain ⟨r, -, honest⟩ := Method.solve_honest ConjugateGradient.breakdowns_subset
        (fun _ => rfl) (fun _ _ _ _ _ _ => ConjugateGradient.step_sound) h
      exact honest.ended.1
  | biconjugateGradient =>
      rw [choice] at h
      obtain ⟨r, -, honest⟩ := Method.solve_honest BiconjugateGradient.breakdowns_subset
        (fun _ => rfl) (fun _ _ _ _ _ _ => BiconjugateGradient.step_sound) h
      exact honest.ended.1

/-- Whatever the settings choose, the run is that of a method. -/
theorem exists_runSolver_eq (s : Settings) (A : Action σ (Failure ε) Float n)
    (b x : Vector Float n) (memory : σ) :
    ∃ (S : Type) (M : Method S σ (Failure ε) Float n n),
      runSolver s A b x memory = M.solve A s.criteria b x memory := by
  unfold runSolver
  cases s.solver with
  | minimalResidual => exact ⟨_, MinimalResidual.method A s.criteria s.restart b, rfl⟩
  | conjugateGradient => exact ⟨_, ConjugateGradient.method A s.criteria, rfl⟩
  | biconjugateGradient => exact ⟨_, BiconjugateGradient.method A s.criteria, rfl⟩

section Report

variable {s : Settings} {A : Action σ (Failure ε) Float n} {b x : Vector Float n} {memory : σ}

/-- A solve with a record has multiplied its guess. -/
theorem runSolver_ok {stats : Stats Float} (h : (runSolver s A b x memory).result = .ok stats) :
    ∃ y, (A x.toArray (Flat.zero n) memory).1 = .ok y := by
  obtain ⟨S, M, run⟩ := exists_runSolver_eq s A b x memory
  rw [run] at h
  obtain ⟨r, t, it, u, hres, -⟩ := Method.solve_ok h
  obtain ⟨y, image, -⟩ := residual_ok hres
  exact ⟨y, image⟩

/-- A run without a record returns its guess. -/
theorem runSolver_error {e : Failure ε} (failed : (runSolver s A b x memory).result = .error e) :
    (runSolver s A b x memory).solution = x := by
  obtain ⟨S, M, run⟩ := exists_runSolver_eq s A b x memory
  rw [run] at failed ⊢
  exact (Method.solve_error failed).1

end Report

end Chosen

namespace Handle

variable {γ σ : Type}

/-! ## A run, by its report -/

/-- The vector from which a run starts. -/
def guess {n : Nat} (h : Handle γ σ) (x : Vector Float n) : Vector Float n :=
  if h.settings.keepGuess then x else Vector.replicate _ 0.0

/-- What a handle makes of the report of its method. -/
def Outcome.ofReport {n : Nat} (h : Handle γ σ) (globalSize : Nat)
    (report : Report σ (Failure EngineError) Float n) : Outcome γ σ :=
  let monitored := if h.settings.monitor then Event.ofHistory report.history else []
  let solution : Slice := ⟨report.solution.toArray, globalSize⟩
  match report.result with
  | .error e => ⟨.error e, h, solution, report.memory, monitored⟩
  | .ok stats =>
    ⟨.ok stats.reason, { h with last := some stats }, solution, report.memory,
      monitored ++ [.solved h.scope h.settings.solver stats]⟩

theorem run_eq (h : Handle γ σ) (op : Shell γ σ) (b x : Vector Float op.size) (globalSize : Nat)
    (memory : σ) :
    h.run op b x globalSize memory =
      .ofReport h globalSize (runSolver h.settings op.apply b (h.guess x) memory) := rfl

namespace Outcome

variable {n : Nat} (h : Handle γ σ) (globalSize : Nat)
  (report : Report σ (Failure EngineError) Float n)

@[simp] theorem ofReport_result :
    (ofReport h globalSize report).result = report.result.map Stats.reason := by
  unfold ofReport
  cases report.result <;> rfl

@[simp] theorem ofReport_solution :
    (ofReport h globalSize report).solution = ⟨report.solution.toArray, globalSize⟩ := by
  unfold ofReport
  cases report.result <;> rfl

@[simp] theorem ofReport_memory : (ofReport h globalSize report).memory = report.memory := by
  unfold ofReport
  cases report.result <;> rfl

@[simp] theorem ofReport_handle :
    (ofReport h globalSize report).handle =
      { h with last := report.result.toOption.or h.last } := by
  unfold ofReport
  cases report.result <;> rfl

end Outcome

/-! ## What a solve changes -/

/-- A ready handle runs its operator on vectors that fit it. -/
theorem solveReady_of_fits {h : Handle γ σ} {op : Shell γ σ} (bound : h.operator = some op)
    {b x : Slice} (hb : b.size = op.size) (hx : x.size = op.size) (memory : σ) :
    h.solveReady b x memory = h.run op ⟨b.entries, hb⟩ ⟨x.entries, hx⟩ x.globalSize memory := by
  unfold solveReady
  rw [bound]
  dsimp only
  rw [dif_pos hb, dif_pos hx]

/-- A ready handle that does not run its operator refuses, for a reason that neither the
record nor any entry has a part in. -/
theorem solveReady_of_not_fits {h : Handle γ σ} {b x : Slice}
    (misfit : ∀ op, h.operator = some op → b.size = op.size → x.size ≠ op.size) :
    ∃ e, ∀ (h' : Handle γ σ) (x' : Slice) memory, h'.operator = h.operator → x'.size = x.size →
      h'.solveReady b x' memory = refuse h' e x' memory [] := by
  cases bound : h.operator with
  | none =>
      refine ⟨.wrongState "KSP has no operator", ?_⟩
      intro h' x' memory same size
      unfold solveReady
      rw [same]
  | some op =>
      by_cases hb : b.size = op.size
      · refine ⟨.sizeMismatch op.size x.size, ?_⟩
        intro h' x' memory same size
        unfold solveReady
        rw [same]
        dsimp only
        rw [dif_pos hb, dif_neg (size ▸ misfit op bound hb), size]
      · refine ⟨.sizeMismatch op.size b.size, ?_⟩
        intro h' x' memory same size
        unfold solveReady
        rw [same]
        dsimp only
        rw [dif_neg hb]

/-- A ready handle keeps all but its record, and the solution keeps its size. -/
theorem solveReady_frame (h : Handle γ σ) (b x : Slice) (memory : σ) :
    (∃ last, (h.solveReady b x memory).handle = { h with last }) ∧
      (h.solveReady b x memory).solution.size = x.size := by
  by_cases fits : ∃ op, h.operator = some op ∧ b.size = op.size ∧ x.size = op.size
  · obtain ⟨op, bound, hb, hx⟩ := fits
    rw [solveReady_of_fits bound hb hx, run_eq, Outcome.ofReport_handle, Outcome.ofReport_solution]
    exact ⟨⟨_, rfl⟩, (Vector.size_toArray _).trans hx.symm⟩
  · obtain ⟨e, refused⟩ :=
      solveReady_of_not_fits fun op bound hb hx => fits ⟨op, bound, hb, hx⟩
    rw [refused h x memory rfl rfl]
    exact ⟨⟨h.last, rfl⟩, rfl⟩

/-- A solve that the handle is ready for, or can be made ready for. -/
theorem solve_of_ready {h : Handle γ σ}
    (ready : h.isSetUp = true ∨ ∃ op, h.checkReady = .ok op) (b x : Slice) (memory : σ) :
    ∃ log, h.solve b x memory =
      { ({ h with isSetUp := true } : Handle γ σ).solveReady b x memory with log } := by
  unfold solve
  by_cases hs : h.isSetUp = true
  · rw [if_pos hs]
    have same : ({ h with isSetUp := true } : Handle γ σ) = h := by rw [← hs]
    rw [same]
    exact ⟨_, rfl⟩
  · rw [if_neg hs]
    rcases ready with hs' | ⟨op, ready⟩
    · exact absurd hs' hs
    · unfold setUp
      rw [ready]
      exact ⟨_, rfl⟩

/-- A solve that ends with the check before it. -/
theorem solve_of_not_ready {h : Handle γ σ} (hs : h.isSetUp = false) {e : EngineError}
    (refused : h.checkReady = .error e) (b x : Slice) (memory : σ) :
    h.solve b x memory = refuse h e x memory [] := by
  unfold solve
  rw [hs, if_neg Bool.false_ne_true]
  unfold setUp
  rw [refused]

/-- A solve with a handle that is set up, on vectors that fit its operator. -/
theorem solve_of_fits {h : Handle γ σ} (on : h.isSetUp = true) {op : Shell γ σ}
    (bound : h.operator = some op) (b x : Vector Float op.size) (m n : Nat) (memory : σ) :
    h.solve ⟨b.toArray, m⟩ ⟨x.toArray, n⟩ memory =
      .ofReport h n (runSolver h.settings op.apply b (h.guess x) memory) := by
  have hb : (⟨b.toArray, m⟩ : Slice).size = op.size := b.size_toArray
  have hx : (⟨x.toArray, n⟩ : Slice).size = op.size := x.size_toArray
  unfold solve
  rw [if_pos on, solveReady_of_fits bound hb hx, run_eq]

/-- `h'` is `h`, but for the record, and for having been set up if that was possible. -/
def Resumes (h h' : Handle γ σ) : Prop :=
  ∃ ready last, h' = { h with isSetUp := ready, last } ∧
    (ready = h.isSetUp ∨ ready = true ∧ ∃ op, h.checkReady = .ok op)

theorem Resumes.refl (h : Handle γ σ) : h.Resumes h := ⟨h.isSetUp, h.last, rfl, Or.inl rfl⟩

theorem Resumes.trans {h h' h'' : Handle γ σ} (first : h.Resumes h') (second : h'.Resumes h'') :
    h.Resumes h'' := by
  obtain ⟨ready, last, rfl, set⟩ := first
  obtain ⟨ready', last', rfl, set'⟩ := second
  refine ⟨ready', last', rfl, ?_⟩
  rcases set' with rfl | ⟨on, able⟩
  · exact set
  · exact Or.inr ⟨on, able⟩

/-- A solve changes no more of a handle, and the solution keeps its size. -/
theorem solve_frame (h : Handle γ σ) (b x : Slice) (memory : σ) :
    h.Resumes (h.solve b x memory).handle ∧ (h.solve b x memory).solution.size = x.size := by
  by_cases ready : h.isSetUp = true ∨ ∃ op, h.checkReady = .ok op
  · obtain ⟨log, hsolve⟩ := solve_of_ready ready b x memory
    obtain ⟨⟨last, kept⟩, size⟩ :=
      solveReady_frame ({ h with isSetUp := true } : Handle γ σ) b x memory
    rw [hsolve]
    refine ⟨⟨true, last, kept, ?_⟩, size⟩
    rcases ready with on | able
    · exact Or.inl on.symm
    · exact Or.inr ⟨rfl, able⟩
  · have off : h.isSetUp = false := eq_false_of_ne_true fun on => ready (Or.inl on)
    cases check : h.checkReady with
    | ok op => exact absurd (Or.inr ⟨op, check⟩) ready
    | error e =>
        rw [solve_of_not_ready off check]
        exact ⟨.refl h, rfl⟩

/-! ## What a solve reads -/

/-- Two solves that a caller cannot tell apart: one result, and where that is a verdict, one
solution and one record.  The memories left behind are related. -/
structure Outcome.Agree (R : σ → σ → Prop) (out out' : Outcome γ σ) : Prop where
  result : out.result = out'.result
  memory : R out.memory out'.memory
  solution : ∀ reason, out.result = .ok reason → out.solution.entries = out'.solution.entries
  last : ∀ reason, out.result = .ok reason → out.handle.last = out'.handle.last

section Agree

variable {R : σ → σ → Prop}

theorem refuse_agree (h g : Handle γ σ) (e : EngineError) (x x' : Slice) {memory memory' : σ}
    (related : R memory memory') (log log' : List Event) :
    Outcome.Agree R (refuse h e x memory log) (refuse g e x' memory' log') := by
  refine ⟨rfl, related, ?_, ?_⟩
  · intro reason result
    cases result
  · intro reason result
    cases result

variable {h g : Handle γ σ} (settings : g.settings = h.settings)
  (off : h.settings.keepGuess = false)

include settings off

/-- A run that starts from zero. -/
theorem run_agree {op : Shell γ σ} (ops : op.apply.Mirrors R op.apply)
    (b x x' : Vector Float op.size) (globalSize globalSize' : Nat) {memory memory' : σ}
    (related : R memory memory') :
    Outcome.Agree R (h.run op b x globalSize memory) (g.run op b x' globalSize' memory') := by
  have start : g.guess x' = h.guess x := by
    unfold guess
    rw [settings, off, if_neg Bool.false_ne_true, if_neg Bool.false_ne_true]
  have reports := runSolver_mirrors ops h.settings b (h.guess x) related
  rw [run_eq, run_eq, settings, start]
  refine ⟨?_, ?_, ?_, ?_⟩
  · rw [Outcome.ofReport_result, Outcome.ofReport_result, reports.result]
  · rw [Outcome.ofReport_memory, Outcome.ofReport_memory]
    exact reports.memory
  · intro reason result
    rw [Outcome.ofReport_solution, Outcome.ofReport_solution, reports.solution]
  · intro reason result
    rw [Outcome.ofReport_result] at result
    rw [Outcome.ofReport_handle, Outcome.ofReport_handle, ← reports.result]
    cases answer : (runSolver h.settings op.apply b (h.guess x) memory).result with
    | error e =>
        rw [answer] at result
        cases result
    | ok stats => rfl

theorem solveReady_agree (bound : g.operator = h.operator)
    (ops : ∀ op, h.operator = some op → op.apply.Mirrors R op.apply) (b : Slice) {x x' : Slice}
    (size : x'.size = x.size) {memory memory' : σ} (related : R memory memory') :
    Outcome.Agree R (h.solveReady b x memory) (g.solveReady b x' memory') := by
  by_cases fits : ∃ op, h.operator = some op ∧ b.size = op.size ∧ x.size = op.size
  · obtain ⟨op, hop, hb, hx⟩ := fits
    rw [solveReady_of_fits hop hb hx, solveReady_of_fits (bound.trans hop) hb (size.trans hx)]
    exact run_agree settings off (ops op hop) _ _ _ _ _ related
  · obtain ⟨e, refused⟩ :=
      solveReady_of_not_fits fun op hop hb hx => fits ⟨op, hop, hb, hx⟩
    rw [refused h x memory rfl rfl, refused g x' memory' bound size]
    exact refuse_agree h g e x x' related [] []

end Agree

/-- Unless the guess is kept, a solve reads neither the record nor the entries of the
solution vector, and it does not matter whether an earlier solve has set the handle up. -/
theorem solve_agree {R : σ → σ → Prop} {h h' : Handle γ σ} (resumed : h.Resumes h')
    (off : h.settings.keepGuess = false)
    (ops : ∀ op, h.operator = some op → op.apply.Mirrors R op.apply) (b : Slice) {x x' : Slice}
    (size : x'.size = x.size) {memory memory' : σ} (related : R memory memory') :
    Outcome.Agree R (h.solve b x memory) (h'.solve b x' memory') := by
  obtain ⟨ready, last, rfl, set⟩ := resumed
  by_cases able : h.isSetUp = true ∨ ∃ op, h.checkReady = .ok op
  · obtain ⟨log, hsolve⟩ := solve_of_ready able b x memory
    have able' : ready = true ∨ ∃ op, h.checkReady = .ok op := by
      rcases set with rfl | ⟨on, -⟩
      · exact able
      · exact Or.inl on
    obtain ⟨log', hsolve'⟩ :=
      solve_of_ready (h := { h with isSetUp := ready, last }) able' b x' memory'
    rw [hsolve, hsolve']
    have agree : Outcome.Agree R
        (({ h with isSetUp := true } : Handle γ σ).solveReady b x memory)
        (({ h with isSetUp := true, last } : Handle γ σ).solveReady b x' memory') :=
      solveReady_agree (h := { h with isSetUp := true }) (g := { h with isSetUp := true, last })
        rfl off rfl ops b size related
    exact ⟨agree.result, agree.memory, agree.solution, agree.last⟩
  · have unset : h.isSetUp = false := eq_false_of_ne_true fun on => able (Or.inl on)
    have unset' : ready = false := by
      rcases set with rfl | ⟨-, check⟩
      · exact unset
      · exact absurd (Or.inr check) able
    cases check : h.checkReady with
    | ok op => exact absurd (Or.inr ⟨op, check⟩) able
    | error e =>
        rw [solve_of_not_ready unset check,
          solve_of_not_ready (h := { h with isSetUp := ready, last }) unset' check]
        exact refuse_agree _ _ e x x' related [] []

/-! ## Solves one after the other -/

/-- What a solve is called with. -/
structure Request (σ : Type) where
  rhs : Slice
  solution : Slice
  memory : σ

/-- The handle after some solves. -/
def afterSolves (h : Handle γ σ) (past : List (Request σ)) : Handle γ σ :=
  past.foldl (fun h q => (h.solve q.rhs q.solution q.memory).handle) h

theorem resumes_afterSolves (past : List (Request σ)) (h : Handle γ σ) :
    h.Resumes (h.afterSolves past) := by
  induction past generalizing h with
  | nil => exact .refl h
  | cons q past ih => exact (solve_frame h q.rhs q.solution q.memory).1.trans (ih _)

end Handle

end MatrixFree.Engine
