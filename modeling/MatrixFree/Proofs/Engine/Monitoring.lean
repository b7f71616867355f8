import MatrixFree.Operators.Flat
import MatrixFree.Proofs.Engine.Solve
import MatrixFree.Proofs.Krylov.Monitoring

/-!
# Monitored solves

A handle that monitors a solve writes the notes of the run into its log.  Beside the handle
that does not, it answers the same, leaves the same solution and the same memory of the
operator, and keeps the same record; the logs differ in the residuals alone
(`Outcome.Watches`).

The residuals in the log of a solve with a verdict are numbered from zero to the iterations of
the record, and the first of them is the norm of the residual at the guess
(`Outcome.Reported`).
-/

namespace MatrixFree.Engine

open Options Krylov

/-! ## Residuals in a log -/

/-- The monitored residual that an event tells. -/
def Event.residual? : Event → Option (Nat × Float)
  | .residual i norm => some (i, norm)
  | _ => none

/-- The monitored residuals in a log. -/
def residualsOf (log : List Event) : List (Nat × Float) := log.filterMap Event.residual?

/-- A log without its monitored residuals. -/
def unmonitored (log : List Event) : List Event := log.filter fun e => e.residual?.isNone

@[simp] theorem residualsOf_append (log log' : List Event) :
    residualsOf (log ++ log') = residualsOf log ++ residualsOf log' := List.filterMap_append

@[simp] theorem unmonitored_append (log log' : List Event) :
    unmonitored (log ++ log') = unmonitored log ++ unmonitored log' := List.filter_append ..

@[simp] theorem residualsOf_ofHistory (history : Array (Nat × Float)) :
    residualsOf (Event.ofHistory history) = history.toList := by
  unfold residualsOf Event.ofHistory
  rw [List.filterMap_map]
  exact List.filterMap_some

@[simp] theorem unmonitored_ofHistory (history : Array (Nat × Float)) :
    unmonitored (Event.ofHistory history) = [] := by
  unfold unmonitored Event.ofHistory
  rw [List.filter_eq_nil_iff]
  intro e mem
  obtain ⟨note, -, rfl⟩ := List.mem_map.mp mem
  exact Bool.false_ne_true

/-! ## The chosen method -/

/-- The method that settings choose numbers its notes.  The short recurrences note the residual of
their record last. -/
theorem runSolver_numbered {σ ε : Type} {n : Nat} (s : Settings) (A : Action σ (Failure ε) Float n)
    (b x : Vector Float n) (memory : σ) :
    (runSolver s A b x memory).Numbered (residual A b x ⟨memory, #[]⟩).1
      (decide (s.solver ≠ .minimalResidual)) := by
  unfold runSolver
  cases s.solver with
  | minimalResidual => exact MinimalResidual.solve_numbered A s.criteria s.restart b x memory
  | conjugateGradient => exact ConjugateGradient.solve_numbered A s.criteria b x memory
  | biconjugateGradient => exact BiconjugateGradient.solve_numbered A s.criteria b x memory

namespace Handle

variable {γ σ : Type}

/-- The handle with monitoring switched on or off. -/
def monitoring (h : Handle γ σ) (monitor : Bool) : Handle γ σ :=
  { h with settings := { h.settings with monitor } }

@[simp] theorem monitoring_monitor (h : Handle γ σ) (monitor : Bool) :
    (h.monitoring monitor).settings.monitor = monitor := rfl

/-- What a caller sees of a solve that is monitored, beside the one that is not. -/
structure Outcome.Watches (loud quiet : Outcome γ σ) : Prop where
  result : loud.result = quiet.result
  solution : loud.solution = quiet.solution
  memory : loud.memory = quiet.memory
  handle : loud.handle = quiet.handle.monitoring true
  /-- The logs differ in the residuals, of which the second has none. -/
  log : quiet.log = unmonitored loud.log
  silent : residualsOf quiet.log = []

/-- A verdict on the solve of `h` for `b` from the guess `x` comes with a record, and with the
residuals of the run in the log. -/
def Outcome.Reported (h : Handle γ σ) (b x : Slice) (memory : σ) (out : Outcome γ σ) : Prop :=
  ∀ reason, out.result = .ok reason →
    ∃ (op : Shell γ σ) (hb : b.size = op.size) (hx : x.size = op.size) (stats : Stats Float)
      (r : Vector Float op.size),
      h.operator = some op ∧ out.handle.last = some stats ∧ stats.reason = reason ∧
        (residual op.apply ⟨b.entries, hb⟩ (h.guess ⟨x.entries, hx⟩) ⟨memory, #[]⟩).1 = .ok r ∧
        (residualsOf out.log).map Prod.fst = List.range (stats.iterations + 1) ∧
        (residualsOf out.log)[0]? = some (0, Flat.norm r) ∧
        (h.settings.solver ≠ .minimalResidual →
          (residualsOf out.log).getLast? = some (stats.iterations, stats.residual))

/-! ## Two solves -/

theorem refuse_watches (h : Handle γ σ) (e : EngineError) (x : Slice) (memory : σ) :
    Outcome.Watches (refuse (h.monitoring true) e x memory [])
      (refuse (h.monitoring false) e x memory []) :=
  ⟨rfl, rfl, rfl, rfl, rfl, rfl⟩

/-- The end of a run in the log: its notes, if they are wanted, and then its record. -/
theorem Outcome.ofReport_log {n : Nat} (h : Handle γ σ) (globalSize : Nat)
    (report : Report σ (Failure EngineError) Float n) :
    (ofReport h globalSize report).log =
      (if h.settings.monitor then Event.ofHistory report.history else []) ++
        (report.result.toOption.map (Event.solved h.scope h.settings.solver)).toList := by
  unfold ofReport
  cases report.result with
  | error e => exact (List.append_nil _).symm
  | ok stats => rfl

theorem unmonitored_solved (scope : String) (solver : Solver) (stats : Option (Stats Float)) :
    unmonitored (stats.map (Event.solved scope solver)).toList =
      (stats.map (Event.solved scope solver)).toList := by
  cases stats <;> rfl

theorem residualsOf_solved (scope : String) (solver : Solver) (stats : Option (Stats Float)) :
    residualsOf (stats.map (Event.solved scope solver)).toList = [] := by
  cases stats <;> rfl

theorem run_watches (h : Handle γ σ) (op : Shell γ σ) (b x : Vector Float op.size)
    (globalSize : Nat) (memory : σ) :
    Outcome.Watches ((h.monitoring true).run op b x globalSize memory)
      ((h.monitoring false).run op b x globalSize memory) := by
  have same : runSolver (h.monitoring false).settings op.apply b ((h.monitoring false).guess x)
      memory = runSolver (h.monitoring true).settings op.apply b ((h.monitoring true).guess x)
      memory := rfl
  rw [run_eq, run_eq, same]
  generalize runSolver (h.monitoring true).settings op.apply b _ memory = report
  have loud := Outcome.ofReport_log (h.monitoring true) globalSize report
  have quiet := Outcome.ofReport_log (h.monitoring false) globalSize report
  rw [monitoring_monitor, if_pos rfl] at loud
  rw [monitoring_monitor, if_neg Bool.false_ne_true, List.nil_append] at quiet
  refine ⟨?_, ?_, ?_, ?_, ?_, ?_⟩
  · rw [Outcome.ofReport_result, Outcome.ofReport_result]
  · rw [Outcome.ofReport_solution, Outcome.ofReport_solution]
  · rw [Outcome.ofReport_memory, Outcome.ofReport_memory]
  · rw [Outcome.ofReport_handle, Outcome.ofReport_handle]
    rfl
  · rw [loud, quiet, unmonitored_append, unmonitored_ofHistory, unmonitored_solved]
    rfl
  · rw [quiet, residualsOf_solved]

theorem solveReady_watches (h : Handle γ σ) (b x : Slice) (memory : σ) :
    Outcome.Watches ((h.monitoring true).solveReady b x memory)
      ((h.monitoring false).solveReady b x memory) := by
  by_cases fits : ∃ op, h.operator = some op ∧ b.size = op.size ∧ x.size = op.size
  · obtain ⟨op, bound, hb, hx⟩ := fits
    rw [solveReady_of_fits (h := h.monitoring true) bound hb hx,
      solveReady_of_fits (h := h.monitoring false) bound hb hx]
    exact run_watches h op _ _ _ memory
  · obtain ⟨e, refused⟩ :=
      solveReady_of_not_fits fun op bound hb hx => fits ⟨op, bound, hb, hx⟩
    rw [refused (h.monitoring true) x memory rfl rfl, refused (h.monitoring false) x memory rfl rfl]
    exact refuse_watches h e x memory

/-- What comes before the run is logged with or without monitoring. -/
theorem Outcome.Watches.prepend {loud quiet : Outcome γ σ} (h : loud.Watches quiet)
    {log : List Event} (plain : unmonitored log = log) (none : residualsOf log = []) :
    Outcome.Watches { loud with log := log ++ loud.log } { quiet with log := log ++ quiet.log } := by
  refine ⟨h.result, h.solution, h.memory, h.handle, ?_, ?_⟩
  · dsimp only
    rw [unmonitored_append, plain, h.log]
  · dsimp only
    rw [residualsOf_append, none, h.silent, List.nil_append]

/-- Monitoring is no matter of setting up. -/
theorem checkReady_monitoring (h : Handle γ σ) (monitor : Bool) :
    (h.monitoring monitor).checkReady = h.checkReady := rfl

theorem solve_watches (h : Handle γ σ) (b x : Slice) (memory : σ) :
    Outcome.Watches ((h.monitoring true).solve b x memory)
      ((h.monitoring false).solve b x memory) := by
  unfold solve
  by_cases on : h.isSetUp = true
  · rw [if_pos (show (h.monitoring true).isSetUp = true from on),
      if_pos (show (h.monitoring false).isSetUp = true from on)]
    exact solveReady_watches h b x memory
  · rw [if_neg (show ¬(h.monitoring true).isSetUp = true from on),
      if_neg (show ¬(h.monitoring false).isSetUp = true from on)]
    unfold setUp
    rw [checkReady_monitoring, checkReady_monitoring]
    cases h.checkReady with
    | error e => exact refuse_watches h e x memory
    | ok op =>
        have ready := solveReady_watches ({ h with isSetUp := true } : Handle γ σ) b x memory
        exact ready.prepend rfl rfl

/-! ## The log -/

theorem run_reported {h : Handle γ σ} (monitor : h.settings.monitor = true) {op : Shell γ σ}
    (bound : h.operator = some op) {b x : Slice} (hb : b.size = op.size) (hx : x.size = op.size)
    (memory : σ) :
    Outcome.Reported h b x memory
      (h.run op ⟨b.entries, hb⟩ ⟨x.entries, hx⟩ x.globalSize memory) := by
  have numbered :=
    runSolver_numbered h.settings op.apply ⟨b.entries, hb⟩ (h.guess ⟨x.entries, hx⟩) memory
  rw [run_eq]
  generalize runSolver h.settings op.apply _ _ memory = report at numbered
  intro reason result
  rw [Outcome.ofReport_result] at result
  cases answer : report.result with
  | error e =>
      rw [answer] at result
      cases result
  | ok stats =>
      rw [answer] at result
      obtain ⟨⟨r, first, noted⟩, last⟩ := numbered stats answer
      have lines : residualsOf (Outcome.ofReport h x.globalSize report).log =
          report.history.toList := by
        rw [Outcome.ofReport_log, if_pos monitor, residualsOf_append, residualsOf_ofHistory,
          residualsOf_solved, List.append_nil]
      have record : (Outcome.ofReport h x.globalSize report).handle.last = some stats := by
        rw [Outcome.ofReport_handle, answer]
        rfl
      refine ⟨op, hb, hx, stats, r, bound, record, Except.ok.inj result, first, ?_⟩
      rw [lines]
      refine ⟨noted.numbers, ?_, ?_⟩
      · rw [Array.getElem?_toList, noted.first]
      · intro short
        rw [Array.getLast?_toList, last (decide_eq_true short)]

theorem solveReady_reported {h : Handle γ σ} (monitor : h.settings.monitor = true)
    (b x : Slice) (memory : σ) : Outcome.Reported h b x memory (h.solveReady b x memory) := by
  by_cases fits : ∃ op, h.operator = some op ∧ b.size = op.size ∧ x.size = op.size
  · obtain ⟨op, bound, hb, hx⟩ := fits
    rw [solveReady_of_fits bound hb hx]
    exact run_reported monitor bound hb hx memory
  · obtain ⟨e, refused⟩ :=
      solveReady_of_not_fits fun op bound hb hx => fits ⟨op, bound, hb, hx⟩
    rw [refused h x memory rfl rfl]
    intro reason result
    cases result

theorem solve_reported {h : Handle γ σ} (monitor : h.settings.monitor = true) (b x : Slice)
    (memory : σ) : Outcome.Reported h b x memory (h.solve b x memory) := by
  unfold solve
  by_cases on : h.isSetUp = true
  · rw [if_pos on]
    exact solveReady_reported monitor b x memory
  · rw [if_neg on]
    unfold setUp
    cases h.checkReady with
    | error e =>
        intro reason result
        cases result
    | ok op =>
        exact solveReady_reported (h := { h with isSetUp := true }) monitor b x memory

/-- **Monitoring is an observer.**  Each method does the same whether its notes are kept or
dropped, application by application, and numbers them from the first residual to the iterations
of its record.  A handle that is told to monitor its solves answers and leaves what it would
have answered and left otherwise; beyond the log of the other solve, its log has the residuals of
the run. -/
theorem monitoring_observes {τ ε α : Type} [Scalar α] {m n : Nat} (A : Action τ (Failure ε) α n)
    (criteria : Criteria α) (restart : Nat) (rhs : Vector α n) (start : Vector α m) (before : τ)
    (h : Handle γ σ) (b x : Slice) (memory : σ) :
    let first := (residual A rhs start ⟨before, #[]⟩).1
    ((ConjugateGradient.solve A criteria rhs start before).Numbered first true ∧
      (ConjugateGradient.solve A criteria rhs start before).Unwatched
        ((ConjugateGradient.method A criteria).solveQuietly A criteria rhs start before)
        (ConjugateGradient.solve A.recorded criteria rhs start (before, []))
        ((ConjugateGradient.method A.recorded criteria).solveQuietly A.recorded criteria rhs start
          (before, []))) ∧
    ((BiconjugateGradient.solve A criteria rhs start before).Numbered first true ∧
      (BiconjugateGradient.solve A criteria rhs start before).Unwatched
        ((BiconjugateGradient.method A criteria).solveQuietly A criteria rhs start before)
        (BiconjugateGradient.solve A.recorded criteria rhs start (before, []))
        ((BiconjugateGradient.method A.recorded criteria).solveQuietly A.recorded criteria rhs start
          (before, []))) ∧
    ((MinimalResidual.solve A criteria restart rhs start before).Numbered first false ∧
      (MinimalResidual.solve A criteria restart rhs start before).Unwatched
        ((MinimalResidual.method A criteria restart rhs).solveQuietly A criteria rhs start before)
        (MinimalResidual.solve A.recorded criteria restart rhs start (before, []))
        ((MinimalResidual.method A.recorded criteria restart rhs).solveQuietly A.recorded criteria
          rhs start (before, []))) ∧
    Outcome.Watches ((h.monitoring true).solve b x memory)
      ((h.monitoring false).solve b x memory) ∧
    Outcome.Reported (h.monitoring true) b x memory ((h.monitoring true).solve b x memory) := by
  refine ⟨⟨?_, ?_⟩, ⟨?_, ?_⟩, ⟨?_, ?_⟩, ?_, ?_⟩
  · exact ConjugateGradient.solve_numbered A criteria rhs start before
  · exact ConjugateGradient.solve_unwatched A criteria rhs start before
  · exact BiconjugateGradient.solve_numbered A criteria rhs start before
  · exact BiconjugateGradient.solve_unwatched A criteria rhs start before
  · exact MinimalResidual.solve_numbered A criteria restart rhs start before
  · exact MinimalResidual.solve_unwatched A criteria restart rhs start before
  · exact solve_watches h b x memory
  · exact solve_reported rfl b x memory

/-- Minimal residuals on a system of two equations: three lines with monitoring, none without. -/
theorem monitoring_observes_dense :
    let op : Shell Unit Nat := ⟨.serial, 2, 2, (),
      some (Operators.Flat.multiply (.always (.rule (.dense #[[4.0, 1.0], [1.0, 3.0]]))) 2)⟩
    let h : Handle Unit Nat := (create .serial).setOperator op
    let out := (h.monitoring true).solve ⟨#[1.0, 2.0], 2⟩ ⟨#[0.0, 0.0], 2⟩ 0
    let quiet := (h.monitoring false).solve ⟨#[1.0, 2.0], 2⟩ ⟨#[0.0, 0.0], 2⟩ 0
    out.result = .ok .relative ∧ quiet.result = .ok .relative ∧
      (residualsOf out.log).map Prod.fst = [0, 1, 2] ∧ residualsOf quiet.log = [] := by
  intro op h out quiet
  obtain ⟨reason, answer, relative⟩ := exists_ok_of_any (p := fun r => r == Reason.relative)
    (show out.result.toOption.any _ = true by decide +kernel)
  have result : out.result = .ok .relative := by rw [answer, eq_of_beq relative]
  have two : out.handle.iterations = 2 := by decide +kernel
  obtain ⟨-, -, -, watches, reported⟩ :=
    monitoring_observes op.apply h.settings.criteria 30 (Flat.zero 2) (Flat.zero 2) 0 h
      ⟨#[1.0, 2.0], 2⟩ ⟨#[0.0, 0.0], 2⟩ 0
  obtain ⟨_, -, -, stats, _, -, last, -, -, numbers, -⟩ := reported _ result
  have told : out.handle.iterations = stats.iterations := by
    unfold iterations
    rw [last]
    rfl
  rw [← told, two] at numbers
  exact ⟨result, watches.result ▸ result, numbers, watches.silent⟩

end Handle

end MatrixFree.Engine
