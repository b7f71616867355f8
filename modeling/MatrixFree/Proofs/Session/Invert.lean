import MatrixFree.Proofs.Grid.Fields
import MatrixFree.Proofs.Session.Calls

/-!
# An inversion, by its run

Between the field that is inverted and the field that is answered stands one run of the
chosen method, on flat vectors.  `Session.invert_run` says what an inversion makes of the
report of that run.  Two kinds of fields never get as far as a run: those on another mesh
(`Session.invert_foreign`) and those without values (`Session.invert_unallocated`).
-/

namespace MatrixFree

open Grid Engine Options Krylov

variable {k : Kind} {σ : Type}

namespace Session

/-- What a session on a mesh answers to the report of a run. -/
def answerOf {τ : Type} {n : Nat} (mesh : Mesh) (report : Report τ (Failure EngineError) Float n) :
    Except (Failure SessionError) (Field k) :=
  match report.result with
  | .error e => .error (ofSolveFailure e)
  | .ok stats =>
    if stats.reason.isConverged then (Field.new mesh).withVector report.solution
    else .error (.error (.notConverged stats.reason.code))

theorem answerOf_ok {τ : Type} {n : Nat} {mesh : Mesh}
    {report : Report τ (Failure EngineError) Float n} {stats : Stats Float}
    (ok : report.result = .ok stats) :
    (answerOf mesh report : Except (Failure SessionError) (Field k)) =
      if stats.reason.isConverged then (Field.new mesh).withVector report.solution
      else .error (.error (.notConverged stats.reason.code)) := by
  unfold answerOf
  rw [ok]

theorem answerOf_error {τ : Type} {n : Nat} {mesh : Mesh}
    {report : Report τ (Failure EngineError) Float n} {e : Failure EngineError}
    (failed : report.result = .error e) :
    (answerOf mesh report : Except (Failure SessionError) (Field k)) =
      .error (ofSolveFailure e) := by
  unfold answerOf
  rw [failed]

/-- The run of a session's method, over the session's own operator. -/
def runOver {mesh : Mesh} (settings : Settings) (b guess : Vector Float (k.count mesh))
    (w : Workspace k σ) : Report (Workspace k σ) (Failure EngineError) Float (k.count mesh) :=
  runSolver settings (meshShell k σ mesh).apply b guess w

/-- What is left of a run after an inversion. -/
structure Reports {n : Nat} (mesh : Mesh)
    (report : Report (Workspace k σ) (Failure EngineError) Float n) (out : Outcome k σ (Field k)) :
    Prop where
  answer : out.answer = answerOf mesh report
  adapter : out.session.workspace.adapter = report.memory.adapter
  solution : ∃ r, out.session.stage = .ready r ∧ r.solution.entries = report.solution.toArray
  last : ∀ stats, report.result = .ok stats → out.session.last? = some stats

theorem Reports.measure {n : Nat} {mesh : Mesh}
    {report : Report (Workspace k σ) (Failure EngineError) Float n} {out : Outcome k σ (Field k)}
    (h : Reports mesh report out) (phase : Phase) : Reports mesh report (out.measure phase) where
  answer := (out.answer_measure phase).trans h.answer
  adapter := (out.adapter_measure phase).trans h.adapter
  solution := by
    rw [out.stage_measure]
    exact h.solution
  last stats ok := (last?_congr (out.stage_measure phase)).trans (h.last stats ok)

theorem unpack_reports {n : Nat} (s : Session k σ) {r : Ready k σ}
    {report : Report (Workspace k σ) (Failure EngineError) Float n} {stats : Stats Float}
    (ok : report.result = .ok stats) (solution : r.solution.entries = report.solution.toArray)
    (last : r.handle.last = some stats) (globalSize : Nat) (log : List Event) :
    Reports s.mesh report (({ s with workspace := report.memory, stage := .ready r }).unpack
      stats.reason ⟨report.solution.toArray, globalSize⟩ log) := by
  have answer : (answerOf s.mesh report : Except (Failure SessionError) (Field k)) = _ :=
    answerOf_ok ok
  have kept (stats' : Stats Float) (ok' : report.result = .ok stats') :
      r.handle.last = some stats' := by
    rw [last, Except.ok.inj (ok.symm.trans ok')]
  unfold unpack
  rw [Field.withVector_toArray]
  by_cases converged : stats.reason.isConverged = true
  · rw [if_pos converged]
    rw [if_pos converged] at answer
    dsimp only
    cases unpacked : (Field.new s.mesh : Field k).withVector report.solution with
    | ok f => exact ⟨by rw [answer, unpacked], rfl, ⟨r, rfl, solution⟩, kept⟩
    | error e => exact ⟨by rw [answer, unpacked], rfl, ⟨r, rfl, solution⟩, kept⟩
  · rw [if_neg converged]
    rw [if_neg converged] at answer
    exact ⟨answer.symm, rfl, ⟨r, rfl, solution⟩, kept⟩

/-- A solve by a session that has been ready since its setup. -/
theorem solve_run {s : Session k σ} {r : Ready k σ} {scope : String} {settings : Settings}
    (continued : (Ready.initial s.mesh scope settings).Continues r) {rhs : Field k}
    {b : Vector Float (k.count s.mesh)} (packed : rhs.toVector (k.count s.mesh) = .ok b)
    {previous : Vector Float (k.count s.mesh)} (entries : r.solution.entries = previous.toArray) :
    Reports s.mesh
      (runOver settings b (if settings.keepGuess then previous else Vector.replicate _ 0.0)
        (s.workspace.measure .packing))
      (s.solve r rhs) := by
  have size : k.count s.mesh = r.rhs.size := by
    rw [continued.rhs]
    exact Array.size_replicate.symm
  have packed' := Field.toVector_cast packed size
  -- All that the handle checks before a run is settled by what the setup built.
  have on : r.handle.isSetUp = true := by rw [continued.handle_eq]; rfl
  have bound : r.handle.operator = some (meshShell k σ s.mesh) := by rw [continued.handle_eq]; rfl
  have configured : r.handle.settings = settings := by rw [continued.handle_eq]; rfl
  have solved : r.handle.solve ⟨b.toArray, r.rhs.globalSize⟩ r.solution
      (s.workspace.measure .packing) = .ofReport r.handle r.solution.globalSize
        (runOver settings b (if settings.keepGuess then previous else Vector.replicate _ 0.0)
          (s.workspace.measure .packing)) := by
    have fits := Handle.solve_of_fits on bound b previous r.rhs.globalSize r.solution.globalSize
      (s.workspace.measure .packing)
    unfold Handle.guess at fits
    rw [← entries, configured] at fits
    exact fits
  unfold solve
  simp only [packed', Vector.toArray_cast, solved, Handle.Outcome.ofReport_result,
    Handle.Outcome.ofReport_solution, Handle.Outcome.ofReport_memory,
    Handle.Outcome.ofReport_handle]
  generalize runOver settings b _ (s.workspace.measure .packing) = report
  cases result : report.result with
  | error e =>
      refine ⟨(answerOf_error result).symm, rfl, ⟨_, rfl, rfl⟩, ?_⟩
      · intro stats ok
        rw [result] at ok
        cases ok
  | ok stats =>
      dsimp only [Except.map]
      exact unpack_reports s result rfl rfl _ _

/-- An inversion, by a session that has been ready since its setup, of a field that it takes. -/
theorem invert_run {s : Session k σ} {r : Ready k σ} (ready : s.stage = .ready r) {scope : String}
    {settings : Settings} (continued : (Ready.initial s.mesh scope settings).Continues r)
    {rhs : Field k} (home : rhs.mesh = s.mesh) {b : Vector Float (k.count s.mesh)}
    (packed : rhs.toVector (k.count s.mesh) = .ok b) {previous : Vector Float (k.count s.mesh)}
    (entries : r.solution.entries = previous.toArray) :
    Reports s.mesh
      (runOver settings b (if settings.keepGuess then previous else Vector.replicate _ 0.0)
        (s.workspace.measure .packing))
      (s.invert rhs) := by
  unfold invert
  rw [readyFor_of_ready ready, if_pos home]
  exact (solve_run continued packed entries).measure .invert

/-- A ready session refuses a field on another mesh as it is. -/
theorem invert_foreign {s : Session k σ} {r : Ready k σ} (ready : s.stage = .ready r)
    {rhs : Field k} (foreign : rhs.mesh ≠ s.mesh) : s.invert rhs = s.refuse .meshMismatch :=
  invert_of_not_readyFor ((readyFor_of_ready ready rhs).trans (if_neg foreign))

/-- A field without values is refused before any run; only the phase was measured. -/
theorem invert_unallocated {s : Session k σ} {r : Ready k σ} (ready : s.stage = .ready r)
    {rhs : Field k} (home : rhs.mesh = s.mesh) (unallocated : rhs.isAllocated = false) :
    s.invert rhs = ⟨.error (.error .unallocated), s.measure .invert, []⟩ := by
  unfold invert
  rw [readyFor_of_ready ready, if_pos home]
  unfold solve
  simp only [Field.toVector_of_not_isAllocated unallocated]
  rfl

end Session

end MatrixFree
