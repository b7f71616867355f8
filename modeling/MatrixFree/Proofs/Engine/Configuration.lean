import MatrixFree.Operators.Flat
import MatrixFree.Proofs.Engine.Solve
import MatrixFree.Proofs.Krylov.Answers
import MatrixFree.Proofs.Options.Settings

/-!
# Configured handles

Seven calls change a handle, and each may come at any time.  A handle that is set up is
solvable: an operator with a multiply is bound, and the settings are admissible.  Setting up
checks just that, and each call that could undo it takes the mark away
(`Handle.kept_after`), so it holds after any calls (`Handle.kept_afterAll`).

A solve therefore ends in one of three ways (`Handle.Solves`): its set-up step fails, a vector
does not fit the operator, or the method runs, and then with admissible settings.
-/

namespace MatrixFree.Engine

open Options Krylov

/-- The method that settings choose, with a list of what the operator answers. -/
theorem runSolver_blames {σ ε : Type} {n : Nat} (A : Action σ (Failure ε) Float n) (s : Settings)
    (b x : Vector Float n) (memory : σ) :
    (runSolver s A b x memory).Blames x
      (fun e => e = .fault .capacityOverflow ∧ s.solver = .minimalResidual ∧
        ¬Storage.HasRoom (s.restart + 1) Storage.vectorBytes)
      (runSolver s A.answering b x (memory, [])) := by
  unfold runSolver
  cases choice : s.solver with
  | minimalResidual =>
      exact MinimalResidual.solve_blames A s.criteria s.restart b x memory
        fun full => ⟨rfl, rfl, full⟩
  | conjugateGradient => exact ConjugateGradient.solve_blames A s.criteria b x memory _
  | biconjugateGradient => exact BiconjugateGradient.solve_blames A s.criteria b x memory _

namespace Handle

variable {γ σ : Type}

/-! ## Setting up -/

/-- What setting up asks for. -/
structure Solvable (h : Handle γ σ) : Prop where
  operator : ∃ op, h.operator = some op ∧ op.hasMultiply = true
  settings : h.settings.Admissible

theorem Solvable.checkReady {h : Handle γ σ} (solvable : h.Solvable) :
    ∃ op, h.operator = some op ∧ op.hasMultiply = true ∧ h.checkReady = .ok op := by
  obtain ⟨op, bound, able⟩ := solvable.operator
  refine ⟨op, bound, able, ?_⟩
  simp [Handle.checkReady, bound, able, Settings.validate_eq_ok_iff.mpr solvable.settings]

theorem solvable_of_checkReady {h : Handle γ σ} {op : Shell γ σ} (ready : h.checkReady = .ok op) :
    h.Solvable := by
  unfold checkReady at ready
  cases bound : h.operator with
  | none => simp [bound] at ready
  | some op' =>
      cases able : op'.hasMultiply with
      | false => simp [bound, able] at ready
      | true =>
          cases accepted : h.settings.validate with
          | error e => simp [bound, able, accepted] at ready
          | ok u => exact ⟨⟨op', bound, able⟩, Settings.validate_eq_ok_iff.mp accepted⟩

theorem setUp_of_solvable {h : Handle γ σ} (solvable : h.Solvable) :
    h.setUp.1 = .ok () ∧ h.setUp.2.1 = { h with isSetUp := true } := by
  obtain ⟨op, -, -, ready⟩ := solvable.checkReady
  simp [setUp, ready]

theorem setUp_of_not_solvable {h : Handle γ σ} (unsolvable : ¬h.Solvable) :
    ∃ e, h.checkReady = .error e ∧ h.setUp = (.error e, h, []) := by
  cases ready : h.checkReady with
  | ok op => exact absurd (solvable_of_checkReady ready) unsolvable
  | error e => exact ⟨e, rfl, by simp [setUp, ready]⟩

theorem setUp_of_error {h : Handle γ σ} {e : EngineError} (failed : h.setUp.1 = .error e) :
    ¬h.Solvable ∧ h.checkReady = .error e ∧ h.setUp = (.error e, h, []) := by
  have unsolvable : ¬h.Solvable := by
    intro solvable
    rw [(setUp_of_solvable solvable).1] at failed
    cases failed
  obtain ⟨e', refused, same⟩ := setUp_of_not_solvable unsolvable
  rw [same] at failed
  cases failed
  exact ⟨unsolvable, refused, same⟩

/-! ## Calls -/

/-- A call that may change a handle. -/
inductive Call (γ σ : Type) where
  | setOperator (op : Shell γ σ)
  | setScope (scope : String)
  | setFromOptions (db : Database)
  | setSolver (solver : Solver)
  | setTolerances (relative absolute growth : Float) (limit : Nat)
  | setUp
  | solve (q : Request σ)

/-- The handle after a call, whether it succeeds or fails. -/
def after (h : Handle γ σ) : Call γ σ → Handle γ σ
  | .setOperator op => h.setOperator op
  | .setScope scope => (h.setScope scope).2
  | .setFromOptions db => (h.setFromOptions db).2
  | .setSolver solver => h.setSolver solver
  | .setTolerances relative absolute growth limit => h.setTolerances relative absolute growth limit
  | .setUp => h.setUp.2.1
  | .solve q => (h.solve q.rhs q.solution q.memory).handle

/-- The handle after some calls, one after the other. -/
def afterAll (h : Handle γ σ) (calls : List (Call γ σ)) : Handle γ σ := calls.foldl after h

/-- The mark of a handle that is set up is to be trusted. -/
def Kept (h : Handle γ σ) : Prop := h.isSetUp = true → h.Solvable

theorem Kept.of_off {h : Handle γ σ} (off : h.isSetUp = false) : h.Kept :=
  fun on => absurd (on.symm.trans off) nofun

theorem Solvable.congr {h h' : Handle γ σ} (solvable : h.Solvable)
    (operator : h'.operator = h.operator) (settings : h'.settings = h.settings) : h'.Solvable :=
  ⟨operator ▸ solvable.operator, settings ▸ solvable.settings⟩

theorem setFromOptions_of_error {h : Handle γ σ} {db : Database} {e : EngineError} {t : Settings}
    (refused : h.settings.apply db h.scope = (.error e, t)) :
    h.setFromOptions db = (.error e, h) := by
  unfold setFromOptions
  rw [refused]

/-- Each call keeps the mark only where it keeps what the mark stands for. -/
theorem kept_after {h : Handle γ σ} (kept : h.Kept) (call : Call γ σ) : (h.after call).Kept := by
  cases call with
  | setOperator op => exact .of_off rfl
  | setScope scope =>
      change (h.setScope scope).2.Kept
      unfold setScope
      split
      · exact fun on => (kept on).congr rfl rfl
      · exact kept
  | setFromOptions db =>
      change (h.setFromOptions db).2.Kept
      rcases taken : h.settings.apply db h.scope with ⟨e | _, t⟩
      · rwa [setFromOptions_of_error taken]
      · unfold setFromOptions
        rw [taken]
        exact .of_off rfl
  | setSolver solver => exact .of_off rfl
  | setTolerances relative absolute growth limit => exact .of_off rfl
  | setUp =>
      change h.setUp.2.1.Kept
      by_cases solvable : h.Solvable
      · rw [(setUp_of_solvable solvable).2]
        exact fun _ => solvable.congr rfl rfl
      · obtain ⟨e, -, failed⟩ := setUp_of_not_solvable solvable
        rwa [failed]
  | solve q =>
      obtain ⟨ready, last, frame, set⟩ := (h.solve_frame q.rhs q.solution q.memory).1
      intro on
      change (h.solve q.rhs q.solution q.memory).handle.Solvable
      change (h.solve q.rhs q.solution q.memory).handle.isSetUp = true at on
      rw [frame] at on ⊢
      rcases set with rfl | ⟨-, op, ready⟩
      · exact (kept on).congr rfl rfl
      · exact (solvable_of_checkReady ready).congr rfl rfl

theorem kept_afterAll (calls : List (Call γ σ)) {h : Handle γ σ} (kept : h.Kept) :
    (h.afterAll calls).Kept := by
  induction calls generalizing h with
  | nil => exact kept
  | cons call calls ih => exact ih (kept_after kept call)

theorem kept_create (comm : Communicator) : (create comm : Handle γ σ).Kept := .of_off rfl

/-! ## Solves -/

/-- How a solve with a handle can end. -/
inductive Solves (h : Handle γ σ) (b x : Slice) (memory : σ) : Outcome γ σ → Prop where
  /-- With the error of setting up. -/
  | refused {e : EngineError} (off : h.isSetUp = false) (failed : h.setUp.1 = .error e) :
      Solves h b x memory ⟨.error (.error e), h, x, memory, []⟩
  /-- With the first vector that does not fit the operator. -/
  | misfit {op : Shell γ σ} {v : Slice} {log : List Event} (solvable : h.Solvable)
      (bound : h.operator = some op) (first : v = b ∨ b.size = op.size ∧ v = x)
      (other : v.size ≠ op.size) :
      Solves h b x memory
        ⟨.error (.error (.sizeMismatch op.size v.size)), { h with isSetUp := true }, x, memory, log⟩
  /-- With what the method reports, which runs with admissible settings. -/
  | ran {op : Shell γ σ} {log : List Event} (bound : h.operator = some op)
      (able : op.hasMultiply = true) (admissible : h.settings.Admissible)
      (hb : b.size = op.size) (hx : x.size = op.size) :
      Solves h b x memory
        { Outcome.ofReport { h with isSetUp := true } x.globalSize
            (runSolver h.settings op.apply ⟨b.entries, hb⟩ (h.guess ⟨x.entries, hx⟩) memory) with
          log }

theorem solveReady_of_misfit {h : Handle γ σ} {op : Shell γ σ} (bound : h.operator = some op)
    {b x v : Slice} (first : v = b ∨ b.size = op.size ∧ v = x) (other : v.size ≠ op.size)
    (memory : σ) :
    h.solveReady b x memory = refuse h (.sizeMismatch op.size v.size) x memory [] := by
  unfold solveReady
  rw [bound]
  dsimp only
  rcases first with rfl | ⟨hb, rfl⟩
  · rw [dif_neg other]
  · rw [dif_pos hb, dif_neg other]

theorem Kept.solves {h : Handle γ σ} (kept : h.Kept) (b x : Slice) (memory : σ) :
    h.Solves b x memory (h.solve b x memory) := by
  by_cases solvable : h.Solvable
  · obtain ⟨op, bound, able, ready⟩ := solvable.checkReady
    obtain ⟨log, hsolve⟩ := solve_of_ready (Or.inr ⟨op, ready⟩) b x memory
    have bound' : ({ h with isSetUp := true } : Handle γ σ).operator = some op := bound
    rw [hsolve]
    by_cases fits : b.size = op.size ∧ x.size = op.size
    · rw [solveReady_of_fits bound' fits.1 fits.2, run_eq]
      exact .ran bound able solvable.settings fits.1 fits.2
    · obtain ⟨v, first, other⟩ : ∃ v, (v = b ∨ b.size = op.size ∧ v = x) ∧ v.size ≠ op.size := by
        by_cases hb : b.size = op.size
        · exact ⟨x, Or.inr ⟨hb, rfl⟩, fun hx => fits ⟨hb, hx⟩⟩
        · exact ⟨b, Or.inl rfl, hb⟩
      rw [solveReady_of_misfit bound' first other]
      exact .misfit solvable bound first other
  · have off : h.isSetUp = false := eq_false_of_ne_true fun on => solvable (kept on)
    obtain ⟨e, refused, failed⟩ := setUp_of_not_solvable solvable
    rw [solve_of_not_ready off refused]
    exact .refused off (by rw [failed])

/-- In a solve of `b` from `x`, the multiply of the handle's operator fails with `e` and leaves
the memory `after`, and this is the operator's last answer. -/
def MultiplyFails (h : Handle γ σ) (b x : Slice) (memory : σ) (e : EngineError) (after : σ) :
    Prop :=
  ∃ (op : Shell γ σ) (f : Multiply γ σ op.size) (hb : b.size = op.size) (hx : x.size = op.size),
    h.operator = some op ∧ op.multiply = some f ∧
      (∃ v y before, f op.context v y before = (.error (.error e), after)) ∧
      (runSolver h.settings op.apply.answering ⟨b.entries, hb⟩ (h.guess ⟨x.entries, hx⟩)
        (memory, [])).memory.2.getLast? = some (.error (.error e))

/-- Errors of a run are those of its operator's multiply. -/
theorem exists_multiply_of_run {op : Shell γ σ} {f : Multiply γ σ op.size}
    (multiply : op.multiply = some f) {settings : Settings} {b x : Vector Float op.size}
    {memory : σ} {e : EngineError}
    (failed : (runSolver settings op.apply b x memory).result = .error (.error e)) :
    ∃ v y before, f op.context v y before =
      (.error (.error e), (runSolver settings op.apply b x memory).memory) := by
  have ops : op.apply.Leaves (fun _ => True) (fun e after => ∀ e', e = .error e' →
      ∃ v y before, f op.context v y before = (.error (.error e'), after)) := by
    intro v y before _
    rw [Shell.apply_of_multiply multiply]
    refine ⟨fun _ _ => trivial, ?_⟩
    rintro _ answer e' rfl
    exact ⟨v, y, before, Prod.ext answer rfl⟩
  exact (runSolver_leaves ops (fun _ _ _ _ => nofun) b x trivial).2 _ failed e rfl

theorem multiplyFails_of_run {h : Handle γ σ} {op : Shell γ σ} (bound : h.operator = some op)
    (able : op.hasMultiply = true) {b x : Slice} (hb : b.size = op.size) (hx : x.size = op.size)
    {memory : σ} {e : EngineError}
    (failed : (runSolver h.settings op.apply ⟨b.entries, hb⟩ (h.guess ⟨x.entries, hx⟩)
      memory).result = .error (.error e)) :
    h.MultiplyFails b x memory e (runSolver h.settings op.apply ⟨b.entries, hb⟩
      (h.guess ⟨x.entries, hx⟩) memory).memory := by
  obtain ⟨f, multiply⟩ := Option.isSome_iff_exists.mp able
  refine ⟨op, f, hb, hx, bound, multiply, exists_multiply_of_run multiply failed, ?_⟩
  -- The method's own failure is a fault, so the operator is to blame.
  rcases (runSolver_blames op.apply h.settings _ _ memory).blamed _ failed with last | ⟨own, -⟩
  · exact last
  · cases own.1

/-- A wrong state is told before the operator is applied, by setting up, or it is told by the
operator. -/
theorem Solves.wrongState {h : Handle γ σ} {b x : Slice} {memory : σ} {out : Outcome γ σ}
    (solves : h.Solves b x memory out) {what : String}
    (failed : out.result = .error (.error (.wrongState what))) :
    h.isSetUp = false ∧ h.setUp.1 = .error (.wrongState what) ∨
      h.MultiplyFails b x memory (.wrongState what) out.memory := by
  cases solves with
  | refused off refused =>
      cases failed
      exact Or.inl ⟨off, refused⟩
  | misfit => cases failed
  | ran bound able admissible hb hx =>
      refine Or.inr ?_
      rw [Outcome.ofReport_memory]
      refine multiplyFails_of_run bound able hb hx ?_
      rw [Outcome.ofReport_result] at failed
      exact error_of_map failed

/-! ## All calls -/

/-- **A handle that is set up is solvable as it is configured.**  Whatever was called on a
handle, in whatever order: setting up fails exactly on an unsolvable handle and changes
nothing then, and a solve that needs it ends with the same error before the solution is
touched.  Every other solve starts no method but with admissible settings, and no wrong state
comes out of it that was not the operator's last answer.  Options are taken over all or not at all,
although reading them alone stops half-way. -/
theorem configured (comm : Communicator) (calls : List (Call γ σ)) :
    let h : Handle γ σ := (create comm).afterAll calls
    (h.isSetUp = true → h.Solvable) ∧
      ((∃ e, h.setUp.1 = .error e) ↔ ¬h.Solvable) ∧
      (∀ e, h.setUp.1 = .error e → h.setUp = (.error e, h, []) ∧
        (h.isSetUp = false → ∀ b x memory,
          h.solve b x memory = ⟨.error (.error e), h, x, memory, []⟩)) ∧
      (∀ b x memory, h.Solves b x memory (h.solve b x memory) ∧
        ∀ what, (h.solve b x memory).result = .error (.error (.wrongState what)) →
          h.isSetUp = false ∧ h.setUp.1 = .error (.wrongState what) ∨
            h.MultiplyFails b x memory (.wrongState what) (h.solve b x memory).memory) ∧
      ∀ db e, (h.setFromOptions db).1 = .error e → (h.setFromOptions db).2 = h ∧
        ∃ t, h.settings.apply db h.scope = (.error e, t) ∧
          ((∃ before bad after, Setting.all = before ++ bad :: after ∧
              t = h.settings.takeOver db h.scope before ∧ bad.Unreadable db h.scope t) ∨
            t = h.settings.takeOver db h.scope Setting.all ∧ ¬t.Admissible) := by
  intro h
  have kept : h.Kept := kept_afterAll calls (kept_create comm)
  refine ⟨kept, ⟨?_, ?_⟩, ?_, ?_, ?_⟩
  · rintro ⟨e, failed⟩
    exact (setUp_of_error failed).1
  · intro unsolvable
    obtain ⟨e, -, failed⟩ := setUp_of_not_solvable unsolvable
    exact ⟨e, by rw [failed]⟩
  · intro e failed
    obtain ⟨-, refused, same⟩ := setUp_of_error failed
    exact ⟨same, fun off b x memory => solve_of_not_ready off refused b x memory⟩
  · intro b x memory
    exact ⟨kept.solves b x memory, fun what => (kept.solves b x memory).wrongState⟩
  · intro db e failed
    rcases taken : h.settings.apply db h.scope with ⟨e' | _, t⟩
    · rw [setFromOptions_of_error taken] at failed ⊢
      cases failed
      exact ⟨rfl, t, rfl, Settings.apply_error taken⟩
    · unfold setFromOptions at failed
      rw [taken] at failed
      cases failed

/-- A handle with an operator that negates, and options of which the second cannot be read. -/
theorem configured_half_read :
    let op : Shell Unit Nat :=
      ⟨.serial, 1, 1, (), some (Operators.Flat.multiply (.always (.rule (.scale (-1.0)))) 1)⟩
    let h : Handle Unit Nat := (create .serial).afterAll [.setOperator op, .setUp]
    let db := Database.ofTokens ["-ksp_type", "cg", "-ksp_rtol", "small"]
    (h.isSetUp = true ∧ (h.setFromOptions db).1 = .error (.badOption "ksp_rtol" "small")) ∧
      h.Solvable ∧ (h.setFromOptions db).2 = h ∧ (h.settings.apply db h.scope).2.solver ≠
        h.settings.solver := by
  intro op h db
  have on : h.isSetUp = true := by decide +kernel
  have failed : (h.setFromOptions db).1 = .error (.badOption "ksp_rtol" "small") := by
    decide +kernel
  have read : (h.settings.apply db h.scope).2.solver ≠ h.settings.solver := by decide +kernel
  obtain ⟨solvable, -, -, -, options⟩ := configured .serial [.setOperator op, .setUp]
  exact ⟨⟨on, failed⟩, solvable on, (options db _ failed).1, read⟩

/-- A wrong state that the operator answers comes out of a solve as it was raised, although
the handle is set up. -/
theorem wrongState_past_setUp :
    let op : Shell Unit Nat :=
      ⟨.serial, 1, 1, (), some (Operators.Flat.multiply (.always (.fails (.wrongState "no"))) 1)⟩
    let h : Handle Unit Nat := (create .serial).afterAll [.setOperator op, .setUp]
    h.isSetUp = true ∧
      (h.solve ⟨#[1.0], 1⟩ ⟨#[0.0], 1⟩ 0).result = .error (.error (.wrongState "no")) := by
  decide +kernel

end Handle

end MatrixFree.Engine
