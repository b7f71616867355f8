import MatrixFree.Proofs.Engine.Outcomes
import MatrixFree.Proofs.Krylov.Stored.States

/-!
# Solves on storage

A solve with a handle, as it works on slices: the two lengths are compared with the operator's, the
method runs on arrays (`Krylov.Stored`), and what it returns is copied back, which is a fault if the
lengths differ.  It leaves what `Handle.solve` leaves (`Kept.storedSolve_eq`).

So it commits no fault of its own.  Where the multiply breaks no promise and the basis of minimal
residuals has room, the solve answers a reason or an error (`storedSolve_answers`).
-/

namespace MatrixFree.Engine

open Options Krylov

variable {γ σ : Type}

/-! ## The operator -/

namespace Shell

/-- The operator as a method applies it, on buffers. -/
def onBuffers (op : Shell γ σ) : Stored.Multiply σ EngineError Float := fun x y memory =>
  match op.multiplyInto x y memory with
  | (.ok (), y, memory) => (.ok y, memory)
  | (.error e, _, memory) => (.error e, memory)

theorem implements_onBuffers (op : Shell γ σ) : Stored.Implements op.onBuffers op.apply := by
  intro x y memory
  unfold onBuffers multiplyInto
  rw [dif_pos y.size_toArray]
  rcases op.apply x y memory with ⟨e | image, memory'⟩ <;> rfl

/-- The multiply answers or reports an error, and breaks no promise. -/
def Faultless (op : Shell γ σ) : Prop :=
  ∀ f, op.multiply = some f →
    ∀ x y memory fault, (f op.context x y memory).1 ≠ .error (.fault fault)

end Shell

/-! ## The chosen method -/

/-- The division of binary64, which answers an infinity or a NaN where the divisor is zero. -/
def quotient (a d : Float) : Except Fault Float := .ok (a / d)

/-- Run the solver that the settings choose, on storage. -/
def runStored (s : Settings) (mul : Stored.Multiply σ EngineError Float) (b x : Array Float)
    (memory : σ) : Stored.Report σ EngineError Float :=
  match s.solver with
  | .minimalResidual =>
    Stored.MinimalResidual.solve quotient mul s.criteria s.restart b x memory
  | .conjugateGradient => Stored.ConjugateGradient.solve quotient mul s.criteria b x memory
  | .biconjugateGradient => Stored.BiconjugateGradient.solve quotient mul s.criteria b x memory

theorem divides_quotient (criteria : Criteria Float) : Stored.Divides quotient criteria :=
  .of_total (fun _ _ => rfl) criteria

theorem runStored_eq {n : Nat} {mul : Stored.Multiply σ EngineError Float}
    {A : Action σ (Failure EngineError) Float n} (implements : Stored.Implements mul A)
    {s : Settings} (positive : 1 ≤ s.restart) (b x : Vector Float n) (memory : σ) :
    runStored s mul b.toArray x.toArray memory = Stored.ofReport (runSolver s A b x memory) := by
  have divides := divides_quotient s.criteria
  unfold runStored runSolver
  cases s.solver with
  | minimalResidual =>
      exact Stored.MinimalResidual.solve_eq divides implements positive b x memory
  | conjugateGradient => exact Stored.ConjugateGradient.solve_eq divides implements b x memory
  | biconjugateGradient => exact Stored.BiconjugateGradient.solve_eq divides implements b x memory

namespace Handle

/-! ## The solve -/

/-- The slice from which a run starts. -/
def start (h : Handle γ σ) (x : Slice) : Slice := if h.settings.keepGuess then x else x.fill 0.0

/-- Copy other entries into a slice, as many as it has. -/
def copyInto (v : Slice) (entries : Array Float) : Except Fault Slice :=
  if entries.size = v.size then .ok { v with entries }
  else .error (.lengthMismatch v.size entries.size)

/-- What a handle makes of the report of a method that started from the slice `start`. -/
def conclude (h : Handle γ σ) (start : Slice) (report : Stored.Report σ EngineError Float) :
    Outcome γ σ :=
  let monitored := if h.settings.monitor then Event.ofHistory report.history else []
  match report.result with
  | .error e => ⟨.error e, h, start, report.memory, monitored⟩
  | .ok stats =>
    match copyInto start report.solution with
    | .error fault => ⟨.error (.fault fault), h, start, report.memory, monitored⟩
    | .ok solution =>
      ⟨.ok stats.reason, { h with last := some stats }, solution, report.memory,
        monitored ++ [.solved h.scope h.settings.solver stats]⟩

/-- Solve on storage with the operator `op`. -/
def storedRun (h : Handle γ σ) (op : Shell γ σ) (b x : Slice) (memory : σ) : Outcome γ σ :=
  h.conclude (h.start x)
    (runStored h.settings op.onBuffers b.entries (h.start x).entries memory)

/-- Solve on storage with the bound operator, once the handle is set up. -/
def storedSolveReady (h : Handle γ σ) (b x : Slice) (memory : σ) : Outcome γ σ :=
  match h.operator with
  | none => refuse h (.wrongState "KSP has no operator") x memory []
  | some op =>
    if b.size ≠ op.size then refuse h (.sizeMismatch op.size b.size) x memory []
    else if x.size ≠ op.size then refuse h (.sizeMismatch op.size x.size) x memory []
    else h.storedRun op b x memory

/-- Solve `A x = b` on storage, setting up first if need be. -/
def storedSolve (h : Handle γ σ) (b x : Slice) (memory : σ) : Outcome γ σ :=
  if h.isSetUp then h.storedSolveReady b x memory
  else match h.setUp with
    | (.error e, h, log) => refuse h e x memory log
    | (.ok (), h, log) =>
      let out := h.storedSolveReady b x memory
      { out with log := log ++ out.log }

variable {h : Handle γ σ} {op : Shell γ σ} {b x : Slice}

theorem conclude_ofReport (h : Handle γ σ) {n : Nat} (guess : Vector Float n) (globalSize : Nat)
    {report : Report σ (Failure EngineError) Float n}
    (untouched : ∀ e, report.result = .error e → report.solution = guess) :
    h.conclude ⟨guess.toArray, globalSize⟩ (Stored.ofReport report) =
      .ofReport h globalSize report := by
  have copied : copyInto ⟨guess.toArray, globalSize⟩ report.solution.toArray =
      .ok ⟨report.solution.toArray, globalSize⟩ :=
    if_pos (report.solution.size_toArray.trans guess.size_toArray.symm)
  unfold conclude Outcome.ofReport Stored.ofReport
  dsimp only
  cases answer : report.result with
  | error e => rw [untouched e answer]
  | ok stats =>
      dsimp only
      rw [copied]

theorem storedRun_eq (admissible : h.settings.Admissible) (hb : b.size = op.size)
    (hx : x.size = op.size) (memory : σ) :
    h.storedRun op b x memory = h.run op ⟨b.entries, hb⟩ ⟨x.entries, hx⟩ x.globalSize memory := by
  let rhs : Vector Float op.size := ⟨b.entries, hb⟩
  let guess := h.guess ⟨x.entries, hx⟩
  have start : h.start x = ⟨guess.toArray, x.globalSize⟩ := (guess_slice h hx).symm
  have stored : runStored h.settings op.onBuffers b.entries guess.toArray memory =
      Stored.ofReport (runSolver h.settings op.apply rhs guess memory) :=
    runStored_eq op.implements_onBuffers admissible.restart rhs guess memory
  unfold storedRun
  rw [start, stored]
  exact conclude_ofReport h guess x.globalSize fun _ => runSolver_error

theorem storedSolveReady_eq (admissible : h.settings.Admissible) (b x : Slice) (memory : σ) :
    h.storedSolveReady b x memory = h.solveReady b x memory := by
  unfold storedSolveReady solveReady
  cases h.operator with
  | none => rfl
  | some op =>
      dsimp only
      by_cases hb : b.size = op.size
      · by_cases hx : x.size = op.size
        · rw [if_neg (not_not_intro hb), if_neg (not_not_intro hx), dif_pos hb, dif_pos hx]
          exact storedRun_eq admissible hb hx memory
        · rw [if_neg (not_not_intro hb), if_pos hx, dif_pos hb, dif_neg hx]
      · rw [if_pos hb, dif_neg hb]

/-- A solve on storage leaves what a solve leaves. -/
theorem Kept.storedSolve_eq (kept : h.Kept) (b x : Slice) (memory : σ) :
    h.storedSolve b x memory = h.solve b x memory := by
  unfold storedSolve solve
  by_cases on : h.isSetUp = true
  · rw [if_pos on, if_pos on]
    exact storedSolveReady_eq (kept on).settings b x memory
  · rw [if_neg on, if_neg on]
    by_cases solvable : h.Solvable
    · obtain ⟨done, ready⟩ := setUp_of_solvable solvable
      obtain ⟨log, setUp⟩ : ∃ log, h.setUp = (.ok (), { h with isSetUp := true }, log) :=
        ⟨h.setUp.2.2, Prod.ext done (Prod.ext ready rfl)⟩
      rw [setUp]
      dsimp only
      rw [storedSolveReady_eq (h := { h with isSetUp := true }) solvable.settings]
    · obtain ⟨e, -, failed⟩ := setUp_of_not_solvable solvable
      rw [failed]

/-! ## Answers -/

/-- Minimal residuals, if they are chosen, have room for their basis. -/
def HasRoom (h : Handle γ σ) : Prop :=
  h.settings.solver = .minimalResidual →
    Storage.HasRoom (h.settings.restart + 1) Storage.vectorBytes

theorem runSolver_answers (room : h.HasRoom) (able : op.hasMultiply = true)
    (faultless : op.Faultless) (b x : Vector Float op.size) (memory : σ) (fault : Fault) :
    (runSolver h.settings op.apply b x memory).result ≠ .error (.fault fault) := by
  obtain ⟨f, multiply⟩ := Option.isSome_iff_exists.mp able
  have ops : op.apply.FailsOnly fun e => ∀ fault, e ≠ .fault fault := by
    rintro x y memory e failed fault rfl
    rw [Shell.apply_of_multiply multiply] at failed
    exact faultless f multiply x y memory fault failed
  have leaves : (runSolver h.settings op.apply b x memory).Leaves (fun _ => True)
      fun e _ => ∀ fault, e ≠ .fault fault :=
    runSolver_leaves ops.leaves (fun choice full => absurd (room choice) full) b x trivial
  exact fun failed => leaves.2 _ failed fault rfl

/-- How a solve ends. -/
theorem Kept.answers (kept : h.Kept) (room : h.HasRoom)
    (faultless : ∀ op, h.operator = some op → op.Faultless) (b x : Slice) (memory : σ) :
    (∃ reason, (h.solve b x memory).result = .ok reason) ∨
      ∃ e, (h.solve b x memory).result = .error (.error e) := by
  have solves := kept.solves b x memory
  generalize h.solve b x memory = out at solves
  cases solves with
  | refused => exact .inr ⟨_, rfl⟩
  | misfit => exact .inr ⟨_, rfl⟩
  | @ran op log bound able admissible hb hx =>
      have answers := runSolver_answers room able (faultless op bound) ⟨b.entries, hb⟩
        (h.guess ⟨x.entries, hx⟩) memory
      rw [Outcome.ofReport_result]
      cases answer : (runSolver h.settings op.apply ⟨b.entries, hb⟩ (h.guess ⟨x.entries, hx⟩)
        memory).result with
      | ok stats => exact .inl ⟨_, rfl⟩
      | error e =>
          cases e with
          | error e => exact .inr ⟨e, rfl⟩
          | fault fault => exact absurd answer (answers fault)

/-- **A solve with a handle breaks no promise.**  Whatever was called on the handle before, and for
slices of any lengths: the solve on storage, in which each access and each pair of lengths is
checked, leaves what the solve leaves.  If the multiply is faultless and the basis of minimal
residuals has room, it answers a reason or an error, and no fault.  Every iteration of minimal
residuals works in storage that has a basis vector for each column and one more, all of the
operator's length, and the full size of everything else. -/
theorem storedSolve_answers (comm : Communicator) (calls : List (Call γ σ)) :
    let h : Handle γ σ := (create comm).afterAll calls
    (∀ b x memory, h.storedSolve b x memory = h.solve b x memory) ∧
    (h.HasRoom → (∀ op, h.operator = some op → op.Faultless) → ∀ b x memory,
      (∃ reason, (h.storedSolve b x memory).result = .ok reason) ∨
        ∃ e, (h.storedSolve b x memory).result = .error (.error e)) ∧
    ∀ op b x memory, h.Reaches op b x → h.settings.solver = .minimalResidual → h.HasRoom →
      ∀ origin s t,
        (Stored.MinimalResidual.method quotient op.onBuffers h.settings.criteria
            h.settings.restart b.entries).Visits
          op.onBuffers h.settings.criteria b.entries (h.start x).entries memory origin s t →
        s.stats.reason = .iterating →
        ∃ cycle, s.carried.storage quotient h.settings.restart = .ok cycle ∧
          cycle.Shaped h.settings.restart op.size := by
  intro h
  have kept : h.Kept := kept_afterAll calls (kept_create comm)
  refine ⟨kept.storedSolve_eq, ?_, ?_⟩
  · intro room faultless b x memory
    rw [kept.storedSolve_eq]
    exact kept.answers room faultless b x memory
  · intro op b x memory reaches choice room origin s t visits live
    have start : h.start x = ⟨(h.guess ⟨x.entries, reaches.solution⟩).toArray, x.globalSize⟩ :=
      (guess_slice h reaches.solution).symm
    rw [start] at visits
    exact Stored.MinimalResidual.exists_shaped_of_visits (b := ⟨b.entries, reaches.rhs⟩)
      (divides_quotient _) op.implements_onBuffers reaches.solvable.settings.restart (room choice)
      visits live

/-- An operator that doubles its argument: the space stops growing in the first iteration, and the
basis is not extended.  The solve answers, and its first iteration has a basis of one vector. -/
theorem storedSolve_answers_breakdown :
    let op : Shell Unit Nat :=
      ⟨.serial, 2, 2, (), some (Operators.Flat.multiply (.always (.rule (.scale 2.0))) 2)⟩
    let h : Handle Unit Nat := (create .serial).afterAll [.setOperator op]
    let b : Slice := ⟨#[1.0, 2.0], 2⟩
    let x : Slice := ⟨#[0.0, 0.0], 2⟩
    (h.HasRoom ∧ (∀ op, h.operator = some op → op.Faultless) ∧ h.Reaches op b x ∧
        h.settings.solver = .minimalResidual) ∧
      h.storedSolve b x 0 = h.solve b x 0 ∧
      (h.storedSolve b x 0).result = .ok .relative ∧
      ((∃ reason, (h.storedSolve b x 0).result = .ok reason) ∨
        ∃ e, (h.storedSolve b x 0).result = .error (.error e)) ∧
      ∃ origin s t,
        (Stored.MinimalResidual.method quotient op.onBuffers h.settings.criteria
            h.settings.restart b.entries).Visits
          op.onBuffers h.settings.criteria b.entries (h.start x).entries 0 origin s t ∧
        s.stats.reason = .iterating ∧
        ∃ cycle, s.carried.storage quotient h.settings.restart = .ok cycle ∧ cycle.Shaped 30 2 := by
  intro op h b x
  have room : h.HasRoom := fun _ => by decide
  have faultless : ∀ op, h.operator = some op → op.Faultless := by
    rintro _ ⟨⟩ f ⟨⟩ x y memory fault
    exact nofun
  have admissible : h.settings.Admissible := Settings.validate_eq_ok_iff.mp (by decide +kernel)
  have reaches : h.Reaches op b x := ⟨rfl, ⟨⟨op, rfl, rfl⟩, admissible⟩, rfl, rfl⟩
  obtain ⟨same, answers, shaped⟩ := storedSolve_answers .serial [.setOperator op]
  have result : (h.storedSolve b x 0).result = .ok .relative := by
    rw [same b x 0]
    decide +kernel
  let r : Vector Float 2 := #v[1.0, 2.0]
  have image : (Stored.residual op.onBuffers b.entries (h.start x).entries ⟨0, #[]⟩).1 =
      .ok r.toArray := by
    decide +kernel
  have visits : (Stored.MinimalResidual.method quotient op.onBuffers h.settings.criteria
      h.settings.restart b.entries).Visits op.onBuffers h.settings.criteria b.entries
        (h.start x).entries 0 (Flat.norm r) _ _ :=
    .first (Prod.ext image rfl) (Stored.MinimalResidual.begin_eq r)
  have live : h.settings.criteria.check (Flat.norm r) (Flat.norm r) 0 = .iterating := by
    decide +kernel
  refine ⟨⟨room, faultless, reaches, rfl⟩, same b x 0, result, answers room faultless b x 0, ?_⟩
  exact ⟨_, _, _, visits, live, shaped op b x 0 reaches rfl room _ _ _ visits live⟩

end Handle

end MatrixFree.Engine
