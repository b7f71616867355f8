import MatrixFree.Engine.Event
import MatrixFree.Engine.Shell
import MatrixFree.Krylov.BiconjugateGradient
import MatrixFree.Krylov.ConjugateGradient
import MatrixFree.Krylov.MinimalResidual
import MatrixFree.Options.Settings
import MatrixFree.Text.Blank

/-!
# Solver handles

A handle brings a shell operator and settings together. It is set up before the first solve, and
again after any change of operator or settings; setting up checks both. `solve` then runs the chosen
method, from zero unless the settings keep the guess, and remembers the record of the run.

Each call answers its result together with the handle afterwards. An operator that fails in the
middle of a solve leaves the vector from which the solve started.
-/

namespace MatrixFree.Engine

open Text Options Krylov

/-- Run the solver that the settings choose. -/
def runSolver {σ ε : Type} {m n : Nat} (s : Settings) (A : Action σ (Failure ε) Float n)
    (b : Vector Float n) (x : Vector Float m) (memory : σ) : Report σ (Failure ε) Float m :=
  match s.solver with
  | .minimalResidual => MinimalResidual.solve A s.criteria s.restart b x memory
  | .conjugateGradient => ConjugateGradient.solve A s.criteria b x memory
  | .biconjugateGradient => BiconjugateGradient.solve A s.criteria b x memory

/-- A solver bound to an operator. -/
structure Handle (γ σ : Type) where
  comm : Communicator
  operator : Option (Shell γ σ)
  /-- What stands in front of the keys of this handle's options. -/
  scope : String
  settings : Settings
  isSetUp : Bool
  /-- The record of the last solve with a verdict. -/
  last : Option (Stats Float)

namespace Handle

variable {γ σ : Type}

/-- A handle without an operator, in default settings. -/
def create (comm : Communicator) : Handle γ σ := ⟨comm, none, "", .default, false, none⟩

/-- Bind an operator. -/
def setOperator (h : Handle γ σ) (op : Shell γ σ) : Handle γ σ :=
  { h with operator := some op, isSetUp := false }

/-- A scope may be any text without blanks that does not start with a dash. -/
def admitsScope (scope : String) : Bool :=
  scope.toList.head? ≠ some '-' && !scope.toList.any isBlank

/-- Choose the scope of the options. -/
def setScope (h : Handle γ σ) (scope : String) : Except EngineError Unit × Handle γ σ :=
  if admitsScope scope then (.ok (), { h with scope })
  else (.error (.invalidArgument ("invalid options prefix " ++ quote scope)), h)

/-- Take over the settings that a database has under the scope. If they cannot all be taken over,
none is. -/
def setFromOptions (h : Handle γ σ) (db : Database) : Except EngineError Unit × Handle γ σ :=
  match h.settings.apply db h.scope with
  | (.ok (), settings) => (.ok (), { h with settings, isSetUp := false })
  | (.error e, _) => (.error e, h)

def setSolver (h : Handle γ σ) (solver : Solver) : Handle γ σ :=
  { h with settings := { h.settings with solver }, isSetUp := false }

def setTolerances (h : Handle γ σ) (relative absolute growth : Float) (limit : Nat) :
    Handle γ σ :=
  { h with settings := { h.settings with relative, absolute, growth, limit }, isSetUp := false }

/-- What setting up checks: an operator with a multiply, and settings a solve can start with. -/
def checkReady (h : Handle γ σ) : Except EngineError (Shell γ σ) :=
  match h.operator with
  | none => .error (.wrongState "KSP has no operator; call set_operators")
  | some op =>
    if !op.hasMultiply then .error Shell.noMultiply
    else match h.settings.validate with
      | .ok () => .ok op
      | .error e => .error e

/-- Make ready for solves. -/
def setUp (h : Handle γ σ) : Except EngineError Unit × Handle γ σ × List Event :=
  match h.checkReady with
  | .ok op =>
    (.ok (), { h with isSetUp := true },
      [.handleReady h.scope h.settings.solver op.size op.globalSize])
  | .error e => (.error e, h, [])

/-- What a solve leaves. -/
structure Outcome (γ σ : Type) where
  result : Except (Failure EngineError) Reason
  handle : Handle γ σ
  solution : Slice
  memory : σ
  log : List Event

/-- A solve that ends before the operator is applied. -/
def refuse (h : Handle γ σ) (e : EngineError) (x : Slice) (memory : σ) (log : List Event) :
    Outcome γ σ :=
  ⟨.error (.error e), h, x, memory, log⟩

/-- Solve with the operator `op`, for vectors that fit it. -/
def run (h : Handle γ σ) (op : Shell γ σ) (b x : Vector Float op.size) (globalSize : Nat)
    (memory : σ) : Outcome γ σ :=
  let guess := if h.settings.keepGuess then x else Vector.replicate _ 0.0
  let report := runSolver h.settings op.apply b guess memory
  let monitored := if h.settings.monitor then Event.ofHistory report.history else []
  let solution : Slice := ⟨report.solution.toArray, globalSize⟩
  match report.result with
  | .error e => ⟨.error e, h, solution, report.memory, monitored⟩
  | .ok stats =>
    ⟨.ok stats.reason, { h with last := some stats }, solution, report.memory,
      monitored ++ [.solved h.scope h.settings.solver stats]⟩

/-- Solve with the bound operator, once the handle is set up. -/
def solveReady (h : Handle γ σ) (b x : Slice) (memory : σ) : Outcome γ σ :=
  match h.operator with
  | none => refuse h (.wrongState "KSP has no operator") x memory []
  | some op =>
    if hb : b.size = op.size then
      if hx : x.size = op.size then run h op ⟨b.entries, hb⟩ ⟨x.entries, hx⟩ x.globalSize memory
      else refuse h (.sizeMismatch op.size x.size) x memory []
    else refuse h (.sizeMismatch op.size b.size) x memory []

/-- Solve `A x = b`, setting up first if need be. -/
def solve (h : Handle γ σ) (b x : Slice) (memory : σ) : Outcome γ σ :=
  if h.isSetUp then solveReady h b x memory
  else match h.setUp with
    | (.error e, h, log) => refuse h e x memory log
    | (.ok (), h, log) =>
      let out := solveReady h b x memory
      { out with log := log ++ out.log }

/-- Why the last solve stopped; `iterating` before any solve. -/
def reason (h : Handle γ σ) : Reason := h.last.elim .iterating Stats.reason

/-- Iterations of the last solve. -/
def iterations (h : Handle γ σ) : Nat := h.last.elim 0 Stats.iterations

/-- A summary for a reader, one line for each matter. -/
def view (h : Handle γ σ) : String :=
  let s := h.settings
  let lines :=
    ["KSP Object: (" ++ h.scope ++ ") " ++ toString h.comm.size ++ " process(es)",
      "  type: " ++ s.solver.word]
    ++ (if s.solver = .minimalResidual then ["    restart=" ++ toString s.restart] else [])
    ++ ["  maximum iterations=" ++ toString s.limit ++ ", initial guess is "
          ++ (if s.keepGuess then "nonzero" else "zero"),
        "  tolerances: relative=" ++ Number.scientific s.relative ++ ", absolute="
          ++ Number.scientific s.absolute ++ ", divergence=" ++ Number.scientific s.growth]
    ++ (h.operator.map fun op => "  operator: " ++ op.detail).toList
    ++ (h.last.map fun last => "  last solve: " ++ last.reason.text ++ " in "
          ++ toString last.iterations ++ " iterations").toList
  String.join (lines.map (· ++ "\n"))

/-- The handle's state, as a structured text. -/
def detail (h : Handle γ σ) : String :=
  record "Ksp"
    [("prefix", quote h.scope), ("options", h.settings.detail), ("is_set_up", toString h.isSetUp)]

end Handle

end MatrixFree.Engine
