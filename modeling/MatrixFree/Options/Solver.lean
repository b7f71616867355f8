import MatrixFree.Failure

/-!
# The choice of a solver

Solvers are chosen by a word, in any mix of ASCII cases.
-/

namespace MatrixFree.Options

open Text

/-- The methods to choose from. -/
inductive Solver where
  | minimalResidual
  | conjugateGradient
  | biconjugateGradient
deriving DecidableEq, Repr

namespace Solver

/-- The word under which a solver is reported. -/
def word : Solver → String
  | minimalResidual => "gmres"
  | conjugateGradient => "cg"
  | biconjugateGradient => "bcgs"

/-- The name of the case. -/
def name : Solver → String
  | minimalResidual => "Gmres"
  | conjugateGradient => "Cg"
  | biconjugateGradient => "Bicgstab"

/-- The solver that a word in lower case stands for. -/
def ofLower? (s : String) : Option Solver :=
  if s = "gmres" then some minimalResidual
  else if s = "cg" then some conjugateGradient
  else if s = "bcgs" ∨ s = "bicgstab" then some biconjugateGradient
  else none

/-- The solver that a word stands for. -/
def ofWord (s : String) : Except EngineError Solver :=
  match ofLower? s.toLower with
  | some solver => .ok solver
  | none => .error (.invalidArgument ("unknown KSP type " ++ quote s.toLower))

end Solver

end MatrixFree.Options
