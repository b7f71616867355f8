import MatrixFree.Krylov.Convergence
import MatrixFree.Options.Solver
import MatrixFree.Text.Number

/-!
# Events

What a solver handle or a session tells a log about its work. An event holds what happened; its line
in a log, with the level in front, is made by `Event.line`.
-/

namespace MatrixFree.Engine

open Text Options

inductive Event where
  /-- A handle was set up for an operator of the given local and global size. -/
  | handleReady (scope : String) (solver : Solver) (size globalSize : Nat)
  /-- A monitored residual norm. -/
  | residual (iteration : Nat) (norm : Float)
  /-- A solve ended with a verdict. -/
  | solved (scope : String) (solver : Solver) (stats : Krylov.Stats Float)
  /-- A session was set up. -/
  | sessionReady (scope : String) (size globalSize : Nat) (solver : Solver)
  /-- An inversion was checked and does not reproduce its right-hand side. -/
  | unverified (scope : String) (difference tolerance rhs image solution : Float)
  /-- A session lets go of its solver handle, shown as it was. -/
  | releasing (scope view : String)

namespace Event

/-- How much attention an event asks for. -/
def level : Event → String
  | residual .. => "INFO"
  | unverified .. => "WARN"
  | _ => "DEBUG"

def message : Event → String
  | handleReady scope solver size globalSize =>
    let square := fun (n : Nat) => tuple [toString n, toString n]
    "KSP " ++ scope ++ ": set up " ++ solver.word ++ " on local size " ++ square size
      ++ ", global size " ++ square globalSize
  | residual iteration norm =>
    padLeft 4 (toString iteration) ++ " KSP Residual norm " ++ Number.monitored norm
  | solved scope solver stats =>
    "KSP " ++ scope ++ ": " ++ solver.word ++ " finished with converged reason "
      ++ stats.reason.text ++ " after " ++ toString stats.iterations ++ " iterations (residual "
      ++ Number.scientific stats.residual ++ ")"
  | sessionReady scope size globalSize solver =>
    "invertible operator " ++ scope ++ ": set up " ++ toString size ++ " local / "
      ++ toString globalSize ++ " global entries, KSP type " ++ solver.word
  | unverified scope difference tolerance rhs image solution =>
    "invertible operator " ++ scope ++ ": verify failed, max |A(x) - b| = "
      ++ Number.scientific difference ++ " (tolerance " ++ Number.scientific tolerance
      ++ "); max |b| = " ++ Number.scientific rhs ++ ", max |A(x)| = " ++ Number.scientific image
      ++ ", max |x| = " ++ Number.scientific solution
  | releasing scope view => "invertible operator " ++ scope ++ ": releasing\n" ++ view

/-- The event as a line of a log. -/
def line (e : Event) : String := e.level ++ " " ++ e.message

/-- The monitored residuals of a run. -/
def ofHistory (history : Array (Nat × Float)) : List Event :=
  history.toList.map fun (i, norm) => residual i norm

end Event

end MatrixFree.Engine
