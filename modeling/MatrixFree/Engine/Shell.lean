import MatrixFree.Communicator
import MatrixFree.Failure
import MatrixFree.Krylov.Run
import MatrixFree.Slice

/-!
# Shell operators

A shell operator has the shape of a square matrix and no entries. It holds a context and, once one
is registered, a multiply that works on the local entries of a vector. The multiply is handed the
context, so that one multiply serves many operators.
-/

namespace MatrixFree.Engine

open Text

/-- A multiply of local vectors of length `n` into another, under a context. -/
abbrev Multiply (γ σ : Type) (n : Nat) :=
  γ → Vector Float n → Krylov.Operator σ (Failure EngineError) (Vector Float n) (Vector Float n)

/-- An operator that is known by its action, with context `γ` and a multiply with memory `σ`. -/
structure Shell (γ σ : Type) where
  comm : Communicator
  /-- Local rows, and as many local columns. -/
  size : Nat
  globalSize : Nat
  context : γ
  multiply : Option (Multiply γ σ size)

namespace Shell

variable {γ σ : Type}

/-- A shell operator without a multiply. Its global size is the sum of the local sizes, and one that
is given has to be that sum. -/
def create (comm : Communicator) (rows cols : Nat) (global : Option Nat) (context : γ) :
    Except EngineError (Shell γ σ) :=
  let total := comm.total rows
  if rows ≠ cols then .error (.unsupported "non-square shell operator")
  else match global with
    | some g =>
      if g ≠ total then .error (.sizeMismatch total g) else .ok ⟨comm, rows, g, context, none⟩
    | none => .ok ⟨comm, rows, total, context, none⟩

/-- Register the multiply. -/
def withMultiply (s : Shell γ σ) (f : Multiply γ σ s.size) : Shell γ σ :=
  { s with multiply := some f }

def hasMultiply (s : Shell γ σ) : Bool := s.multiply.isSome

/-- The error of an operator that has no multiply yet. -/
def noMultiply : EngineError := .wrongState "shell operator has no multiply registered"

/-- The action of the operator, on vectors that fit it. -/
def apply (s : Shell γ σ) : Krylov.Action σ (Failure EngineError) Float s.size :=
  fun x y memory =>
    if h : x.size = s.size then
      match s.multiply with
      | some f => f s.context ⟨x, h⟩ y memory
      | none => (.error (.error noMultiply), memory)
    else (.error (.error (.sizeMismatch s.size x.size)), memory)

theorem apply_of_multiply {s : Shell γ σ} {f : Multiply γ σ s.size} (h : s.multiply = some f)
    (x y : Vector Float s.size) (memory : σ) :
    s.apply x.toArray y memory = f s.context x y memory := by
  simp [apply, h]

/-- Multiply `x` into the buffer `y`, both of which have to fit the operator; `x` is checked first. The
answer holds the buffer afterwards. -/
def multiplyInto (s : Shell γ σ) (x y : Array Float) (memory : σ) :
    Except (Failure EngineError) Unit × Array Float × σ :=
  if h : y.size = s.size then
    match s.apply x ⟨y, h⟩ memory with
    | (.ok image, memory) => (.ok (), image.toArray, memory)
    | (.error e, memory) => (.error e, y, memory)
  else
    let found := if x.size = s.size then y.size else x.size
    (.error (.error (.sizeMismatch s.size found)), y, memory)

/-- A zero vector that fits the operator, on either side of it. -/
def zeros (s : Shell γ σ) : Except Fault Slice := Slice.zeros s.size s.globalSize

/-- The operator's shape and state, as a structured text. -/
def detail (s : Shell γ σ) : String :=
  let square := fun (n : Nat) => tuple [toString n, toString n]
  record "ShellMat"
    [("local", square s.size), ("global", square s.globalSize), ("has_context", "true"),
      ("has_mult", toString s.hasMultiply)]

end Shell

end MatrixFree.Engine
