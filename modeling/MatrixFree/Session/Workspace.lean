import MatrixFree.Engine.Shell
import MatrixFree.Session.Adapter
import MatrixFree.Timing

/-!
# The workspace of a session

What a session shares with its shell operator: the adapter and the record of what was measured. It is
the memory of the shell's multiply, so every multiply runs the function that is installed then.

`fieldMultiply` is that multiply. It makes a field of a flat vector, applies the function, and makes
a flat vector of the answer, which has to live on the session's mesh and hold values.

How long a phase takes is for a clock to say. The workspace keeps the phases themselves, one entry
for each that was measured to its end, the last one first.
-/

namespace MatrixFree

open Grid Engine

/-- What a session and its shell operator share. -/
structure Workspace (k : Kind) (σ : Type) where
  adapter : Adapter k σ
  measured : List Phase

namespace Workspace

variable {k : Kind} {σ : Type}

/-- Note that a phase was measured. -/
def measure (w : Workspace k σ) (phase : Phase) : Workspace k σ :=
  { w with measured := phase :: w.measured }

/-- Apply the function in use. -/
def apply (w : Workspace k σ) (f : Field k) : Except Fault (Field k) × Workspace k σ :=
  let (answer, adapter) := w.adapter.apply f
  (answer, { w with adapter })

end Workspace

/-- A session's error as the failure of a multiply. -/
def SessionError.asFailure (e : SessionError) : Failure EngineError :=
  .error (.callback (.session e))

/-- A failure inside a multiply, as the engine sees it. -/
def Failure.inMultiply : Failure SessionError → Failure EngineError
  | .error e => e.asFailure
  | .fault f => .fault f

/-- The action of the function in use on flat vectors, for fields on a mesh. -/
def fieldMultiply (k : Kind) (σ : Type) (n : Nat) : Multiply Mesh (Workspace k σ) n :=
  fun mesh x _ w =>
    match (Field.new mesh : Field k).withVector x with
    | .error e => (.error e.inMultiply, w)
    | .ok input =>
      match (w.measure .packing).apply input with
      | (.error fault, w) => (.error (.fault fault), w)
      | (.ok output, w) =>
        if output.mesh ≠ mesh then (.error SessionError.foreignResult.asFailure, w)
        else match output.toVector n with
          | .error e => (.error e.asFailure, w)
          | .ok y => (.ok y, w.measure .packing)

end MatrixFree
