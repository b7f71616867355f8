import MatrixFree.Engine.Context
import MatrixFree.Engine.Shell
import MatrixFree.Operators.Rule
import MatrixFree.Operators.Staged

/-!
# Ready-made operators on flat vectors

Operators of the engine, which may fail with an engine error, and three multiplies for shell
operators under a context of unknown type.
-/

namespace MatrixFree.Operators

open Engine

/-- An operator on flat vectors. -/
inductive Flat where
  /-- The input, as far as it and the image reach. -/
  | identity
  | rule (r : Rule)
  | fails (e : EngineError)

namespace Flat

/-- Multiply `x` into `y`. -/
def run {n : Nat} (o : Flat) (x : Array Float) (y : Vector Float n) :
    Except (Failure EngineError) (Vector Float n) :=
  match o with
  | identity => .ok (y.mapIdx fun i old => x.getD i old)
  | rule r => .ok (r.apply 1 x y)
  | fails e => .error (.error e)

/-- The operator of a system of `n` equations. -/
def action (s : Staged Flat) (n : Nat) : Krylov.Action Nat (Failure EngineError) Float n :=
  fun x => s.operator fun o y => o.run x y

/-- The same as a multiply of a shell operator. -/
def multiply (s : Staged Flat) (n : Nat) : Multiply Unit Nat n := fun _ x => action s n x.toArray

end Flat

/-- A multiply that reads its context. -/
inductive ContextMultiply where
  /-- Multiplies by the word in the context. -/
  | scaleByWord
  | negate
  | fails (what : String)

namespace ContextMultiply

variable {n : Nat}

def run (m : ContextMultiply) (c : Context) (x : Vector Float n) :
    Except EngineError (Vector Float n) :=
  match m with
  | scaleByWord => c.word?.map fun w => x.map (w.toUInt64.toFloat * ·)
  | negate => .ok (x.map (-·))
  | fails what => .error (.callback (.text what))

def multiply (m : ContextMultiply) (n : Nat) : Multiply Context Unit n :=
  fun c x _ memory => ((m.run c x).mapError .error, memory)

end ContextMultiply

end MatrixFree.Operators
