import MatrixFree.Session.Adapter

/-!
# Operators that can only be applied

A stand-in with the calls of a session, for programs without a solver: it applies its operator
function, and refuses whatever would invert it.
-/

namespace MatrixFree

open Grid

/-- An operator function that cannot be inverted. -/
structure ApplyOnly (k : Kind) (σ : Type) where
  mesh : Mesh
  adapter : Adapter k σ

namespace ApplyOnly

variable {k : Kind} {σ : Type}

/-- The identity on a mesh. -/
def create (mesh : Mesh) (memory : σ) : ApplyOnly k σ := ⟨mesh, .identity memory⟩

def withFunction (a : ApplyOnly k σ) (function : FieldOperator k σ) (memory : σ) : ApplyOnly k σ :=
  { a with adapter := ⟨function, memory⟩ }

/-- The answer to every call that needs a solver. -/
def refusal : SessionError := .unsupported "inversion requires the `ksp` feature"

def setup (_ : ApplyOnly k σ) : Except SessionError Nat := .error refusal

def invert (_ : ApplyOnly k σ) (_ : Field k) : Except SessionError (Field k) := .error refusal

def verify (_ : ApplyOnly k σ) (_ : Field k) (_ : Float) : Except SessionError Bool :=
  .error refusal

def apply (a : ApplyOnly k σ) (f : Field k) : Except Fault (Field k) × ApplyOnly k σ :=
  let (answer, adapter) := a.adapter.apply f
  (answer, { a with adapter })

end ApplyOnly

end MatrixFree
