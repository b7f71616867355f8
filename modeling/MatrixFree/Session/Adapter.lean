import MatrixFree.Grid.Field
import MatrixFree.Krylov.Run
import MatrixFree.Text.Layout

/-!
# Operator functions on fields

The user's operator maps a field to a field. An adapter holds the function that is installed at
present together with that function's memory, and can be given another at any time.
-/

namespace MatrixFree

open Grid Text

/-- An operator function on fields of kind `k`, with memory `σ`. -/
abbrev FieldOperator (k : Kind) (σ : Type) := Krylov.Operator σ Fault (Field k) (Field k)

/-- The operator function in use, and its memory. -/
structure Adapter (k : Kind) (σ : Type) where
  function : FieldOperator k σ
  memory : σ

namespace Adapter

variable {k : Kind} {σ : Type}

/-- The function that answers its input. -/
def identity (memory : σ) : Adapter k σ := ⟨fun f memory => (.ok f, memory), memory⟩

/-- Apply the function in use. -/
def apply (a : Adapter k σ) (f : Field k) : Except Fault (Field k) × Adapter k σ :=
  let (answer, memory) := a.function f a.memory
  (answer, { a with memory })

def detail (_ : Adapter k σ) : String := partialRecord "OperatorAdapter" []

end Adapter

end MatrixFree
