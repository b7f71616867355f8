import MatrixFree.Scalar

/-!
# Least squares for a Hessenberg system, one column at a time

An upper Hessenberg matrix grows by a column per iteration, and so does the triangular system that
plane rotations make of it. `Triangular` holds that system by rows, each with its right-hand side,
the rotations made so far, and the one entry of the right-hand side that no row has taken yet: its
magnitude is the least-squares residual.

* `Rotation.sweep` carries a new column through the rotations of the earlier ones.
* `Triangular.push` adds a column and the rotation that removes its last entry.
* `backSubstitute` solves the triangular system; a pivot that is only noise gives a zero entry.
-/

namespace MatrixFree.Krylov

variable {α : Type} [Scalar α]

/-- A plane rotation, by its cosine and sine. -/
structure Rotation (α : Type) where
  cos : α
  sin : α

namespace Rotation

/-- The upper entry of the rotated pair. -/
def upper (r : Rotation α) (a b : α) : α := r.cos * a + r.sin * b

/-- The lower entry of the rotated pair. -/
def lower (r : Rotation α) (a b : α) : α := -r.sin * a + r.cos * b

/-- The rotation that takes `(a, b)` to the first axis; none at all if both are noise. -/
def align (a b : α) : Rotation α :=
  let radius := Scalar.sqrt (a * a + b * b)
  if Scalar.lt (Scalar.abs radius) Scalar.noise then ⟨1, 0⟩ else ⟨a / radius, b / radius⟩

/-- Carry a column with top entry `a` and further entries `col` through the rotations. The answer
is the entries that are final and the one that arrives below them. -/
def sweep : List (Rotation α) → (a : α) → (col : List α) → List α × α
  | r :: rs, a, b :: col =>
    let (done, last) := sweep rs (r.lower a b) col
    (r.upper a b :: done, last)
  | _, a, _ => ([], a)

end Rotation

/-- A row of an upper triangular system. -/
structure Row (α : Type) where
  pivot : α
  /-- The entries right of the pivot. -/
  right : List α
  rhs : α

namespace Row

def extend (row : Row α) (a : α) : Row α := { row with right := row.right ++ [a] }

/-- The unknown of the row, given those of the rows below. -/
def solve (row : Row α) (below : List α) : α :=
  let rest := (row.right.zip below).foldl (fun acc (h, y) => acc - h * y) row.rhs
  if Scalar.lt Scalar.noise (Scalar.abs row.pivot) then rest / row.pivot else 0

end Row

/-- The unknowns of an upper triangular system. -/
def backSubstitute : List (Row α) → List α
  | [] => []
  | row :: rows =>
    let below := backSubstitute rows
    row.solve below :: below

theorem length_backSubstitute (rows : List (Row α)) :
    (backSubstitute rows).length = rows.length := by
  induction rows with
  | nil => rfl
  | cons row rows ih => exact congrArg Nat.succ ih

/-- A Hessenberg least-squares problem after its rotations. -/
structure Triangular (α : Type) where
  rotations : List (Rotation α)
  rows : List (Row α)
  /-- The entry of the right-hand side below the last row. -/
  pending : α

namespace Triangular

/-- The problem without columns, of right-hand side `beta` times the first axis. -/
def start (beta : α) : Triangular α := ⟨[], [], beta⟩

/-- Add the column with top entry `a`, further entries `col`, and last entry `b` below them. -/
def push (p : Triangular α) (a : α) (col : List α) (b : α) : Triangular α :=
  let (done, last) := Rotation.sweep p.rotations a col
  let r := Rotation.align last b
  let row : Row α := ⟨r.upper last b, [], r.upper p.pending 0⟩
  { rotations := p.rotations ++ [r]
    rows := List.zipWith Row.extend p.rows done ++ [row]
    pending := r.lower p.pending 0 }

/-- The minimizer. -/
def solution (p : Triangular α) : List α := backSubstitute p.rows

/-- The norm that the minimizer leaves. -/
def residual (p : Triangular α) : α := Scalar.abs p.pending

end Triangular

end MatrixFree.Krylov
