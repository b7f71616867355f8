import MatrixFree.Scalar

/-!
# Rules for flat vectors

Ready-made operators on flat vectors, each given entry by entry. The neighbours of a tridiagonal rule
are a stride apart, so that the rule can run along the outermost direction of a field.

Input and image may differ in length. Then most rules write the entries of the image that the input has
too, a dense rule writes one for each of its rows, and what is not written stays as it was.
-/

namespace MatrixFree.Operators

/-- How an entry of the image is computed. -/
inductive Rule where
  | zero
  | const (c : Float)
  | scale (a : Float)
  /-- Factors that repeat from the first on. -/
  | diagonal (factors : Array Float)
  | square
  /-- Each entry moves to the next place, the last to the first. -/
  | cyclic
  | dense (rows : Array (List Float))
  /-- Multiples of an entry and its neighbours; beyond the ends there are zeros, or the other end. -/
  | tridiagonal (left center right : Float) (periodic : Bool)

namespace Rule

/-- An entry by position, zero outside the vector. -/
def valueAt (x : Array Float) (i : Nat) : Float := x.getD i 0.0

/-- The neighbour on the left. -/
def leftOf (x : Array Float) (stride i : Nat) (periodic : Bool) : Float :=
  if stride ≤ i then valueAt x (i - stride)
  else if periodic then valueAt x (i + x.size - stride) else 0.0

/-- The neighbour on the right. -/
def rightOf (x : Array Float) (stride i : Nat) (periodic : Bool) : Float :=
  if i + stride < x.size then valueAt x (i + stride)
  else if periodic then valueAt x (i + stride - x.size) else 0.0

/-- A row times a vector, up to the end of the shorter. -/
def rowTimes (row : List Float) (x : Array Float) : Float :=
  (row.zip x.toList).foldl (fun acc (a, b) => acc + a * b) 0.0

/-- The entry of the image at a position, if the rule writes one there. -/
def entry? (r : Rule) (stride : Nat) (x : Array Float) (i : Nat) : Option Float :=
  match r with
  | zero => some 0.0
  | const c => some c
  | scale a => x[i]?.map (a * ·)
  | diagonal factors => x[i]?.map (factors.getD (i % factors.size) 0.0 * ·)
  | square => x[i]?.map fun v => v * v
  | cyclic => x[i]?.map fun _ => valueAt x ((i + x.size - 1) % x.size)
  | dense rows => rows[i]?.map (rowTimes · x)
  | tridiagonal left center right periodic =>
    x[i]?.map fun v =>
      (left * leftOf x stride i periodic + center * v) + right * rightOf x stride i periodic

/-- Multiply `x` into `y`. -/
def apply {n : Nat} (r : Rule) (stride : Nat) (x : Array Float) (y : Vector Float n) :
    Vector Float n :=
  y.mapIdx fun i old => (r.entry? stride x i).getD old

end Rule

end MatrixFree.Operators
