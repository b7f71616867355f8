import MatrixFree.Failure
import MatrixFree.Scalar

/-!
# Flat vectors

A flat vector is a `Vector α n`: the entries of one process in a fixed order. Inner products are
accumulated from zero in index order, one product and one addition per entry, so that the value of
a rounded product is fixed by its definition and not by a choice of summation. This is the sum of a
build without parallel sums. A build that takes sums in parallel, as the default one does, adds the
same products in an order that depends on scheduling, and is not modelled.
-/

namespace MatrixFree.Flat

variable {α : Type} [Scalar α] {n : Nat}

/-- The zero vector. -/
def zero (n : Nat) : Vector α n := Vector.replicate n 0

/-- Inner product, summed from the first entry to the last by a single thread. -/
def dot (x y : Vector α n) : α := (Vector.zipWith (· * ·) x y).foldl (· + ·) 0

/-- Euclidean norm. -/
def norm (x : Vector α n) : α := Scalar.sqrt (dot x x)

/-- Inner product of two arrays, which have to be of one length. -/
def dotOf (x y : Array α) : Except Fault α :=
  if h : y.size = x.size then .ok (dot x.toVector ⟨y, h⟩) else .error (.lengthMismatch x.size y.size)

/-- `x + c y`. -/
def addMul (x : Vector α n) (c : α) (y : Vector α n) : Vector α n :=
  Vector.zipWith (fun a b => a + c * b) x y

/-- `x + c y` as far as both reach; the entries of `x` beyond `y` stay as they are. -/
def correct {m : Nat} (x : Vector α m) (c : α) (y : Vector α n) : Vector α m :=
  x.mapIdx fun i a => (y[i]?).elim a fun b => a + c * b

theorem correct_eq_addMul (x : Vector α n) (c : α) (y : Vector α n) :
    correct x c y = addMul x c y := by
  ext i h
  simp [correct, addMul, h]

/-- `x - c y`. -/
def subMul (x : Vector α n) (c : α) (y : Vector α n) : Vector α n :=
  Vector.zipWith (fun a b => a - c * b) x y

/-- `x - y`. -/
def sub (x y : Vector α n) : Vector α n := Vector.zipWith (fun a b => a - b) x y

/-- `x / c`. -/
def divBy (x : Vector α n) (c : α) : Vector α n := x.map (· / c)

end MatrixFree.Flat
