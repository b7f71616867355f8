import MatrixFree.Krylov.Run

/-!
# Conjugate gradients

The method for symmetric positive definite operators. One application of the operator per
iteration; a search direction on which the operator is not positive ends the run, and the record then
keeps the residual and the count of the iteration before.
-/

namespace MatrixFree.Krylov.ConjugateGradient

variable {σ ε α : Type} [Scalar α] {m n : Nat}

/-- Residual, search direction, and the square of the residual norm. -/
structure Carried (α : Type) (n : Nat) where
  res : Vector α n
  direction : Vector α n
  square : α

def begin (r : Vector α n) : Carried α n := ⟨r, r, Flat.dot r r⟩

/-- The verdict on a search direction, from `p · A p`; `none` if the step can be taken. -/
def curvatureVerdict (pap : α) : Option Reason :=
  if !Scalar.isFinite pap then some .notFinite
  else if Scalar.le pap 0 then
    some (if Scalar.same pap 0 then .breakdown else .indefinite)
  else none

/-- The iterate after a step along the direction `p` with `ap = A p` and `pap = p · A p`. -/
def move (criteria : Criteria α) (origin : α) (it : Iterate (Carried α n) α m)
    (ap : Vector α n) (pap : α) : Iterate (Carried α n) α m :=
  let ⟨r, p, rsq⟩ := it.carried
  let length := rsq / pap
  let r := Flat.subMul r length ap
  let rsq' := Flat.dot r r
  { solution := Flat.correct it.solution length p
    stats := criteria.stats (Scalar.sqrt rsq') origin (it.stats.iterations + 1)
    carried := ⟨r, Flat.addMul r (rsq' / rsq) p, rsq'⟩ }

def step (A : Action σ ε α n) (criteria : Criteria α) (origin : α) :
    Step (Carried α n) σ ε α m := fun it t =>
  match t.multiply A it.carried.direction with
  | (.error e, t) => (.error e, t)
  | (.ok ap, t) =>
    let pap := Flat.dot it.carried.direction ap
    match curvatureVerdict pap with
    | some reason => (.ok { it with stats := it.stats.stopped reason }, t)
    | none =>
      let it := move criteria origin it ap pap
      (.ok it, t.note it.stats.iterations it.stats.residual)

/-- Conjugate gradients for `A`. -/
def method (A : Action σ ε α n) (criteria : Criteria α) : Method (Carried α n) σ ε α n m :=
  ⟨fun r _ => begin r, step A criteria⟩

/-- Solve `A x = b` by conjugate gradients from the guess `x`. -/
def solve (A : Action σ ε α n) (criteria : Criteria α) (b : Vector α n) (x : Vector α m)
    (memory : σ) : Report σ ε α m :=
  (method A criteria).solve A criteria b x memory

end MatrixFree.Krylov.ConjugateGradient
