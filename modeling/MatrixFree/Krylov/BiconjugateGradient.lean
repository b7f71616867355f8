import MatrixFree.Krylov.Run

/-!
# Stabilized biconjugate gradients

A short recurrence for general operators, with two applications per iteration. The shadow residual
is the first residual. An iteration may end halfway, when the residual after its first half already
converges; each scalar that is about to divide is first compared with the least normal number.

The image of a search direction is multiplied into the image of the direction before, so an operator
that leaves entries as they are leaves them at their earlier values.
-/

namespace MatrixFree.Krylov.BiconjugateGradient

variable {σ ε α : Type} [Scalar α] {m n : Nat}

/-- What an iteration hands to the next. -/
structure Carried (α : Type) (n : Nat) where
  shadow : Vector α n
  res : Vector α n
  direction : Vector α n
  /-- The operator's value at `direction`. -/
  image : Vector α n
  rho : α
  alpha : α
  omega : α

def begin (r : Vector α n) : Carried α n :=
  { shadow := r, res := r, direction := Flat.zero n, image := Flat.zero n
    rho := 1, alpha := 1, omega := 1 }

/-- Too small to divide by. -/
def vanishes (x : α) : Bool := Scalar.lt (Scalar.abs x) Scalar.tiny

/-- Share of the old direction in the new one; none in the first iteration. -/
def share (c : Carried α n) (rho : α) (i : Nat) : α :=
  if i = 1 then 0 else (rho / c.rho) * (c.alpha / c.omega)

/-- The second half of an iteration: `s` is the residual after the first half, `t = A s` and
`tt = t · t`. -/
def stabilize (criteria : Criteria α) (origin : α) (x : Vector α m) (c : Carried α n)
    (s t : Vector α n) (tt : α) (i : Nat) : Iterate (Carried α n) α m :=
  let omega := Flat.dot t s / tt
  let r := Flat.subMul s omega t
  let stats := criteria.stats (Flat.norm r) origin i
  { solution := Flat.correct (Flat.correct x c.alpha c.direction) omega s
    stats := if stats.reason = .iterating && vanishes omega then stats.stopped .shadowBreakdown
      else stats
    carried := { c with res := r, omega } }

def step (A : Action σ ε α n) (criteria : Criteria α) (origin : α) :
    Step (Carried α n) σ ε α m := fun it t =>
  let i := it.stats.iterations + 1
  let c := it.carried
  let broken : Iterate (Carried α n) α m := { it with stats := it.stats.stopped .shadowBreakdown }
  let rho := Flat.dot c.shadow c.res
  if vanishes rho then (.ok broken, t)
  else
    let p := Flat.addMul c.res (share c rho i) (Flat.subMul c.direction c.omega c.image)
    match t.multiplyInto A p c.image with
    | (.error e, t) => (.error e, t)
    | (.ok v, t) =>
      let den := Flat.dot c.shadow v
      if vanishes den || !Scalar.isFinite den then (.ok broken, t)
      else
        let alpha := rho / den
        let s := Flat.subMul c.res alpha v
        let half := criteria.stats (Flat.norm s) origin i
        let c := { c with direction := p, image := v, rho, alpha }
        if half.converged then
          (.ok ⟨Flat.correct it.solution alpha p, half, c⟩, t.note i half.residual)
        else
          match t.multiply A s with
          | (.error e, t) => (.error e, t)
          | (.ok w, t) =>
            let ww := Flat.dot w w
            if vanishes ww then (.ok broken, t)
            else
              let it := stabilize criteria origin it.solution c s w ww i
              (.ok it, t.note i it.stats.residual)

/-- Stabilized biconjugate gradients for `A`. -/
def method (A : Action σ ε α n) (criteria : Criteria α) : Method (Carried α n) σ ε α n m :=
  ⟨fun r _ => begin r, step A criteria⟩

/-- Solve `A x = b` by stabilized biconjugate gradients from the guess `x`. -/
def solve (A : Action σ ε α n) (criteria : Criteria α) (b : Vector α n) (x : Vector α m)
    (memory : σ) : Report σ ε α m :=
  (method A criteria).solve A criteria b x memory

end MatrixFree.Krylov.BiconjugateGradient
