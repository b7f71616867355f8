import MatrixFree.Krylov.LeastSquares
import MatrixFree.Krylov.Run
import MatrixFree.Storage

/-!
# Restarted minimal residuals

The method for general operators. Within a cycle it builds an orthonormal basis of the Krylov space
and keeps the least-squares problem for the coefficients triangular. A cycle ends when the estimate
of the residual has a verdict, when the space stops growing, or when the basis has its full length.

At the end of a cycle the iterate is formed and its residual computed anew, and only that residual
decides: the estimate can end a cycle and not a run. A space that stopped growing under a residual
that meets no test means that the operator is singular there.

A run that iterates at all needs room for a basis of full length and one vector more.
-/

namespace MatrixFree.Krylov.MinimalResidual

variable {σ ε α : Type} [Scalar α] {m n : Nat}

/-- A cycle under way. -/
structure Cycle (α : Type) (n : Nat) where
  basis : List (Vector α n)
  /-- The next basis vector before it is normalized. -/
  next : Vector α n
  /-- Norm of `next`. -/
  scale : α
  problem : Triangular α

/-- The cycle that starts from residual `r` of norm `beta`. -/
def Cycle.start (r : Vector α n) (beta : α) : Cycle α n := ⟨[], r, beta, .start beta⟩

/-- Subtract from `w` its components along the basis, one basis vector after the other. The answer
is the components and what is left. -/
def orthogonalize : List (Vector α n) → Vector α n → List α × Vector α n
  | [], w => ([], w)
  | v :: basis, w =>
    let c := Flat.dot w v
    let (cs, left) := orthogonalize basis (Flat.subMul w c v)
    (c :: cs, left)

/-- Orthogonalize twice; the second pass corrects the components of the first. -/
def orthogonalizeTwice (basis : List (Vector α n)) (w : Vector α n) : List α × Vector α n :=
  let (first, w) := orthogonalize basis w
  let (second, w) := orthogonalize basis w
  (List.zipWith (· + ·) first second, w)

theorem length_orthogonalize (basis : List (Vector α n)) (w : Vector α n) :
    (orthogonalize basis w).1.length = basis.length := by
  induction basis generalizing w with
  | nil => rfl
  | cons v basis ih => exact congrArg Nat.succ (ih _)

theorem length_orthogonalizeTwice (basis : List (Vector α n)) (w : Vector α n) :
    (orthogonalizeTwice basis w).1.length = basis.length := by
  simp only [orthogonalizeTwice, List.length_zipWith, length_orthogonalize, Nat.min_self]

/-- A cycle after one more application of the operator, and whether the space stopped growing. -/
structure Grown (α : Type) (n : Nat) where
  cycle : Cycle α n
  exhausted : Bool

/-- Extend the cycle by the basis vector `v` and its image `w = A v`. -/
def Cycle.grow (c : Cycle α n) (v w : Vector α n) : Grown α n :=
  let basis := c.basis ++ [v]
  let (components, next) := orthogonalizeTwice basis w
  let scale := Flat.norm next
  { cycle :=
      { basis, next, scale
        problem := c.problem.push (components.headD 0) components.tail scale }
    exhausted := Scalar.le (Scalar.abs scale) (Scalar.noise * Flat.norm w) }

/-- `x` plus the combination of the basis that solves the cycle's problem. -/
def Cycle.improve (c : Cycle α n) (x : Vector α m) : Vector α m :=
  (c.problem.solution.zip c.basis).foldl (fun x (y, v) => Flat.correct x y v) x

/-- What the method carries from one iteration to the next. -/
structure Carried (α : Type) (n : Nat) where
  cycle : Cycle α n
  /-- Iterations made, over all cycles. -/
  iterations : Nat

/-- End a cycle: the residual of the improved iterate decides between a verdict and a new cycle. -/
def finish (A : Action σ (Failure ε) α n) (criteria : Criteria α) (b : Vector α n) (origin : α)
    (it : Iterate (Carried α n) α m) (g : Grown α n) (i : Nat) (t : Trace σ α) :
    Except (Failure ε) (Iterate (Carried α n) α m) × Trace σ α :=
  let x := g.cycle.improve it.solution
  match residual A b x t with
  | (.error e, t) => (.error e, t)
  | (.ok r, t) =>
    let beta := Flat.norm r
    let stats := criteria.stats beta origin i
    let stats := if stats.reason = .iterating && g.exhausted then stats.stopped .breakdown else stats
    (.ok ⟨x, stats, ⟨.start r beta, i⟩⟩, t)

/-- One basis vector more. -/
def extend (A : Action σ (Failure ε) α n) (criteria : Criteria α) (restart : Nat)
    (b : Vector α n) (origin : α) : Step (Carried α n) σ (Failure ε) α m := fun it t =>
  let i := it.carried.iterations + 1
  let cycle := it.carried.cycle
  let v := Flat.divBy cycle.next cycle.scale
  match t.multiply A v with
  | (.error e, t) => (.error e, t)
  | (.ok w, t) =>
    let g := cycle.grow v w
    let estimate := g.cycle.problem.residual
    let t := t.note i estimate
    if g.exhausted || criteria.check estimate origin i ≠ .iterating
        || restart ≤ g.cycle.basis.length then
      finish A criteria b origin it g i t
    else (.ok { it with carried := ⟨g.cycle, i⟩ }, t)

/-- Extend the basis, which must have room in full length. -/
def step (A : Action σ (Failure ε) α n) (criteria : Criteria α) (restart : Nat)
    (b : Vector α n) (origin : α) : Step (Carried α n) σ (Failure ε) α m := fun it t =>
  match Storage.reserve (restart + 1) Storage.vectorBytes with
  | .error fault => (.error (.fault fault), t)
  | .ok () => extend A criteria restart b origin it t

/-- Minimal residuals for `A` and right-hand side `b`, with at most `restart` basis vectors. -/
def method (A : Action σ (Failure ε) α n) (criteria : Criteria α) (restart : Nat)
    (b : Vector α n) : Method (Carried α n) σ (Failure ε) α n m :=
  ⟨fun r beta => ⟨.start r beta, 0⟩, step A criteria restart b⟩

/-- Solve `A x = b` by minimal residuals from the guess `x`. -/
def solve (A : Action σ (Failure ε) α n) (criteria : Criteria α) (restart : Nat)
    (b : Vector α n) (x : Vector α m) (memory : σ) : Report σ (Failure ε) α m :=
  (method A criteria restart b).solve A criteria b x memory

end MatrixFree.Krylov.MinimalResidual
