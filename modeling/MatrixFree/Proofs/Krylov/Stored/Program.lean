import MatrixFree.Krylov.BiconjugateGradient
import MatrixFree.Krylov.ConjugateGradient
import MatrixFree.Krylov.MinimalResidual

/-!
# The methods on storage

The methods are written over vectors whose length is part of their type, and over lists that grow
by an entry per iteration.  Nothing in them can be out of place.  Here are the same methods as they
run on storage: arrays whose lengths nobody vouches for, a Hessenberg matrix that is allocated in
full size when a cycle begins, and numbers that say which entry is meant.

* An access is checked.  An entry that is not there, or an inner product of arrays of two lengths,
  is a fault, which ends the run (`read`, `write`, `Flat.dotOf`).
* A division is whatever `divide` makes of it, so that it can be seen with which divisors the
  methods divide.
* What goes through two arrays entry by entry stops at the end of the shorter one, and faults
  never.
-/

namespace MatrixFree.Krylov.Stored

variable {σ ε α X : Type}

/-! ## Access -/

/-- The entry with the number `i`. -/
def read (xs : Array α) (i : Nat) : Except Fault α :=
  match xs[i]? with
  | some a => .ok a
  | none => .error (.outsideStorage xs.size i)

/-- Another entry with the number `i`. -/
def write (xs : Array α) (i : Nat) (a : α) : Except Fault (Array α) :=
  if i < xs.size then .ok (xs.setIfInBounds i a) else .error (.outsideStorage xs.size i)

/-- The entry in row `i` and column `j`. -/
def readAt (rows : Array (Array α)) (i j : Nat) : Except Fault α := do
  read (← read rows i) j

/-- Another entry in row `i` and column `j`. -/
def writeAt (rows : Array (Array α)) (i j : Nat) (a : α) : Except Fault (Array (Array α)) := do
  write rows i (← write (← read rows i) j a)

/-- The first `m` entries. -/
def slice (xs : Array α) (m : Nat) : Except Fault (Array α) :=
  if m ≤ xs.size then .ok (xs.extract 0 m) else .error (.outsideStorage xs.size m)

/-- Other entries, each from the old one and that of `ys`, as far as `ys` reaches. -/
def merge {β : Type} (f : α → β → α) (xs : Array α) (ys : Array β) : Array α :=
  xs.mapIdx fun i a => (ys[i]?).elim a (f a)

/-- The Euclidean norm. -/
def norm [Scalar α] (xs : Array α) : Except Fault α := do
  return Scalar.sqrt (← Flat.dotOf xs xs)

/-! ## Runs -/

/-- A computation in the course of a run. -/
def Run (σ ε α X : Type) : Type := Trace σ α → Except (Failure ε) X × Trace σ α

instance : Monad (Run σ ε α) where
  pure x := fun t => (.ok x, t)
  bind m f := fun t =>
    match m t with
    | (.error e, t) => (.error e, t)
    | (.ok x, t) => f x t

/-- A fault ends the run. -/
def checked (answer : Except Fault X) : Run σ ε α X := fun t => (answer.mapError .fault, t)

/-- An operator that multiplies an array into a buffer, and answers the buffer. -/
abbrev Multiply (σ ε α : Type) := Array α → Operator σ (Failure ε) (Array α) (Array α)

/-- Multiply `x` into the buffer `y`. -/
def multiply (mul : Multiply σ ε α) (x y : Array α) : Run σ ε α (Array α) := fun t =>
  t.apply (mul x) y

/-- Note a residual norm. -/
def note (i : Nat) (res : α) : Run σ ε α Unit := fun t => (.ok (), t.note i res)

/-- The current approximation, its record, and what the method carries along. -/
structure Iterate (S α : Type) where
  solution : Array α
  stats : Stats α
  carried : S

/-- One iteration of a method. -/
abbrev Step (S σ ε α : Type) := Iterate S α → Run σ ε α (Iterate S α)

variable {S : Type}

/-- Iterate until there is a verdict, at most `fuel` times. -/
def advance (step : Step S σ ε α) : (fuel : Nat) → Step S σ ε α
  | 0, it => return it
  | fuel + 1, it => do
    if it.stats.reason = .iterating then advance step fuel (← step it) else return it

/-- A method: what it carries into its first iteration, with the norm of the first residual, and the
iteration itself. -/
structure Method (S σ ε α : Type) where
  begin : (res : Array α) → Except Fault (S × α)
  step : (origin : α) → Step S σ ε α

/-- All that a run leaves. -/
structure Report (σ ε α : Type) where
  result : Except (Failure ε) (Stats α)
  solution : Array α
  history : Array (Nat × α)
  memory : σ

section Solve

variable [Scalar α]

/-- `b - A x`. -/
def residual (mul : Multiply σ ε α) (b x : Array α) : Run σ ε α (Array α) := do
  let image ← multiply mul x (Array.replicate b.size 0)
  return Array.zipWith (fun a b => b - a) image b

/-- The first residual, and the loop. -/
def Method.run (M : Method S σ ε α) (mul : Multiply σ ε α) (criteria : Criteria α)
    (b x : Array α) : Run σ ε α (Iterate S α) := do
  let r ← residual mul b x
  let (carried, origin) ← checked (M.begin r)
  note 0 origin
  advance (M.step origin) criteria.limit ⟨x, criteria.stats origin origin 0, carried⟩

/-- Solve `A x = b` from the initial guess `x`. -/
def Method.solve (M : Method S σ ε α) (mul : Multiply σ ε α) (criteria : Criteria α)
    (b x : Array α) (memory : σ) : Report σ ε α :=
  match M.run mul criteria b x ⟨memory, #[]⟩ with
  | (.error e, t) => ⟨.error e, x, t.history, t.memory⟩
  | (.ok it, t) => ⟨.ok it.stats, it.solution, t.history, t.memory⟩

end Solve

variable [Scalar α] (divide : α → α → Except Fault α) (mul : Multiply σ ε α)
  (criteria : Criteria α) (n : Nat) (origin : α)

/-! ## Conjugate gradients -/

namespace ConjugateGradient

structure Carried (α : Type) where
  res : Array α
  direction : Array α
  square : α

def begin (r : Array α) : Except Fault (Carried α × α) := do
  let square ← Flat.dotOf r r
  return (⟨r, r, square⟩, Scalar.sqrt square)

def step : Step (Carried α) σ ε α := fun it => do
  let ⟨r, p, square⟩ := it.carried
  let ap ← multiply mul p (Array.replicate n 0)
  let pap ← checked (Flat.dotOf p ap)
  match Krylov.ConjugateGradient.curvatureVerdict pap with
  | some reason => return { it with stats := it.stats.stopped reason }
  | none =>
    let length ← checked (divide square pap)
    let x := merge (fun x p => x + length * p) it.solution p
    let r := merge (fun r ap => r - length * ap) r ap
    let square' ← checked (Flat.dotOf r r)
    let res := Scalar.sqrt square'
    let i := it.stats.iterations + 1
    note i res
    let share ← checked (divide square' square)
    return ⟨x, criteria.stats res origin i, ⟨r, merge (fun p r => r + share * p) p r, square'⟩⟩

/-- Conjugate gradients for arrays of length `n`. -/
def method : Method (Carried α) σ ε α := ⟨begin, step divide mul criteria n⟩

def solve (b x : Array α) (memory : σ) : Report σ ε α :=
  (method divide mul criteria b.size).solve mul criteria b x memory

end ConjugateGradient

/-! ## Stabilized biconjugate gradients -/

namespace BiconjugateGradient

open Krylov.BiconjugateGradient (vanishes)

structure Carried (α : Type) where
  shadow : Array α
  res : Array α
  direction : Array α
  /-- The buffer that takes the operator's value at `direction`. -/
  image : Array α
  rho : α
  alpha : α
  omega : α

def begin (r : Array α) : Except Fault (Carried α × α) := do
  return (⟨r, r, Array.replicate n 0, Array.replicate n 0, 1, 1, 1⟩, ← norm r)

/-- Share of the old direction in the new one. -/
def share (c : Carried α) (rho : α) (i : Nat) : Except Fault α := do
  if i = 1 then return 0
  return (← divide rho c.rho) * (← divide c.alpha c.omega)

/-- The second half of iteration `i`, from the residual `s` that the first half leaves. -/
def secondHalf (c : Carried α) (s : Array α) (i : Nat) : Step (Carried α) σ ε α := fun it => do
  let w ← multiply mul s (Array.replicate n 0)
  let ww ← checked (Flat.dotOf w w)
  if vanishes ww then return { it with stats := it.stats.stopped .shadowBreakdown }
  let ws ← checked (Flat.dotOf w s)
  let omega ← checked (divide ws ww)
  let x := merge (fun x ps => x + c.alpha * ps.1 + omega * ps.2) it.solution (c.direction.zip s)
  let r := Array.zipWith (fun s w => s - omega * w) s w
  let res ← checked (norm r)
  note i res
  let stats := criteria.stats res origin i
  let stats := if stats.reason = .iterating && vanishes omega then stats.stopped .shadowBreakdown
    else stats
  return ⟨x, stats, { c with res := r, omega }⟩

def step : Step (Carried α) σ ε α := fun it => do
  let c := it.carried
  let i := it.stats.iterations + 1
  let broken : Iterate (Carried α) α := { it with stats := it.stats.stopped .shadowBreakdown }
  let rho ← checked (Flat.dotOf c.shadow c.res)
  if vanishes rho then return broken
  let share ← checked (share divide c rho i)
  let p := merge (fun p rv => rv.1 + share * (p - c.omega * rv.2)) c.direction (c.res.zip c.image)
  let v ← multiply mul p c.image
  let den ← checked (Flat.dotOf c.shadow v)
  if vanishes den || !Scalar.isFinite den then return broken
  let alpha ← checked (divide rho den)
  let s := Array.zipWith (fun r v => r - alpha * v) c.res v
  let c := { c with direction := p, image := v, rho, alpha }
  let halfNorm ← checked (norm s)
  let half := criteria.stats halfNorm origin i
  if half.converged then
    note i halfNorm
    return ⟨merge (fun x p => x + alpha * p) it.solution p, half, c⟩
  secondHalf divide mul criteria n origin c s i it

/-- Stabilized biconjugate gradients for arrays of length `n`. -/
def method : Method (Carried α) σ ε α := ⟨begin n, step divide mul criteria n⟩

def solve (b x : Array α) (memory : σ) : Report σ ε α :=
  (method divide mul criteria b.size).solve mul criteria b x memory

end BiconjugateGradient

/-! ## Restarted minimal residuals -/

namespace MinimalResidual

/-- The storage of a cycle. -/
structure Cycle (α : Type) where
  basis : Array (Array α)
  /-- The Hessenberg matrix by rows, with a row more than columns.  The rotations have been
  applied to the columns that are there. -/
  matrix : Array (Array α)
  /-- The right-hand side of the least-squares problem. -/
  rhs : Array α
  cosines : Array α
  sines : Array α
  /-- The columns that are there. -/
  columns : Nat

/-- Room for `restart` columns, and the first basis vector. -/
def Cycle.start (restart : Nat) (r : Array α) (beta : α) : Except Fault (Cycle α) := do
  Storage.reserve (restart + 1) Storage.vectorBytes
  let v ← r.mapM (divide · beta)
  let rhs ← write (Array.replicate (restart + 1) 0) 0 beta
  return {
    basis := #[v]
    matrix := Array.replicate (restart + 1) (Array.replicate restart 0)
    rhs
    cosines := Array.replicate restart 0
    sines := Array.replicate restart 0
    columns := 0 }

/-- Subtract from `w` its component along the basis vector `i`, and enter it in column `j` of the
matrix. -/
def project (enter : α → α → α) (basis : Array (Array α)) (j : Nat)
    (state : Array (Array α) × Array α) (i : Nat) : Except Fault (Array (Array α) × Array α) := do
  let (matrix, w) := state
  let v ← read basis i
  let c ← Flat.dotOf w v
  let old ← readAt matrix i j
  let matrix ← writeAt matrix i j (enter old c)
  return (matrix, merge (fun w v => w - c * v) w v)

/-- One pass of the orthogonalization, against the first `j + 1` basis vectors. -/
def orthogonalize (enter : α → α → α) (basis : Array (Array α)) (j : Nat)
    (state : Array (Array α) × Array α) : Except Fault (Array (Array α) × Array α) :=
  (List.range' 0 (j + 1)).foldlM (project enter basis j) state

/-- Apply the rotation `i` to column `j` of the matrix. -/
def turn (cosines sines : Array α) (j : Nat) (matrix : Array (Array α)) (i : Nat) :
    Except Fault (Array (Array α)) := do
  let c ← read cosines i
  let s ← read sines i
  let a ← readAt matrix i j
  let b ← readAt matrix (i + 1) j
  let matrix ← writeAt matrix (i + 1) j (-s * a + c * b)
  writeAt matrix i j (c * a + s * b)

/-- Carry column `j` of the matrix through the rotations of the columns before it. -/
def sweep (cosines sines : Array α) (j : Nat) (matrix : Array (Array α)) :
    Except Fault (Array (Array α)) :=
  (List.range' 0 j).foldlM (turn cosines sines j) matrix

/-- Cosine and sine of the rotation that takes `(a, b)` to the first axis. -/
def align (a b : α) : Except Fault (α × α) := do
  let radius := Scalar.sqrt (a * a + b * b)
  if Scalar.lt (Scalar.abs radius) Scalar.noise then return (1, 0)
  return (← divide a radius, ← divide b radius)

/-- Make column `j` of the matrix triangular, and rotate the right-hand side with it. -/
def Cycle.rotate (c : Cycle α) (j : Nat) : Except Fault (Cycle α) := do
  let matrix ← sweep c.cosines c.sines j c.matrix
  let a ← readAt matrix j j
  let b ← readAt matrix (j + 1) j
  let (cos, sin) ← align divide a b
  let cosines ← write c.cosines j cos
  let sines ← write c.sines j sin
  let matrix ← writeAt matrix j j (cos * a + sin * b)
  let matrix ← writeAt matrix (j + 1) j 0
  let upper ← read c.rhs j
  let lower ← read c.rhs (j + 1)
  let rhs ← write c.rhs (j + 1) (-sin * upper + cos * lower)
  let rhs ← write rhs j (cos * upper + sin * lower)
  return { c with matrix, rhs, cosines, sines, columns := j + 1 }

/-- Fill the next column of the matrix from the image `w` of the last basis vector.  The answer is
the matrix, what is left of `w`, and the norm of that. -/
def Cycle.fill (c : Cycle α) (w : Array α) : Except Fault (Array (Array α) × Array α × α) := do
  let j := c.columns
  let start ← orthogonalize (fun _ c => c) c.basis j (c.matrix, w)
  let (matrix, next) ← orthogonalize (· + ·) c.basis j start
  let scale ← norm next
  return (← writeAt matrix (j + 1) j scale, next, scale)

/-- Add the next basis vector, unless the space stopped growing. -/
def extend (basis : Array (Array α)) (next : Array α) (scale : α) (exhausted : Bool) :
    Except Fault (Array (Array α)) := do
  if exhausted then return basis
  return basis.push (← next.mapM (divide · scale))

/-- Extend the cycle by the image `w` of its last basis vector.  The answer says whether the space
stopped growing; the next basis vector is there if it did not. -/
def Cycle.grow (c : Cycle α) (w : Array α) : Except Fault (Cycle α × Bool) := do
  let reference ← norm w
  let (matrix, next, scale) ← c.fill w
  let exhausted := Scalar.le (Scalar.abs scale) (Scalar.noise * reference)
  let basis ← extend divide c.basis next scale exhausted
  return (← ({ c with basis, matrix } : Cycle α).rotate divide c.columns, exhausted)

/-- Subtract from the unknown `i` what the unknown `j` has to do with it. -/
def eliminate (matrix : Array (Array α)) (i : Nat) (y : Array α) (j : Nat) :
    Except Fault (Array α) := do
  write y i ((← read y i) - (← readAt matrix i j) * (← read y j))

/-- Solve row `i` of a triangular system for its unknown, from the unknowns after it. -/
def solveRow (matrix : Array (Array α)) (rhs : Array α) (m : Nat) (y : Array α) (i : Nat) :
    Except Fault (Array α) := do
  let y ← write y i (← read rhs i)
  let y ← (List.range' (i + 1) (m - (i + 1))).foldlM (eliminate matrix i) y
  let pivot ← readAt matrix i i
  if Scalar.lt Scalar.noise (Scalar.abs pivot) then
    write y i (← divide (← read y i) pivot)
  else write y i 0

/-- The unknowns of the triangular system with `m` columns, the last one first. -/
def backSubstitute (matrix : Array (Array α)) (rhs : Array α) (m : Nat) :
    Except Fault (Array α) :=
  (List.range' 0 m).reverse.foldlM (solveRow divide matrix rhs m) (Array.replicate m 0)

/-- Add to `x` the basis vector with a number, times a coefficient. -/
def addMultiple (basis : Array (Array α)) (x : Array α) (entry : α × Nat) :
    Except Fault (Array α) := do
  let v ← read basis entry.2
  return merge (fun x v => x + entry.1 * v) x v

/-- `x` plus the combination of the basis with the coefficients `y`. -/
def combine (basis : Array (Array α)) (y : Array α) (x : Array α) : Except Fault (Array α) :=
  y.toList.zipIdx.foldlM (addMultiple basis) x

/-- The iterate at the end of a cycle. -/
def Cycle.improve (c : Cycle α) (x : Array α) : Except Fault (Array α) := do
  let rhs ← slice c.rhs c.columns
  let y ← backSubstitute divide c.matrix rhs c.columns
  combine c.basis y x

structure Carried (α : Type) where
  /-- The residual from which the cycle starts. -/
  res : Array α
  /-- Its norm. -/
  beta : α
  /-- The storage of the cycle; none before its first iteration. -/
  cycle : Option (Cycle α)
  /-- Iterations made, over all cycles. -/
  iterations : Nat

def begin (r : Array α) : Except Fault (Carried α × α) := do
  let beta ← norm r
  return (⟨r, beta, none, 0⟩, beta)

variable (restart : Nat)

/-- The storage in which an iteration works. -/
def Carried.storage (c : Carried α) : Except Fault (Cycle α) :=
  match c.cycle with
  | some cycle => .ok cycle
  | none => Cycle.start divide restart c.res c.beta

/-- End a cycle with its storage: the residual of the improved iterate decides between a verdict and
a new cycle. -/
def finish (b : Array α) (cycle : Cycle α) (exhausted : Bool) (i : Nat) :
    Step (Carried α) σ ε α := fun it => do
  let x ← checked (cycle.improve divide it.solution)
  let r ← residual mul b x
  let beta ← checked (norm r)
  let stats := criteria.stats beta origin i
  let stats := if stats.reason = .iterating && exhausted then stats.stopped .breakdown else stats
  return ⟨x, stats, ⟨r, beta, none, i⟩⟩

def step (b : Array α) : Step (Carried α) σ ε α := fun it => do
  let cycle ← checked (it.carried.storage divide restart)
  let i := it.carried.iterations + 1
  let first ← checked (read cycle.basis 0)
  let v ← checked (read cycle.basis cycle.columns)
  let w ← multiply mul v (Array.replicate first.size 0)
  let (cycle, exhausted) ← checked (cycle.grow divide w)
  let estimate := Scalar.abs (← checked (read cycle.rhs cycle.columns))
  note i estimate
  if exhausted || criteria.check estimate origin i ≠ .iterating || restart ≤ cycle.columns then
    finish divide mul criteria origin b cycle exhausted i it
  else return { it with carried := { it.carried with cycle := some cycle, iterations := i } }

/-- Minimal residuals with room for `restart` columns. -/
def method (b : Array α) : Method (Carried α) σ ε α :=
  ⟨begin, fun origin => step divide mul criteria origin restart b⟩

def solve (b x : Array α) (memory : σ) : Report σ ε α :=
  (method divide mul criteria restart b).solve mul criteria b x memory

end MinimalResidual

end MatrixFree.Krylov.Stored
