import MatrixFree.Flat
import MatrixFree.Krylov.Convergence

/-!
# Runs of an iterative method

An operator is known only by its action. It may keep a memory, fail, or answer differently each
time, so an application takes the memory and returns the next one (`Operator`). A run threads that
memory and the residual history through one iteration after another (`Trace`), and every method is
one iteration `step` handed to the same loop (`advance`).

The `n` equations of a system fix the lengths of right-hand side, residuals and search directions. The
solution keeps the length `m` of the initial guess: a correction reaches the entries that it and the
guess both have, and the operator is applied to the guess as it is. For that an operator on a system
multiplies an array of any length. It does so into a vector of length `n`, whose entries it may write
or leave as they are (`Action`); most multiplications are into zeros.

The loop counts down the iterations that the limit allows. It stops as soon as the record of the
current iterate carries a verdict, and a verdict is always there when the count is used up, because
`Criteria.check` answers `limit` at the latest.

`solve` is the whole run: the first residual, the loop, and a `Report`. A failed application ends a
run at once, and the report then holds the initial guess untouched.
-/

namespace MatrixFree.Krylov

/-- An operator from `X` to `Y` with memory `σ` and failures `ε`. -/
abbrev Operator (σ ε X Y : Type) := X → σ → Except ε Y × σ

/-- The operator of a system of `n` equations: to multiply an array is to work on the vector that
takes the image. -/
abbrev Action (σ ε α : Type) (n : Nat) := Array α → Operator σ ε (Vector α n) (Vector α n)

/-- What a run has left behind so far. -/
structure Trace (σ α : Type) where
  /-- The operator's memory. -/
  memory : σ
  /-- Iteration numbers with the residual norms computed there, in order. -/
  history : Array (Nat × α)

namespace Trace

variable {σ ε α X Y : Type} {m n : Nat}

/-- Apply an operator, carrying its memory on. -/
def apply (t : Trace σ α) (A : Operator σ ε X Y) (x : X) : Except ε Y × Trace σ α :=
  let (y, memory) := A x t.memory
  (y, { t with memory })

/-- Multiply `x` into `y`. -/
def multiplyInto (t : Trace σ α) (A : Action σ ε α n) (x : Vector α m) (y : Vector α n) :
    Except ε (Vector α n) × Trace σ α :=
  t.apply (A x.toArray) y

/-- Multiply `x` into zeros. -/
def multiply [Scalar α] (t : Trace σ α) (A : Action σ ε α n) (x : Vector α m) :
    Except ε (Vector α n) × Trace σ α :=
  t.multiplyInto A x (Flat.zero n)

/-- Note a residual norm. -/
def note (t : Trace σ α) (i : Nat) (res : α) : Trace σ α :=
  { t with history := t.history.push (i, res) }

end Trace

variable {σ ε α β S : Type} {m n : Nat}

/-- `b - A x`, at the cost of one application. -/
def residual [Scalar α] (A : Action σ ε α n) (b : Vector α n) (x : Vector α m) (t : Trace σ α) :
    Except ε (Vector α n) × Trace σ α :=
  match t.multiply A x with
  | (.error e, t) => (.error e, t)
  | (.ok y, t) => (.ok (Flat.sub b y), t)

/-- The current approximation, its record, and what the method carries along. -/
structure Iterate (S α : Type) (m : Nat) where
  solution : Vector α m
  stats : Stats α
  carried : S

/-- One iteration of a method. -/
abbrev Step (S σ ε α : Type) (m : Nat) :=
  Iterate S α m → Trace σ α → Except ε (Iterate S α m) × Trace σ α

/-- Iterate until there is a verdict, at most `fuel` times. -/
def advance (step : Step S σ ε α m) : (fuel : Nat) → Step S σ ε α m
  | 0, it, t => (.ok it, t)
  | fuel + 1, it, t =>
    if it.stats.reason = .iterating then
      match step it t with
      | (.error e, t) => (.error e, t)
      | (.ok it, t) => advance step fuel it t
    else (.ok it, t)

/-- A method: what it carries into its first iteration, from the first residual and its norm, and
the iteration itself, in which `origin` is the norm of the first residual. -/
structure Method (S σ ε α : Type) (n m : Nat) where
  begin : (res : Vector α n) → (norm : α) → S
  step : (origin : α) → Step S σ ε α m

/-- All that a run leaves. -/
structure Report (σ ε α : Type) (m : Nat) where
  result : Except ε (Stats α)
  /-- The last iterate, or the initial guess if an application failed. -/
  solution : Vector α m
  history : Array (Nat × α)
  memory : σ

/-- Solve `A x = b` from the initial guess `x`. -/
def Method.solve [Scalar α] (M : Method S σ ε α n m) (A : Action σ ε α n)
    (criteria : Criteria α) (b : Vector α n) (x : Vector α m) (memory : σ) : Report σ ε α m :=
  match residual A b x ⟨memory, #[]⟩ with
  | (.error e, t) => ⟨.error e, x, t.history, t.memory⟩
  | (.ok r, t) =>
    let norm := Flat.norm r
    let first : Iterate S α m := ⟨x, criteria.stats norm norm 0, M.begin r norm⟩
    match advance (M.step norm) criteria.limit first (t.note 0 norm) with
    | (.error e, t) => ⟨.error e, x, t.history, t.memory⟩
    | (.ok it, t) => ⟨.ok it.stats, it.solution, t.history, t.memory⟩

end MatrixFree.Krylov
