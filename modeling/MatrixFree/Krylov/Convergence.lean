import MatrixFree.Scalar

/-!
# Convergence tests

`Criteria.check` classifies a residual norm against the initial one. Its five tests are made in a
fixed order, so that a residual which meets several of them has one verdict; `Reason.iterating` is
the answer when none applies. The sign of a reason's code separates success from failure.
-/

namespace MatrixFree.Krylov

/-- Why a solve stopped. -/
inductive Reason where
  /-- The residual fell to the wanted share of the initial one. -/
  | relative
  /-- The residual fell below the absolute tolerance. -/
  | absolute
  /-- The Krylov space became invariant and holds the solution. -/
  | happyBreakdown
  /-- No verdict yet. -/
  | iterating
  /-- Kept for the code; no method answers it. -/
  | null
  /-- The iteration limit was reached. -/
  | limit
  /-- The residual grew beyond the divergence tolerance. -/
  | growth
  /-- The method broke down before the residual met a tolerance. -/
  | breakdown
  /-- A scalar of the biconjugate recurrence vanished. -/
  | shadowBreakdown
  /-- A NaN or an infinity came up. -/
  | notFinite
  /-- The operator is not positive definite. -/
  | indefinite
deriving DecidableEq, Repr

namespace Reason

/-- Every reason, the verdicts of success first. -/
def all : List Reason :=
  [relative, absolute, happyBreakdown, iterating, null, limit, growth, breakdown, shadowBreakdown,
    notFinite, indefinite]

/-- Positive after convergence, zero while iterating, negative after a failure. -/
def code : Reason → Int
  | relative => 2
  | absolute => 3
  | happyBreakdown => 5
  | iterating => 0
  | null => -2
  | limit => -3
  | growth => -4
  | breakdown => -5
  | shadowBreakdown => -6
  | notFinite => -9
  | indefinite => -10

def isConverged (r : Reason) : Bool := 0 < r.code

def isDiverged (r : Reason) : Bool := r.code < 0

/-- The name under which a reason is reported. -/
def label : Reason → String
  | relative => "CONVERGED_RTOL"
  | absolute => "CONVERGED_ATOL"
  | happyBreakdown => "CONVERGED_HAPPY_BREAKDOWN"
  | iterating => "CONVERGED_ITERATING"
  | null => "DIVERGED_NULL"
  | limit => "DIVERGED_ITS"
  | growth => "DIVERGED_DTOL"
  | breakdown => "DIVERGED_BREAKDOWN"
  | shadowBreakdown => "DIVERGED_BREAKDOWN_BICG"
  | notFinite => "DIVERGED_NANORINF"
  | indefinite => "DIVERGED_INDEFINITE_MAT"

/-- The name in mixed case, as it stands in structured output. -/
def name : Reason → String
  | relative => "ConvergedRtol"
  | absolute => "ConvergedAtol"
  | happyBreakdown => "ConvergedHappyBreakdown"
  | iterating => "Iterating"
  | null => "DivergedNull"
  | limit => "DivergedIts"
  | growth => "DivergedDtol"
  | breakdown => "DivergedBreakdown"
  | shadowBreakdown => "DivergedBreakdownBicg"
  | notFinite => "DivergedNanOrInf"
  | indefinite => "DivergedIndefiniteMat"

/-- The label followed by the code in parentheses. -/
def text (r : Reason) : String := r.label ++ " (" ++ toString r.code ++ ")"

end Reason

/-- When to stop. -/
structure Criteria (α : Type) where
  /-- Wanted share of the initial residual. -/
  relative : α
  /-- Residual that is small enough whatever the initial one was. -/
  absolute : α
  /-- Growth of the initial residual that counts as divergence. -/
  growth : α
  /-- Iterations allowed. -/
  limit : Nat

/-- The record of a solve: its length, the residual it reached and the reason it stopped. -/
structure Stats (α : Type) where
  iterations : Nat
  residual : α
  reason : Reason

namespace Stats

variable {α : Type}

def converged (s : Stats α) : Bool := s.reason.isConverged

/-- The same record under another verdict. -/
def stopped (s : Stats α) (r : Reason) : Stats α := { s with reason := r }

@[simp] theorem stopped_iterations (s : Stats α) (r : Reason) :
    (s.stopped r).iterations = s.iterations := rfl

@[simp] theorem stopped_residual (s : Stats α) (r : Reason) :
    (s.stopped r).residual = s.residual := rfl

@[simp] theorem stopped_reason (s : Stats α) (r : Reason) : (s.stopped r).reason = r := rfl

end Stats

namespace Criteria

variable {α : Type} [Scalar α]

open Scalar in
/-- The verdict on residual norm `res` at iteration `i`, when the initial norm was `res0`. -/
def check (c : Criteria α) (res res0 : α) (i : Nat) : Reason :=
  if !isFinite res then .notFinite
  else if le res (c.relative * res0) then .relative
  else if le res c.absolute then .absolute
  else if lt 0 res0 && le (c.growth * res0) res then .growth
  else if c.limit ≤ i then .limit
  else .iterating

/-- The record that carries the verdict of `check`. -/
def stats (c : Criteria α) (res res0 : α) (i : Nat) : Stats α := ⟨i, res, c.check res res0 i⟩

@[simp] theorem stats_iterations (c : Criteria α) (res res0 : α) (i : Nat) :
    (c.stats res res0 i).iterations = i := rfl

@[simp] theorem stats_residual (c : Criteria α) (res res0 : α) (i : Nat) :
    (c.stats res res0 i).residual = res := rfl

@[simp] theorem stats_reason (c : Criteria α) (res res0 : α) (i : Nat) :
    (c.stats res res0 i).reason = c.check res res0 i := rfl

end Criteria

end MatrixFree.Krylov
