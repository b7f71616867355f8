import MatrixFree.Krylov.Run

/-!
# Operators that change

An operator may follow one rule for its first applications and another one after. Its memory is the
number of applications so far, and every application counts, also one that fails.
-/

namespace MatrixFree.Operators

/-- Rules by the number of the application. -/
inductive Staged (ρ : Type) where
  | always (rule : ρ)
  /-- `first` for the applications below the number, `later` from there on. -/
  | switch (count : Nat) (first later : Staged ρ)

namespace Staged

variable {ρ ε X Y : Type}

/-- The rule of an application, which are counted from zero. -/
def ruleAt : Staged ρ → Nat → ρ
  | always rule, _ => rule
  | switch count first later, i => if i < count then first.ruleAt i else later.ruleAt i

/-- The operator that runs the rule of each application. -/
def operator (s : Staged ρ) (run : ρ → X → Except ε Y) : Krylov.Operator Nat ε X Y :=
  fun x count => (run (s.ruleAt count) x, count + 1)

end Staged

end MatrixFree.Operators
