import MatrixFree.Proofs.Krylov.Failures
import MatrixFree.Proofs.Krylov.Mirror

/-!
# What an operator answers in a solve

An operator can list its answers itself: `Action.answering` keeps the list beside the memory,
and a solve cannot tell the difference.  On that list a failure is the last answer or there is
none, since a method that gets a failure passes it on and applies the operator no more.

So an application that fails, whichever it is and wherever in the method it comes, ends the
solve with its failure and leaves the guess as it was (`Report.Blames`).  The only failure that
a solve can end with beside these is the fault of minimal residuals that have no room for their
basis.
-/

namespace MatrixFree.Krylov

variable {σ ε α S X : Type} {m n : Nat}

/-! ## The list -/

/-- The operator, which now also lists its answers. -/
def Action.answering (A : Action σ ε α n) : Action (σ × List (Except ε (Vector α n))) ε α n :=
  fun x y (memory, given) => ((A x y memory).1, (A x y memory).2, given ++ [(A x y memory).1])

/-- No answer so far is a failure. -/
def NoneFailed (p : σ × List (Except ε X)) : Prop := ∀ answer ∈ p.2, ∃ image, answer = .ok image

/-- The failure `e` is the last answer, and no other answer is one; or none is, and `e` is a
failure of the method's own. -/
def LastFailed (own : ε → Prop) (e : ε) (p : σ × List (Except ε X)) : Prop :=
  (∃ given, p.2 = given ++ [.error e] ∧ ∀ answer ∈ given, ∃ image, answer = .ok image) ∨
    own e ∧ NoneFailed p

/-- Listing the answers changes none. -/
theorem Action.answering_mirrors (A : Action σ ε α n) (m : Nat) :
    A.answering.MirrorsAt (fun p memory => p.1 = memory) m A := by
  rintro x y ⟨memory, given⟩ memory' related
  obtain rfl : memory = memory' := related
  exact ⟨rfl, rfl⟩

theorem Action.answering_leaves (A : Action σ ε α n) (m : Nat) (own : ε → Prop) :
    A.answering.LeavesAt m NoneFailed (LastFailed own) := by
  rintro x y ⟨memory, given⟩ none
  refine ⟨?_, ?_⟩
  · intro image answer a mem
    rcases List.mem_append.mp mem with earlier | last
    · exact none a earlier
    · exact ⟨image, (List.mem_singleton.mp last).trans answer⟩
  · intro e answer
    refine Or.inl ⟨given, ?_, none⟩
    exact congrArg (fun a => given ++ [a]) answer

theorem LastFailed.eq_of_getElem? {own : ε → Prop} {e e' : ε} {p : σ × List (Except ε X)}
    (last : LastFailed own e p) {k : Nat} (failed : p.2[k]? = some (.error e')) :
    e = e' ∧ p.2.length = k + 1 := by
  rcases last with ⟨given, list, good⟩ | ⟨-, good⟩
  · rw [list] at failed ⊢
    rcases Nat.lt_trichotomy k given.length with earlier | rfl | later
    · rw [List.getElem?_append_left earlier] at failed
      obtain ⟨image, ok⟩ := good _ (List.mem_of_getElem? failed)
      cases ok
    · rw [List.getElem?_concat_length] at failed
      cases failed
      exact ⟨rfl, List.length_append⟩
    · have beyond : (given ++ [Except.error e]).length ≤ k := by
        rw [List.length_append]
        exact later
      rw [List.getElem?_eq_none beyond] at failed
      cases failed
  · obtain ⟨image, ok⟩ := good _ (List.mem_of_getElem? failed)
    cases ok

/-! ## Solves -/

/-- What becomes of a solve from the guess `x`, said of the same solve with a list of the
answers.  `plain` is the solve without the list, and `own` are the failures that the method may
raise itself. -/
structure Report.Blames (plain : Report σ ε α m) (x : Vector α m) (own : ε → Prop)
    (listed : Report (σ × List (Except ε (Vector α n))) ε α m) : Prop where
  same : listed.Mirrors (fun p memory => p.1 = memory) plain
  /-- An application that fails is the last one, and the solve ends with its failure. -/
  failed : ∀ k e, listed.memory.2[k]? = some (.error e) →
    plain.result = .error e ∧ listed.memory.2.length = k + 1
  /-- A solve that fails does so by its last application, or by the method alone. -/
  blamed : ∀ e, plain.result = .error e →
    listed.memory.2.getLast? = some (.error e) ∨ own e ∧ NoneFailed listed.memory
  untouched : ∀ e, plain.result = .error e → plain.solution = x

theorem Report.Blames.of_leaves {plain : Report σ ε α m} {x : Vector α m} {own : ε → Prop}
    {listed : Report (σ × List (Except ε (Vector α n))) ε α m}
    (same : listed.Mirrors (fun p memory => p.1 = memory) plain)
    (left : listed.Leaves NoneFailed (LastFailed own))
    (untouched : ∀ e, plain.result = .error e → plain.solution = x) :
    plain.Blames x own listed := by
  refine ⟨same, ?_, ?_, untouched⟩
  · intro k e failed
    cases result : listed.result with
    | ok stats =>
        obtain ⟨image, ok⟩ := left.1 stats result _ (List.mem_of_getElem? failed)
        cases ok
    | error e' =>
        obtain ⟨rfl, length⟩ := (left.2 e' result).eq_of_getElem? failed
        exact ⟨same.result.symm.trans result, length⟩
  · intro e result
    rcases left.2 e (same.result.trans result) with ⟨given, list, -⟩ | own
    · rw [list, List.getLast?_concat]
      exact Or.inl rfl
    · exact Or.inr own

section Solve

variable [Scalar α]

theorem ConjugateGradient.solve_blames (A : Action σ ε α n) (criteria : Criteria α)
    (b : Vector α n) (x : Vector α m) (memory : σ) (own : ε → Prop) :
    (solve A criteria b x memory).Blames x own (solve A.answering criteria b x (memory, [])) :=
  .of_leaves
    (solve_mirrors (A.answering_mirrors n) (A.answering_mirrors m) criteria b x rfl)
    (solve_leaves (A.answering_leaves n own) (A.answering_leaves m own) criteria b x nofun)
    fun _ failed => (Method.solve_error failed).1

theorem BiconjugateGradient.solve_blames (A : Action σ ε α n) (criteria : Criteria α)
    (b : Vector α n) (x : Vector α m) (memory : σ) (own : ε → Prop) :
    (solve A criteria b x memory).Blames x own (solve A.answering criteria b x (memory, [])) :=
  .of_leaves
    (solve_mirrors (A.answering_mirrors n) (A.answering_mirrors m) criteria b x rfl)
    (solve_leaves (A.answering_leaves n own) (A.answering_leaves m own) criteria b x nofun)
    fun _ failed => (Method.solve_error failed).1

/-- A basis without room is a failure of the method's own. -/
theorem MinimalResidual.solve_blames (A : Action σ (Failure ε) α n) (criteria : Criteria α)
    (restart : Nat) (b : Vector α n) (x : Vector α m) (memory : σ) {own : Failure ε → Prop}
    (full : ¬Storage.HasRoom (restart + 1) Storage.vectorBytes → own (.fault .capacityOverflow)) :
    (solve A criteria restart b x memory).Blames x own
      (solve A.answering criteria restart b x (memory, [])) :=
  .of_leaves
    (solve_mirrors (A.answering_mirrors n) (A.answering_mirrors m) criteria restart b x rfl)
    (solve_leaves (A.answering_leaves n own) (A.answering_leaves m own)
      (fun cramped _ none => Or.inr ⟨full cramped, none⟩) criteria b x nofun)
    fun _ failed => (Method.solve_error failed).1

end Solve

end MatrixFree.Krylov
