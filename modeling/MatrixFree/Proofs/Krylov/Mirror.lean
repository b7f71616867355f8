import MatrixFree.Krylov.BiconjugateGradient
import MatrixFree.Krylov.ConjugateGradient
import MatrixFree.Krylov.MinimalResidual

/-!
# Two runs side by side

A method sees its operator through the answers only.  So when two operators answer alike as
long as their memories are related, and keep them related, then two solves with them do the
same from the first residual to the last: the same record or failure, the same solution, the
same history, and related memories at the end (`MinimalResidual.solve_mirrors` and its two
companions).

With a relation that always holds this compares two solves with an operator without
memory.  With a memory that lists what an operator was asked, it compares the sequences of
applications.
-/

namespace MatrixFree.Krylov

variable {σ τ ε α S X : Type} {m n : Nat} {R : σ → τ → Prop}

/-- Asked for the same image of a vector of length `m`, the two operators answer the same, and
their memories stay related. -/
def Action.MirrorsAt (R : σ → τ → Prop) (m : Nat) (A : Action σ ε α n) (B : Action τ ε α n) :
    Prop :=
  ∀ (x : Vector α m) (y : Vector α n) memory memory', R memory memory' →
    (A x.toArray y memory).1 = (B x.toArray y memory').1 ∧
      R (A x.toArray y memory).2 (B x.toArray y memory').2

/-- The same where the vector has the system's length. -/
def Action.Mirrors (R : σ → τ → Prop) (A : Action σ ε α n) (B : Action τ ε α n) : Prop :=
  A.MirrorsAt R n B

/-- The operator, which now also lists the arrays it multiplies. -/
def Action.recorded (A : Action σ ε α n) : Action (σ × List (Array α)) ε α n :=
  fun x y (memory, asked) => ((A x y memory).1, ((A x y memory).2, asked ++ [x]))

/-- The list changes no answer. -/
theorem Action.recorded_mirrors (A : Action σ ε α n) (m : Nat) :
    A.recorded.MirrorsAt (fun p memory => p.1 = memory) m A := by
  rintro x y ⟨memory, asked⟩ memory' related
  obtain rfl : memory = memory' := related
  exact ⟨rfl, rfl⟩

structure Trace.Mirrors (R : σ → τ → Prop) (t : Trace σ α) (u : Trace τ α) : Prop where
  memory : R t.memory u.memory
  history : t.history = u.history

theorem Trace.Mirrors.note {t : Trace σ α} {u : Trace τ α} (h : t.Mirrors R u) (i : Nat)
    (res : α) : (t.note i res).Mirrors R (u.note i res) :=
  ⟨h.memory, congrArg (fun history => history.push (i, res)) h.history⟩

/-- Two computations with one answer between them, which leave related traces. -/
inductive Paired (R : σ → τ → Prop) :
    Except ε X × Trace σ α → Except ε X × Trace τ α → Prop where
  | error (e : ε) {t : Trace σ α} {u : Trace τ α} (traces : t.Mirrors R u) :
      Paired R (.error e, t) (.error e, u)
  | ok (a : X) {t : Trace σ α} {u : Trace τ α} (traces : t.Mirrors R u) :
      Paired R (.ok a, t) (.ok a, u)

theorem Paired.of_eq {p : Except ε X × Trace σ α} {q : Except ε X × Trace τ α} (h : p.1 = q.1)
    (traces : p.2.Mirrors R q.2) : Paired R p q := by
  obtain ⟨answer, t⟩ := p
  obtain ⟨answer', u⟩ := q
  obtain rfl : answer = answer' := h
  cases answer with
  | error e => exact .error e traces
  | ok a => exact .ok a traces

variable {A : Action σ ε α n} {B : Action τ ε α n}

theorem Trace.Mirrors.multiplyInto {t : Trace σ α} {u : Trace τ α} (h : t.Mirrors R u)
    (ops : A.MirrorsAt R m B) (x : Vector α m) (y : Vector α n) :
    Paired R (t.multiplyInto A x y) (u.multiplyInto B x y) := by
  obtain ⟨same, related⟩ := ops x y t.memory u.memory h.memory
  exact .of_eq same ⟨related, h.history⟩

/-! ## Whole runs -/

/-- Two iterations that keep related traces related make two loops that do. -/
theorem advance_mirrors {step : Step S σ ε α m} {step' : Step S τ ε α m}
    (keep : ∀ it t u, Trace.Mirrors R t u → Paired R (step it t) (step' it u)) :
    ∀ fuel it t u, Trace.Mirrors R t u →
      Paired R (advance step fuel it t) (advance step' fuel it u) := by
  intro fuel
  induction fuel with
  | zero =>
      intro it t u h
      exact .ok it h
  | succ fuel ih =>
      intro it t u h
      simp only [advance]
      by_cases live : it.stats.reason = .iterating
      · rw [if_pos live, if_pos live]
        have next := keep it t u h
        generalize step it t = p at next
        generalize step' it u = q at next
        cases next with
        | error e traces => exact .error e traces
        | ok it' traces => exact ih it' _ _ traces
      · rw [if_neg live, if_neg live]
        exact .ok it h

section Solve

variable [Scalar α]

theorem Trace.Mirrors.multiply {t : Trace σ α} {u : Trace τ α} (h : t.Mirrors R u)
    (ops : A.MirrorsAt R m B) (x : Vector α m) : Paired R (t.multiply A x) (u.multiply B x) :=
  h.multiplyInto ops x (Flat.zero n)

theorem Trace.Mirrors.residual {t : Trace σ α} {u : Trace τ α} (h : t.Mirrors R u)
    (ops : A.MirrorsAt R m B) (b : Vector α n) (x : Vector α m) :
    Paired R (Krylov.residual A b x t) (Krylov.residual B b x u) := by
  have image := h.multiply ops x
  unfold Krylov.residual
  generalize t.multiply A x = p at image
  generalize u.multiply B x = q at image
  cases image with
  | error e traces => exact .error e traces
  | ok y traces => exact .ok (Flat.sub b y) traces

/-- Two reports that tell the same, and leave related memories. -/
structure Report.Mirrors (R : σ → τ → Prop) (p : Report σ ε α m) (q : Report τ ε α m) : Prop where
  result : p.result = q.result
  solution : p.solution = q.solution
  history : p.history = q.history
  memory : R p.memory q.memory

theorem Method.solve_mirrors {M : Method S σ ε α n m} {M' : Method S τ ε α n m}
    (guess : A.MirrorsAt R m B) (start : M.begin = M'.begin)
    (keep : ∀ origin it t u, Trace.Mirrors R t u →
      Paired R (M.step origin it t) (M'.step origin it u))
    (criteria : Criteria α) (b : Vector α n) (x : Vector α m) {memory : σ} {memory' : τ}
    (related : R memory memory') :
    (M.solve A criteria b x memory).Mirrors R (M'.solve B criteria b x memory') := by
  have traces : Trace.Mirrors R (⟨memory, #[]⟩ : Trace σ α) ⟨memory', #[]⟩ := ⟨related, rfl⟩
  have res := traces.residual guess b x
  unfold Method.solve
  generalize residual A b x ⟨memory, #[]⟩ = p at res
  generalize residual B b x ⟨memory', #[]⟩ = q at res
  cases res with
  | error e traces => exact ⟨rfl, rfl, traces.history, traces.memory⟩
  | @ok r t u traces =>
      dsimp only
      rw [start]
      have run := advance_mirrors (keep (Flat.norm r)) criteria.limit
        ⟨x, criteria.stats (Flat.norm r) (Flat.norm r) 0, M'.begin r (Flat.norm r)⟩ _ _
        (traces.note 0 (Flat.norm r))
      generalize advance (M.step (Flat.norm r)) _ _ (t.note 0 (Flat.norm r)) = p at run
      generalize advance (M'.step (Flat.norm r)) _ _ (u.note 0 (Flat.norm r)) = q at run
      cases run with
      | error e traces => exact ⟨rfl, rfl, traces.history, traces.memory⟩
      | ok it traces => exact ⟨rfl, rfl, traces.history, traces.memory⟩

end Solve

/-! ## The three methods -/

section Methods

variable [Scalar α]

namespace ConjugateGradient

variable {A : Action σ ε α n} {B : Action τ ε α n}

theorem step_mirrors (ops : A.MirrorsAt R n B) (criteria : Criteria α) (origin : α)
    (it : Iterate (Carried α n) α m) {t : Trace σ α} {u : Trace τ α} (h : t.Mirrors R u) :
    Paired R (step A criteria origin it t) (step B criteria origin it u) := by
  have image := h.multiply ops it.carried.direction
  unfold step
  generalize t.multiply A it.carried.direction = p at image
  generalize u.multiply B it.carried.direction = q at image
  cases image with
  | error e traces => exact .error e traces
  | ok ap traces =>
      dsimp only
      cases curvatureVerdict (Flat.dot it.carried.direction ap) with
      | some reason => exact .ok _ traces
      | none => exact .ok _ (traces.note _ _)

theorem solve_mirrors (ops : A.MirrorsAt R n B) (guess : A.MirrorsAt R m B)
    (criteria : Criteria α) (b : Vector α n) (x : Vector α m) {memory : σ} {memory' : τ}
    (related : R memory memory') :
    (solve A criteria b x memory).Mirrors R (solve B criteria b x memory') :=
  Method.solve_mirrors guess rfl (fun origin it _ _ h => step_mirrors ops criteria origin it h)
    criteria b x related

end ConjugateGradient

namespace BiconjugateGradient

variable {A : Action σ ε α n} {B : Action τ ε α n}

theorem step_mirrors (ops : A.MirrorsAt R n B) (criteria : Criteria α) (origin : α)
    (it : Iterate (Carried α n) α m) {t : Trace σ α} {u : Trace τ α} (h : t.Mirrors R u) :
    Paired R (step A criteria origin it t) (step B criteria origin it u) := by
  unfold step
  dsimp only
  split
  · exact .ok _ h
  · have first := h.multiplyInto ops (Flat.addMul it.carried.res
      (share it.carried (Flat.dot it.carried.shadow it.carried.res) (it.stats.iterations + 1))
      (Flat.subMul it.carried.direction it.carried.omega it.carried.image)) it.carried.image
    generalize t.multiplyInto A _ it.carried.image = p at first
    generalize u.multiplyInto B _ it.carried.image = q at first
    cases first with
    | error e traces => exact .error e traces
    | @ok v t' u' traces =>
        dsimp only
        split
        · exact .ok _ traces
        · split
          · exact .ok _ (traces.note _ _)
          · have second := traces.multiply ops (Flat.subMul it.carried.res
              (Flat.dot it.carried.shadow it.carried.res / Flat.dot it.carried.shadow v) v)
            generalize t'.multiply A _ = p at second
            generalize u'.multiply B _ = q at second
            cases second with
            | error e traces => exact .error e traces
            | ok w traces =>
                dsimp only
                split
                · exact .ok _ traces
                · exact .ok _ (traces.note _ _)

theorem solve_mirrors (ops : A.MirrorsAt R n B) (guess : A.MirrorsAt R m B)
    (criteria : Criteria α) (b : Vector α n) (x : Vector α m) {memory : σ} {memory' : τ}
    (related : R memory memory') :
    (solve A criteria b x memory).Mirrors R (solve B criteria b x memory') :=
  Method.solve_mirrors guess rfl (fun origin it _ _ h => step_mirrors ops criteria origin it h)
    criteria b x related

end BiconjugateGradient

namespace MinimalResidual

variable {A : Action σ (Failure ε) α n} {B : Action τ (Failure ε) α n}

theorem finish_mirrors (guess : A.MirrorsAt R m B) (criteria : Criteria α) (b : Vector α n)
    (origin : α) (it : Iterate (Carried α n) α m) (g : Grown α n) (i : Nat) {t : Trace σ α}
    {u : Trace τ α} (h : t.Mirrors R u) :
    Paired R (finish A criteria b origin it g i t) (finish B criteria b origin it g i u) := by
  have res := h.residual guess b (g.cycle.improve it.solution)
  unfold finish
  dsimp only
  generalize residual A b (g.cycle.improve it.solution) t = p at res
  generalize residual B b (g.cycle.improve it.solution) u = q at res
  cases res with
  | error e traces => exact .error e traces
  | ok r traces => exact .ok _ traces

theorem step_mirrors (ops : A.MirrorsAt R n B) (guess : A.MirrorsAt R m B)
    (criteria : Criteria α) (restart : Nat) (b : Vector α n) (origin : α)
    (it : Iterate (Carried α n) α m) {t : Trace σ α} {u : Trace τ α} (h : t.Mirrors R u) :
    Paired R (step A criteria restart b origin it t) (step B criteria restart b origin it u) := by
  unfold step
  cases Storage.reserve (restart + 1) Storage.vectorBytes with
  | error fault => exact .error _ h
  | ok room =>
      dsimp only
      unfold extend
      dsimp only
      have image := h.multiply ops
        (Flat.divBy it.carried.cycle.next it.carried.cycle.scale)
      generalize t.multiply A _ = p at image
      generalize u.multiply B _ = q at image
      cases image with
      | error e traces => exact .error e traces
      | ok w traces =>
          dsimp only
          split
          · exact finish_mirrors guess criteria b origin it _ _ (traces.note _ _)
          · exact .ok _ (traces.note _ _)

theorem solve_mirrors (ops : A.MirrorsAt R n B) (guess : A.MirrorsAt R m B)
    (criteria : Criteria α) (restart : Nat) (b : Vector α n) (x : Vector α m) {memory : σ}
    {memory' : τ} (related : R memory memory') :
    (solve A criteria restart b x memory).Mirrors R (solve B criteria restart b x memory') :=
  Method.solve_mirrors guess rfl
    (fun origin it _ _ h => step_mirrors ops guess criteria restart b origin it h) criteria b x
    related

end MinimalResidual

end Methods

end MatrixFree.Krylov
