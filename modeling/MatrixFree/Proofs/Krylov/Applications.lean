import Mathlib.Algebra.Order.Floor.Div
import Mathlib.GroupTheory.GroupAction.Ring
import MatrixFree.Operators.Flat
import MatrixFree.Proofs.Krylov.Mirror
import MatrixFree.Proofs.Krylov.Termination

/-!
# Applications of the operator

What a run costs is the number of times it applies its operator.  An operator can count them
itself: `Action.counted` keeps the count beside the memory, and a run cannot tell the
difference.  The first residual costs one application.  After it, an iteration of conjugate
gradients costs one, and an iteration of the other two methods at most two, so the limit
bounds the cost of any run (`Method.Runs.cost_le`), whatever the operator answers.

The exact counts come from the iterates at which the iterations began.  Conjugate gradients
pay for an iteration that they cannot finish as well.  Minimal residuals pay one application
for each iteration and one for the end of each cycle, and `cycles` counts the iterations
that began with an empty basis.
-/

namespace MatrixFree.Krylov

variable {σ ε α S : Type} {m n : Nat}

/-! ## Counting -/

/-- The operator, which now also counts its applications. -/
def Action.counted (A : Action σ ε α n) : Action (σ × Nat) ε α n :=
  fun x y (memory, count) => ((A x y memory).1, ((A x y memory).2, count + 1))

/-- Counting changes no answer. -/
theorem Action.counted_mirrors (A : Action σ ε α n) :
    A.counted.Mirrors (fun p memory => p.1 = memory) A := by
  rintro x y ⟨memory, count⟩ memory' related
  obtain rfl : memory = memory' := related
  exact ⟨rfl, rfl⟩

/-- The applications that a trace has seen. -/
def Trace.applications (t : Trace (σ × Nat) α) : Nat := t.memory.2

@[simp] theorem Trace.applications_note (t : Trace (σ × Nat) α) (i : Nat) (res : α) :
    (t.note i res).applications = t.applications := rfl

section Apply

variable {A : Action σ ε α n} {t u : Trace (σ × Nat) α}

theorem Trace.applications_multiplyInto {x : Vector α m} {y : Vector α n}
    {answer : Except ε (Vector α n)} (h : t.multiplyInto A.counted x y = (answer, u)) :
    u.applications = t.applications + 1 := by
  obtain ⟨-, rfl⟩ := Prod.mk.inj h
  rfl

variable [Scalar α]

theorem Trace.applications_multiply {x : Vector α m} {answer : Except ε (Vector α n)}
    (h : t.multiply A.counted x = (answer, u)) : u.applications = t.applications + 1 :=
  applications_multiplyInto h

theorem Trace.applications_residual {b : Vector α n} {x : Vector α m}
    {answer : Except ε (Vector α n)} (h : residual A.counted b x t = (answer, u)) :
    u.applications = t.applications + 1 := by
  unfold residual at h
  split at h
  · next e v image =>
      obtain ⟨-, rfl⟩ := Prod.mk.inj h
      exact applications_multiply image
  · next y v image =>
      obtain ⟨-, rfl⟩ := Prod.mk.inj h
      exact applications_multiply image

end Apply

/-! ## The cost of a run -/

/-- An iteration costs at most `cost` applications, whether it fails or not. -/
def Step.CostsAtMost (step : Step S (σ × Nat) ε α m) (cost : Nat) : Prop :=
  ∀ it t, (step it t).2.applications ≤ t.applications + cost

theorem Loop.cost_le {step : Step S (σ × Nat) ε α m} {cost : Nat} (price : step.CostsAtMost cost)
    {passed : List (Iterate S α m)} {it : Iterate S α m} {t : Trace (σ × Nat) α}
    {out : Except ε (Iterate S α m) × Trace (σ × Nat) α} (loop : Loop step passed it t out) :
    out.2.applications ≤ t.applications + cost * passed.length := by
  induction loop with
  | stop verdict => exact Nat.le_add_right _ _
  | @fail it t u e live failed =>
      have paid := price it t
      rw [failed] at paid
      simpa using paid
  | @next it it' t u passed out live moved rest ih =>
      have paid := price it t
      rw [moved] at paid
      dsimp only at paid
      simp only [List.length_cons, Nat.mul_succ]
      omega

section Solve

variable [Scalar α] {M : Method S (σ × Nat) ε α n m} {A : Action σ ε α n}
  {criteria : Criteria α} {b : Vector α n} {x : Vector α m} {memory : σ}
  {passed : List (Iterate S α m)} {report : Report (σ × Nat) ε α m}

theorem Method.Runs.cost_le {cost : Nat} (price : ∀ origin, (M.step origin).CostsAtMost cost)
    (runs : M.Runs A.counted criteria b x (memory, 0) passed report) :
    report.memory.2 ≤ 1 + cost * passed.length := by
  cases runs with
  | refused res =>
      have first := Trace.applications_residual res
      exact Nat.le_trans (Nat.le_of_eq first) (Nat.le_add_right 1 _)
  | failed res loop =>
      have first := Trace.applications_residual res
      have spent := loop.cost_le (price _)
      rw [Trace.applications_note, first] at spent
      exact spent
  | ended res loop =>
      have first := Trace.applications_residual res
      have spent := loop.cost_le (price _)
      rw [Trace.applications_note, first] at spent
      exact spent

/-- What becomes of a solve, said of the same solve with a count: it ends by a verdict or a
failure, its counter stays within the limit, and it applies the operator once, and at most
`cost` times for each iteration that the limit allows.  `plain` is the solve without the
count. -/
structure Method.Ends (M : Method S (σ × Nat) ε α n n) (A : Action σ ε α n)
    (criteria : Criteria α) (b x : Vector α n) (memory : σ) (plain : Report σ ε α n)
    (counter : Iterate S α n → Nat) (cost : Nat) (passed : List (Iterate S α n)) : Prop where
  plain : (M.solve A.counted criteria b x (memory, 0)).Mirrors (fun p memory => p.1 = memory) plain
  runs : M.Runs A.counted criteria b x (memory, 0) passed
    (M.solve A.counted criteria b x (memory, 0))
  /-- An iteration goes on to the number that follows its counter. -/
  counter : ∀ it ∈ passed, counter it + 1 ≤ criteria.limit
  applications : (M.solve A.counted criteria b x (memory, 0)).memory.2 ≤ 1 + cost * criteria.limit

theorem Method.solve_ends {M : Method S (σ × Nat) ε α n n} {b x : Vector α n}
    {plain : Report σ ε α n}
    (same : (M.solve A.counted criteria b x (memory, 0)).Mirrors (fun p memory => p.1 = memory)
      plain)
    {own : List Reason} {counter : Iterate S α n → Nat} {cost : Nat}
    (start : ∀ r, counter (M.first criteria x r) = 0)
    (keep : ∀ origin left it t it' t', Sound criteria origin own counter (left + 1) it →
      it.stats.reason = .iterating → M.step origin it t = (.ok it', t') →
      Sound criteria origin own counter left it')
    (price : ∀ origin, (M.step origin).CostsAtMost cost) :
    ∃ passed, M.Ends A criteria b x memory plain counter cost passed := by
  obtain ⟨passed, runs, length, below⟩ :
      ∃ passed, M.Runs A.counted criteria b x (memory, 0) passed
          (M.solve A.counted criteria b x (memory, 0)) ∧
        passed.length ≤ criteria.limit ∧ ∀ p ∈ passed, counter p < criteria.limit :=
    Method.solve_runs start keep
  refine ⟨passed, same, runs, below, ?_⟩
  have spent := runs.cost_le price
  have most := Nat.mul_le_mul_left cost length
  omega

/-- A run with a record, by its first residual and its loop. -/
theorem Method.Runs.of_ok (runs : M.Runs A.counted criteria b x (memory, 0) passed report)
    {s : Stats α} (ok : report.result = .ok s) :
    ∃ r t it u, (residual A.counted b x ⟨(memory, 0), #[]⟩).1 = .ok r ∧
      t.applications = 1 ∧
      Loop (M.step (Flat.norm r)) passed (M.first criteria x r) t (.ok it, u) ∧
      it.stats = s ∧ report.memory.2 = u.applications := by
  cases runs with
  | refused res => cases ok
  | failed res loop => cases ok
  | ended res loop =>
      have first := Trace.applications_residual res
      refine ⟨_, _, _, _, congrArg Prod.fst res, ?_, loop, Except.ok.inj ok, rfl⟩
      exact (Trace.applications_note _ 0 _).trans first

end Solve

/-! ## Conjugate gradients -/

namespace ConjugateGradient

variable [Scalar α] {A : Action σ ε α n} {criteria : Criteria α} {origin : α}

/-- Every iteration costs one application. -/
theorem applications_step (it : Iterate (Carried α n) α m) (t : Trace (σ × Nat) α) :
    (step A.counted criteria origin it t).2.applications = t.applications + 1 := by
  have outcome := iteration A.counted criteria origin it t
  generalize step A.counted criteria origin it t = out at outcome
  cases outcome with
  | failed image => exact Trace.applications_multiply image
  | stopped image curvature => exact Trace.applications_multiply image
  | moved image curvature =>
      rw [Trace.applications_note]
      exact Trace.applications_multiply image

theorem loop_applications {passed : List (Iterate (Carried α n) α m)}
    {it : Iterate (Carried α n) α m} {t : Trace (σ × Nat) α}
    {out : Except ε (Iterate (Carried α n) α m) × Trace (σ × Nat) α}
    (loop : Loop (step A.counted criteria origin) passed it t out) :
    out.2.applications = t.applications + passed.length := by
  induction loop with
  | stop verdict => rfl
  | @fail it t u e live failed =>
      have paid : (step A.counted criteria origin it t).2.applications = t.applications + 1 :=
        applications_step it t
      rw [failed] at paid
      exact paid
  | @next it it' t u passed out live moved rest ih =>
      have paid : (step A.counted criteria origin it t).2.applications = t.applications + 1 :=
        applications_step it t
      rw [moved] at paid
      dsimp only at paid
      simp only [List.length_cons]
      omega

/-- The last iteration had an image of its direction, and could not take a step along it. -/
def StoppedOnCurvature (A : Action σ ε α n) (passed : List (Iterate (Carried α n) α m))
    (s : Stats α) : Prop :=
  ∃ (last : Iterate (Carried α n) α m) (ap : Vector α n) (t u : Trace σ α),
    passed.getLast? = some last ∧ t.multiply A last.carried.direction = (.ok ap, u) ∧
    curvatureVerdict (Flat.dot last.carried.direction ap) = some s.reason ∧
    s = last.stats.stopped s.reason

/-- A record of the test counts all iterations, and one of a run that was stopped all but
the last. -/
theorem loop_iterations {passed : List (Iterate (Carried α n) α m)}
    {it : Iterate (Carried α n) α m} {t : Trace σ α}
    {out : Except ε (Iterate (Carried α n) α m) × Trace σ α}
    (loop : Loop (step A criteria origin) passed it t out)
    (fresh : it.stats.reason = criteria.check it.stats.residual origin it.stats.iterations)
    {it' : Iterate (Carried α n) α m} {u : Trace σ α} (ended : out = (.ok it', u)) :
    (it'.stats.reason = criteria.check it'.stats.residual origin it'.stats.iterations ∧
        it.stats.iterations + passed.length = it'.stats.iterations) ∨
      (criteria.check it'.stats.residual origin it'.stats.iterations = .iterating ∧
        StoppedOnCurvature A passed it'.stats ∧
        it.stats.iterations + passed.length = it'.stats.iterations + 1) := by
  induction loop with
  | stop verdict =>
      cases ended
      exact Or.inl ⟨fresh, rfl⟩
  | fail live failed => cases ended
  | @next it next t v passed out live moved rest ih =>
      have outcome := iteration A criteria origin it t
      rw [moved] at outcome
      cases outcome with
      | @stopped ap v reason image curvature =>
          have given := curvatureVerdict_mem curvature
          have verdict : reason ≠ .iterating :=
            Reason.ne_iterating_of_mem breakdowns_subset given
          -- The record now has a verdict, so nothing follows.
          cases rest with
          | stop =>
              cases ended
              rw [fresh] at live
              exact Or.inr ⟨live, ⟨it, ap, t, _, rfl, image, curvature, rfl⟩, rfl⟩
          | fail live' => exact absurd live' verdict
          | next live' => exact absurd live' verdict
      | @moved ap v image curvature =>
          rcases ih rfl ended with ⟨granted, count⟩ | ⟨undecided, stopped, count⟩
          · refine Or.inl ⟨granted, ?_⟩
            rw [← count, List.length_cons]
            exact (Nat.add_right_comm it.stats.iterations 1 passed.length).symm
          · refine Or.inr ⟨undecided, ?_, ?_⟩
            · obtain ⟨last, ap', t', u', isLast, rest⟩ := stopped
              refine ⟨last, ap', t', u', ?_, rest⟩
              rw [List.getLast?_cons, isLast]
              rfl
            · rw [← count, List.length_cons]
              exact (Nat.add_right_comm it.stats.iterations 1 passed.length).symm

end ConjugateGradient

/-! ## Stabilized biconjugate gradients -/

namespace BiconjugateGradient

variable [Scalar α] {A : Action σ ε α n} {criteria : Criteria α} {origin : α}

/-- An iteration may break down before its first application and stop before its second. -/
theorem step_costsAtMost :
    (step A.counted criteria origin : Step (Carried α n) (σ × Nat) ε α m).CostsAtMost 2 := by
  intro it t
  have outcome := iteration A.counted criteria origin it t
  generalize step A.counted criteria origin it t = out at outcome
  cases outcome with
  | orthogonal vanished => exact Nat.le_add_right _ 2
  | failed product first =>
      have one := Trace.applications_multiplyInto first
      dsimp only
      omega
  | blocked product first length =>
      have one := Trace.applications_multiplyInto first
      dsimp only
      omega
  | halved product first length converged =>
      have one := Trace.applications_multiplyInto first
      rw [Trace.applications_note]
      omega
  | failedHalfway product first length unconverged second =>
      have one := Trace.applications_multiplyInto first
      have two := Trace.applications_multiply second
      dsimp only
      omega
  | spent product first length unconverged second vanished =>
      have one := Trace.applications_multiplyInto first
      have two := Trace.applications_multiply second
      dsimp only
      omega
  | stabilized product first length unconverged second square =>
      have one := Trace.applications_multiplyInto first
      have two := Trace.applications_multiply second
      rw [Trace.applications_note]
      omega

end BiconjugateGradient

/-! ## Restarted minimal residuals -/

namespace MinimalResidual

variable [Scalar α] {A : Action σ (Failure ε) α n} {criteria : Criteria α} {restart : Nat}
  {b : Vector α n} {origin : α}

/-- An iteration costs one application, and one more if it ends its cycle. -/
theorem step_costsAtMost :
    (step A.counted criteria restart b origin :
      Step (Carried α n) (σ × Nat) (Failure ε) α m).CostsAtMost 2 := by
  intro it t
  have outcome := iteration A.counted criteria restart b origin it t
  generalize step A.counted criteria restart b origin it t = out at outcome
  cases outcome with
  | noRoom full => exact Nat.le_add_right _ 2
  | failed room image =>
      have one := Trace.applications_multiply image
      dsimp only
      omega
  | grown room image more =>
      have one := Trace.applications_multiply image
      rw [Trace.applications_note]
      omega
  | unfinished room image closed res =>
      have one := Trace.applications_multiply image
      have two := Trace.applications_residual res
      rw [Trace.applications_note] at two
      dsimp only
      omega
  | finished room image closed res =>
      have one := Trace.applications_multiply image
      have two := Trace.applications_residual res
      rw [Trace.applications_note] at two
      dsimp only
      omega

/-- The cycles that were started: the iterations that began with an empty basis. -/
def cycles (passed : List (Iterate (Carried α n) α m)) : Nat :=
  passed.countP fun it => it.carried.cycle.basis.isEmpty

/-- A cycle that is under way still has its end to pay for. -/
def pending (it : Iterate (Carried α n) α m) : Nat :=
  if it.carried.cycle.basis.isEmpty then 0 else 1

omit [Scalar α] in
theorem cycles_cons (it : Iterate (Carried α n) α m) (passed : List (Iterate (Carried α n) α m)) :
    cycles (it :: passed) + pending it = cycles passed + 1 := by
  unfold cycles pending
  rw [List.countP_cons]
  cases it.carried.cycle.basis.isEmpty <;> rfl

/-- A loop that ends by a verdict has paid once for each iteration and once for the end of
each cycle, and its cycles are no longer than `restart`. -/
theorem loop_cycles {passed : List (Iterate (Carried α n) α m)}
    {it : Iterate (Carried α n) α m} {t : Trace (σ × Nat) α}
    {out : Except (Failure ε) (Iterate (Carried α n) α m) × Trace (σ × Nat) α}
    (loop : Loop (step A.counted criteria restart b origin) passed it t out)
    (short : it.carried.cycle.basis.length < restart)
    (settled : it.stats.reason ≠ .iterating →
      it.carried.cycle.basis = [] ∧ it.stats.iterations = it.carried.iterations)
    {it' : Iterate (Carried α n) α m} {u : Trace (σ × Nat) α} (ended : out = (.ok it', u)) :
    u.applications = t.applications + passed.length + (cycles passed + pending it) ∧
      it'.stats.iterations = it.carried.iterations + passed.length ∧
      cycles passed + pending it ≤ passed.length ∧
      passed.length + it.carried.cycle.basis.length ≤ (cycles passed + pending it) * restart := by
  induction loop with
  | stop verdict =>
      cases ended
      obtain ⟨empty, count⟩ := settled verdict
      simp [cycles, pending, empty, count]
  | fail live failed => cases ended
  | @next it next t v passed out live moved rest ih =>
      have ends := cycles_cons it passed
      have outcome := iteration A.counted criteria restart b origin it t
      rw [moved] at outcome
      cases outcome with
      | @grown w v room image more =>
          have one := Trace.applications_multiply image
          have short' := length_lt_of_not_closes more
          obtain ⟨paid, count, least, most⟩ :=
            ih short' (fun verdict => absurd live verdict) ended
          have longer := it.carried.cycle.length_basis_grow it.carried.basisVector w
          have underWay : pending (⟨it.solution, it.stats,
              ⟨(it.carried.cycle.grow it.carried.basisVector w).cycle, it.carried.iterations + 1⟩⟩ :
              Iterate (Carried α n) α m) = 1 := by
            simp [pending, Cycle.grow]
          rw [Trace.applications_note, underWay] at paid
          rw [underWay] at least most
          dsimp only at count most
          rw [longer] at most
          rw [ends, List.length_cons]
          refine ⟨?_, ?_, ?_, ?_⟩ <;> omega
      | @finished w r v v' room image closed res =>
          have one := Trace.applications_multiply image
          have two := Trace.applications_residual res
          rw [Trace.applications_note] at two
          obtain ⟨paid, count, least, most⟩ :=
            ih (Nat.zero_lt_of_lt short) (fun _ => ⟨rfl, closingStats_iterations ..⟩) ended
          have restarted : ∀ x s, pending (⟨x, s,
              ⟨.start r (Flat.norm r), it.carried.iterations + 1⟩⟩ :
              Iterate (Carried α n) α m) = 0 := fun _ _ => rfl
          rw [restarted] at paid least most
          simp only [Cycle.start, List.length_nil, Nat.add_zero] at paid count least most
          rw [ends, List.length_cons, Nat.add_one_mul]
          refine ⟨?_, ?_, ?_, ?_⟩ <;> omega

end MinimalResidual

/-! ## Every solve -/

section Solve

variable [Scalar α]

/-- What a record of conjugate gradients has cost: one application for the first residual,
one for each iteration it tells, and one more if the run stopped on a product of a direction
and its image. -/
def ConjugateGradient.Paid (A : Action σ ε α n) (criteria : Criteria α) (origin : α)
    (passed : List (Iterate (Carried α n) α m)) (s : Stats α) (applications : Nat) : Prop :=
  s.reason = criteria.check s.residual origin s.iterations ∧ applications = 1 + s.iterations ∨
    criteria.check s.residual origin s.iterations = .iterating ∧
      StoppedOnCurvature A passed s ∧ applications = 1 + s.iterations + 1

theorem ConjugateGradient.paid {A : Action σ ε α n} {criteria : Criteria α} {b x : Vector α n}
    {memory : σ} {passed : List (Iterate (Carried α n) α n)} {report : Report (σ × Nat) ε α n}
    (runs : (method A.counted criteria).Runs A.counted criteria b x (memory, 0) passed report)
    {s : Stats α} (ok : report.result = .ok s) :
    ∃ r, (residual A.counted b x ⟨(memory, 0), #[]⟩).1 = .ok r ∧
      Paid A.counted criteria (Flat.norm r) passed s report.memory.2 := by
  obtain ⟨r, t, it, u, first, one, loop, rfl, spent⟩ := runs.of_ok ok
  have paid := loop_applications loop
  dsimp only at paid
  rw [one, ← spent] at paid
  refine ⟨r, first, ?_⟩
  rcases loop_iterations loop rfl rfl with ⟨granted, count⟩ | ⟨undecided, stopped, count⟩
  · rw [show (Method.first (method A.counted criteria) criteria x r).stats.iterations = 0 from rfl,
      Nat.zero_add] at count
    exact Or.inl ⟨granted, by omega⟩
  · rw [show (Method.first (method A.counted criteria) criteria x r).stats.iterations = 0 from rfl,
      Nat.zero_add] at count
    exact Or.inr ⟨undecided, stopped, by omega⟩

theorem MinimalResidual.paid {A : Action σ (Failure ε) α n} {criteria : Criteria α}
    {restart : Nat} (positive : 0 < restart) {b x : Vector α n} {memory : σ}
    {passed : List (Iterate (Carried α n) α n)} {report : Report (σ × Nat) (Failure ε) α n}
    (runs : (method A.counted criteria restart b).Runs A.counted criteria b x (memory, 0) passed
      report)
    {s : Stats α} (ok : report.result = .ok s) :
    report.memory.2 = 1 + s.iterations + cycles passed ∧
      s.iterations ⌈/⌉ restart ≤ cycles passed ∧ cycles passed ≤ s.iterations := by
  obtain ⟨r, t, it, u, first, one, loop, rfl, spent⟩ := runs.of_ok ok
  obtain ⟨paid, count, least, most⟩ := loop_cycles loop positive (fun _ => ⟨rfl, rfl⟩) rfl
  have fresh : pending (Method.first (method A.counted criteria restart b) criteria x r) = 0 := rfl
  rw [fresh] at paid least most
  dsimp only [Method.first, method, Cycle.start, List.length_nil] at count most
  rw [Nat.zero_add] at count
  rw [one, ← spent, ← count] at paid
  refine ⟨paid, ?_, ?_⟩
  · rw [ceilDiv_le_iff_le_mul positive, count, Nat.mul_comm]
    exact most
  · rw [count]
    exact least

/-- **Solves end.**  Whatever the operator does, nonlinear, with a memory, failing or full of
NaNs, a run of any of the three methods ends by a verdict or a failure, its iteration counter
never passes the limit, and the limit bounds the applications of the operator. What a record
has cost can be told from its iterations: conjugate gradients apply the operator once for
each, and minimal residuals once for each and once for each cycle. -/
theorem solve_terminates (A : Action σ (Failure ε) α n) (criteria : Criteria α) {restart : Nat}
    (positive : 0 < restart) (b x : Vector α n) (memory : σ) :
    (∃ passed, (ConjugateGradient.method A.counted criteria).Ends A criteria b x memory
        (ConjugateGradient.solve A criteria b x memory) (·.stats.iterations) 1 passed ∧
      ∀ s, (ConjugateGradient.solve A.counted criteria b x (memory, 0)).result = .ok s →
        ∃ r, (residual A.counted b x ⟨(memory, 0), #[]⟩).1 = .ok r ∧
          ConjugateGradient.Paid A.counted criteria (Flat.norm r) passed s
            (ConjugateGradient.solve A.counted criteria b x (memory, 0)).memory.2) ∧
    (∃ passed, (BiconjugateGradient.method A.counted criteria).Ends A criteria b x memory
        (BiconjugateGradient.solve A criteria b x memory) (·.stats.iterations) 2 passed) ∧
    ∃ passed, (MinimalResidual.method A.counted criteria restart b).Ends A criteria b x memory
        (MinimalResidual.solve A criteria restart b x memory) (·.carried.iterations) 2 passed ∧
      ∀ s, (MinimalResidual.solve A.counted criteria restart b x (memory, 0)).result = .ok s →
        (MinimalResidual.solve A.counted criteria restart b x (memory, 0)).memory.2 =
            1 + s.iterations + MinimalResidual.cycles passed ∧
          s.iterations ⌈/⌉ restart ≤ MinimalResidual.cycles passed ∧
          MinimalResidual.cycles passed ≤ s.iterations := by
  have same := A.counted_mirrors
  refine ⟨?_, ?_, ?_⟩
  · have counting : (ConjugateGradient.solve A.counted criteria b x (memory, 0)).Mirrors
        (fun p memory => p.1 = memory) (ConjugateGradient.solve A criteria b x memory) :=
      ConjugateGradient.solve_mirrors same same criteria b x rfl
    obtain ⟨passed, ends⟩ := Method.solve_ends counting (fun _ => rfl)
      (fun _ _ _ _ _ _ => ConjugateGradient.step_sound)
      (fun _ it t => Nat.le_of_eq (ConjugateGradient.applications_step it t))
    exact ⟨passed, ends, fun s ok => ConjugateGradient.paid ends.runs ok⟩
  · have counting : (BiconjugateGradient.solve A.counted criteria b x (memory, 0)).Mirrors
        (fun p memory => p.1 = memory) (BiconjugateGradient.solve A criteria b x memory) :=
      BiconjugateGradient.solve_mirrors same same criteria b x rfl
    exact Method.solve_ends counting (fun _ => rfl)
      (fun _ _ _ _ _ _ => BiconjugateGradient.step_sound)
      (fun _ => BiconjugateGradient.step_costsAtMost)
  · have counting : (MinimalResidual.solve A.counted criteria restart b x (memory, 0)).Mirrors
        (fun p memory => p.1 = memory) (MinimalResidual.solve A criteria restart b x memory) :=
      MinimalResidual.solve_mirrors same same criteria restart b x rfl
    obtain ⟨passed, ends⟩ := Method.solve_ends counting (fun _ => rfl)
      (fun _ _ _ _ _ _ => MinimalResidual.step_sound)
      (fun _ => MinimalResidual.step_costsAtMost)
    exact ⟨passed, ends, fun s ok => MinimalResidual.paid positive ends.runs ok⟩

/-- Two cycles of one basis vector each on a system of two equations: five applications. -/
theorem solve_terminates_dense :
    let A := Operators.Flat.action (.always (.rule (.dense #[[4.0, 1.0], [1.0, 3.0]]))) 2
    let criteria : Criteria Float := ⟨0.1, 1e-50, 1e5, 20⟩
    let b : Vector Float 2 := #v[1.0, 2.0]
    let report := MinimalResidual.solve A.counted criteria 1 b (Flat.zero 2) (0, 0)
    0 < 1 ∧ ∃ s, report.result = .ok s ∧ s.iterations = 2 ∧ report.memory.2 = 5 ∧
      ∃ passed, (MinimalResidual.method A.counted criteria 1 b).Ends A criteria b (Flat.zero 2) 0
          (MinimalResidual.solve A criteria 1 b (Flat.zero 2) 0) (·.carried.iterations) 2 passed ∧
        report.memory.2 = 1 + s.iterations + MinimalResidual.cycles passed ∧
        s.iterations ⌈/⌉ 1 ≤ MinimalResidual.cycles passed ∧
        MinimalResidual.cycles passed ≤ s.iterations := by
  intro A criteria b report
  have run : report.result.toOption.any (fun s => s.iterations == 2) = true := by decide +kernel
  have five : report.memory.2 = 5 := by decide +kernel
  obtain ⟨s, ok, two⟩ := exists_ok_of_any run
  obtain ⟨-, -, passed, ends, counts⟩ :=
    solve_terminates A criteria Nat.one_pos b (Flat.zero 2) 0
  exact ⟨Nat.one_pos, s, ok, eq_of_beq two, five, passed, ends, counts s ok⟩

end Solve

end MatrixFree.Krylov
