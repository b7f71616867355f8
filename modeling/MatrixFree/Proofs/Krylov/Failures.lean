import MatrixFree.Proofs.Krylov.Iteration
import MatrixFree.Proofs.Krylov.Loop

/-!
# Where failures come from

A method raises nothing of its own but the fault of a basis without room.  Every other failure of a
solve was answered by the operator, which is not applied again after it.

So a property of the operator's memory that answers keep is kept by a solve with a record, and what
a failure of the operator leaves in the memory is still there after a solve that it ended
(`MinimalResidual.solve_leaves` and its companions). Without a look at the memory this says that
what is known of the operator's failures is known of the solve's
(`MinimalResidual.solve_failsOnly` and its companions).
-/

namespace MatrixFree.Krylov

variable {σ ε α S X : Type} {m n : Nat} {Good : σ → Prop} {Bad : ε → σ → Prop} {P : ε → Prop}

/-! ## What is left in the memory -/

/-- After an answer the memory is good, and after a failure it is bad in the way of that failure. -/
def Leaves (Good : σ → Prop) (Bad : ε → σ → Prop) : Except ε X × Trace σ α → Prop
  | (.ok _, t) => Good t.memory
  | (.error e, t) => Bad e t.memory

/-- An application to a vector of length `m`, with a good memory, leaves it good or fails. -/
def Action.LeavesAt (m : Nat) (A : Action σ ε α n) (Good : σ → Prop) (Bad : ε → σ → Prop) : Prop :=
  ∀ (x : Vector α m) (y : Vector α n) memory, Good memory →
    (∀ image, (A x.toArray y memory).1 = .ok image → Good (A x.toArray y memory).2) ∧
      ∀ e, (A x.toArray y memory).1 = .error e → Bad e (A x.toArray y memory).2

/-- The same where the vector has the system's length. -/
def Action.Leaves (A : Action σ ε α n) (Good : σ → Prop) (Bad : ε → σ → Prop) : Prop :=
  A.LeavesAt n Good Bad

/-- The same of all that a solve leaves. -/
def Report.Leaves (Good : σ → Prop) (Bad : ε → σ → Prop) (report : Report σ ε α m) : Prop :=
  (∀ stats, report.result = .ok stats → Good report.memory) ∧
    ∀ e, report.result = .error e → Bad e report.memory

/-- All failures of the operator on vectors of the system's length have a property. -/
def Action.FailsOnly (A : Action σ ε α n) (P : ε → Prop) : Prop :=
  ∀ (x y : Vector α n) memory e, (A x.toArray y memory).1 = .error e → P e

theorem Action.FailsOnly.leaves {A : Action σ ε α n} (h : A.FailsOnly P) :
    A.Leaves (fun _ => True) (fun e _ => P e) :=
  fun x y memory _ => ⟨fun _ _ => trivial, h x y memory⟩

theorem Action.LeavesAt.multiplyInto {A : Action σ ε α n} (h : A.LeavesAt m Good Bad)
    {t : Trace σ α} (good : Good t.memory) (x : Vector α m) (y : Vector α n) :
    Krylov.Leaves Good Bad (t.multiplyInto A x y) := by
  obtain ⟨kept, lost⟩ := h x y t.memory good
  unfold Trace.multiplyInto Trace.apply
  rcases image : A x.toArray y t.memory with ⟨e | v, memory⟩
  · rw [image] at lost
    exact lost e rfl
  · rw [image] at kept
    exact kept v rfl

/-! ## Whole runs -/

theorem advance_leaves {step : Step S σ ε α m}
    (keep : ∀ it t, Good t.memory → Leaves Good Bad (step it t)) (fuel : Nat)
    (it : Iterate S α m) {t : Trace σ α} (good : Good t.memory) :
    Leaves Good Bad (advance step fuel it t) := by
  have keep' : ∀ (left : Nat) (it : Iterate S α m) (t : Trace σ α) (it' : Iterate S α m)
      (t' : Trace σ α), Good t.memory → it.stats.reason = .iterating →
      step it t = (.ok it', t') → Good t'.memory := by
    intro left it t it' t' good live moved
    have kept := keep it t good
    rw [moved] at kept
    exact kept
  rcases advance_ends (P := fun _ _ t => Good t.memory) keep' fuel it t good with
    ⟨left, it', t', ended, good', -⟩ | ⟨left, last, u, e, t', failed, good', -, hstep⟩
  · rw [ended]
    exact good'
  · have lost := keep last u good'
    rw [hstep] at lost
    rw [failed]
    exact lost

variable [Scalar α] {A : Action σ ε α n}

theorem Action.LeavesAt.multiply (h : A.LeavesAt m Good Bad) {t : Trace σ α}
    (good : Good t.memory) (x : Vector α m) : Krylov.Leaves Good Bad (t.multiply A x) :=
  h.multiplyInto good x (Flat.zero n)

theorem Action.LeavesAt.residual (h : A.LeavesAt m Good Bad) {t : Trace σ α}
    (good : Good t.memory) (b : Vector α n) (x : Vector α m) :
    Krylov.Leaves Good Bad (residual A b x t) := by
  have image := h.multiply good x
  unfold Krylov.residual
  rcases hx : t.multiply A x with ⟨e | y, u⟩
  · rw [hx] at image
    exact image
  · rw [hx] at image
    exact image

theorem Method.solve_leaves {M : Method S σ ε α n m} (guess : A.LeavesAt m Good Bad)
    (keep : ∀ origin it t, Good t.memory → Leaves Good Bad (M.step origin it t))
    (criteria : Criteria α) (b : Vector α n) (x : Vector α m) {memory : σ} (good : Good memory) :
    (M.solve A criteria b x memory).Leaves Good Bad := by
  have first := guess.residual (t := ⟨memory, #[]⟩) good b x
  unfold Method.solve
  rcases hres : residual A b x ⟨memory, #[]⟩ with ⟨e | r, t⟩
  · rw [hres] at first
    refine ⟨nofun, ?_⟩
    rintro _ ⟨⟩
    exact first
  · rw [hres] at first
    have run := advance_leaves (keep (Flat.norm r)) criteria.limit
      ⟨x, criteria.stats (Flat.norm r) (Flat.norm r) 0, M.begin r (Flat.norm r)⟩
      (t := t.note 0 (Flat.norm r)) first
    dsimp only
    rcases hrun : advance (M.step (Flat.norm r)) criteria.limit _ (t.note 0 (Flat.norm r)) with
      ⟨e | it, u⟩
    · rw [hrun] at run
      refine ⟨nofun, ?_⟩
      rintro _ ⟨⟩
      exact run
    · rw [hrun] at run
      exact ⟨fun _ _ => run, nofun⟩

/-! ## The three methods -/

theorem ConjugateGradient.step_leaves (ops : A.LeavesAt n Good Bad) (criteria : Criteria α)
    (origin : α) (it : Iterate (Carried α n) α m) {t : Trace σ α} (good : Good t.memory) :
    Leaves Good Bad (step A criteria origin it t) := by
  have image := ops.multiply good it.carried.direction
  have outcome := iteration A criteria origin it t
  generalize step A criteria origin it t = out at outcome
  cases outcome with
  | failed failed => rwa [failed] at image
  | stopped applied curvature => rwa [applied] at image
  | moved applied curvature => rwa [applied] at image

theorem ConjugateGradient.solve_leaves (ops : A.LeavesAt n Good Bad)
    (guess : A.LeavesAt m Good Bad) (criteria : Criteria α) (b : Vector α n) (x : Vector α m)
    {memory : σ} (good : Good memory) : (solve A criteria b x memory).Leaves Good Bad :=
  Method.solve_leaves guess (fun origin it _ => step_leaves ops criteria origin it) criteria b x
    good

theorem BiconjugateGradient.step_leaves (ops : A.LeavesAt n Good Bad) (criteria : Criteria α)
    (origin : α) (it : Iterate (Carried α n) α m) {t : Trace σ α} (good : Good t.memory) :
    Leaves Good Bad (step A criteria origin it t) := by
  have image := ops.multiplyInto good (nextDirection it.carried (it.stats.iterations + 1))
    it.carried.image
  have outcome := iteration A criteria origin it t
  generalize step A criteria origin it t = out at outcome
  cases outcome with
  | orthogonal vanished => exact good
  | failed product first => rwa [first] at image
  | blocked product first length => rwa [first] at image
  | halved product first length converged => rwa [first] at image
  | @failedHalfway v u u' e product first length unconverged second =>
      rw [first] at image
      have image' := ops.multiply (t := u) image (halfResidual it.carried v)
      rwa [second] at image'
  | @spent v w u u' product first length unconverged second vanished =>
      rw [first] at image
      have image' := ops.multiply (t := u) image (halfResidual it.carried v)
      rwa [second] at image'
  | @stabilized v w u u' product first length unconverged second square =>
      rw [first] at image
      have image' := ops.multiply (t := u) image (halfResidual it.carried v)
      rwa [second] at image'

theorem BiconjugateGradient.solve_leaves (ops : A.LeavesAt n Good Bad)
    (guess : A.LeavesAt m Good Bad) (criteria : Criteria α) (b : Vector α n) (x : Vector α m)
    {memory : σ} (good : Good memory) : (solve A criteria b x memory).Leaves Good Bad :=
  Method.solve_leaves guess (fun origin it _ => step_leaves ops criteria origin it) criteria b x
    good

namespace MinimalResidual

variable {A : Action σ (Failure ε) α n} {Bad : Failure ε → σ → Prop} {restart : Nat}

theorem step_leaves (ops : A.LeavesAt n Good Bad) (guess : A.LeavesAt m Good Bad)
    (full : ¬Storage.HasRoom (restart + 1) Storage.vectorBytes →
      ∀ memory, Good memory → Bad (.fault .capacityOverflow) memory)
    (criteria : Criteria α) (b : Vector α n) (origin : α) (it : Iterate (Carried α n) α m)
    {t : Trace σ α} (good : Good t.memory) :
    Leaves Good Bad (step A criteria restart b origin it t) := by
  have image := ops.multiply good it.carried.basisVector
  have outcome := iteration A criteria restart b origin it t
  generalize step A criteria restart b origin it t = out at outcome
  cases outcome with
  | noRoom full' => exact full full' t.memory good
  | failed room failed => rwa [failed] at image
  | grown room applied more => rwa [applied] at image
  | @unfinished w u u' e room applied closed res =>
      rw [applied] at image
      let g := it.carried.cycle.grow it.carried.basisVector w
      have last := guess.residual
        (t := u.note (it.carried.iterations + 1) g.cycle.problem.residual) image b
        (g.cycle.improve it.solution)
      rwa [res] at last
  | @finished w r u u' room applied closed res =>
      rw [applied] at image
      let g := it.carried.cycle.grow it.carried.basisVector w
      have last := guess.residual
        (t := u.note (it.carried.iterations + 1) g.cycle.problem.residual) image b
        (g.cycle.improve it.solution)
      rwa [res] at last

theorem solve_leaves (ops : A.LeavesAt n Good Bad) (guess : A.LeavesAt m Good Bad)
    (full : ¬Storage.HasRoom (restart + 1) Storage.vectorBytes →
      ∀ memory, Good memory → Bad (.fault .capacityOverflow) memory)
    (criteria : Criteria α) (b : Vector α n) (x : Vector α m) {memory : σ} (good : Good memory) :
    (solve A criteria restart b x memory).Leaves Good Bad :=
  Method.solve_leaves guess (fun origin it _ => step_leaves ops guess full criteria b origin it)
    criteria b x good

end MinimalResidual

/-! ## Properties of failures -/

theorem ConjugateGradient.solve_failsOnly (ops : A.FailsOnly P) {criteria : Criteria α}
    {b x : Vector α n} {memory : σ} {e : ε}
    (failed : (solve A criteria b x memory).result = .error e) : P e :=
  (solve_leaves ops.leaves ops.leaves criteria b x trivial).2 e failed

theorem BiconjugateGradient.solve_failsOnly (ops : A.FailsOnly P) {criteria : Criteria α}
    {b x : Vector α n} {memory : σ} {e : ε}
    (failed : (solve A criteria b x memory).result = .error e) : P e :=
  (solve_leaves ops.leaves ops.leaves criteria b x trivial).2 e failed

theorem MinimalResidual.solve_failsOnly {P : Failure ε → Prop} {A : Action σ (Failure ε) α n}
    (ops : A.FailsOnly P) (room : P (.fault .capacityOverflow)) {criteria : Criteria α}
    {restart : Nat} {b x : Vector α n} {memory : σ} {e : Failure ε}
    (failed : (solve A criteria restart b x memory).result = .error e) : P e :=
  (solve_leaves ops.leaves ops.leaves (fun _ _ _ => room) criteria b x trivial).2 e failed

end MatrixFree.Krylov
