import MatrixFree.Krylov.BiconjugateGradient
import MatrixFree.Krylov.ConjugateGradient
import MatrixFree.Krylov.MinimalResidual

/-!
# What one iteration can do

For each method an inductive family lists the ways in which an iteration can end: the
applications it made, the tests it passed, and what it answered.  A proof about a method
goes through these cases and does not open the iteration itself.  The cases exclude each
other, so that a case which applies is what the iteration does (`Iteration.step_eq`).

* `ConjugateGradient.Iteration`, with `ConjugateGradient.iteration`.
* `BiconjugateGradient.Iteration`, with `BiconjugateGradient.iteration`.
* `MinimalResidual.Iteration`, with `MinimalResidual.iteration`.
-/

namespace MatrixFree.Krylov

variable {σ ε α : Type} [Scalar α] {m n : Nat}

/-! ## Conjugate gradients -/

namespace ConjugateGradient

/-- The outcomes of an iteration at `it`. -/
inductive Iteration (A : Action σ ε α n) (criteria : Criteria α) (origin : α)
    (it : Iterate (Carried α n) α m) (t : Trace σ α) :
    Except ε (Iterate (Carried α n) α m) × Trace σ α → Prop where
  | failed {e : ε} {u : Trace σ α} (image : t.multiply A it.carried.direction = (.error e, u)) :
      Iteration A criteria origin it t (.error e, u)
  | stopped {ap : Vector α n} {u : Trace σ α} {reason : Reason}
      (image : t.multiply A it.carried.direction = (.ok ap, u))
      (curvature : curvatureVerdict (Flat.dot it.carried.direction ap) = some reason) :
      Iteration A criteria origin it t (.ok { it with stats := it.stats.stopped reason }, u)
  | moved {ap : Vector α n} {u : Trace σ α}
      (image : t.multiply A it.carried.direction = (.ok ap, u))
      (curvature : curvatureVerdict (Flat.dot it.carried.direction ap) = none) :
      Iteration A criteria origin it t
        (let next := move criteria origin it ap (Flat.dot it.carried.direction ap)
         (.ok next, u.note next.stats.iterations next.stats.residual))

theorem iteration (A : Action σ ε α n) (criteria : Criteria α) (origin : α)
    (it : Iterate (Carried α n) α m) (t : Trace σ α) :
    Iteration A criteria origin it t (step A criteria origin it t) := by
  unfold step
  split
  · next e u image => exact .failed image
  · next ap u image =>
      dsimp only
      split
      · next reason curvature => exact .stopped image curvature
      · next curvature => exact .moved image curvature

theorem Iteration.step_eq {A : Action σ ε α n} {criteria : Criteria α} {origin : α}
    {it : Iterate (Carried α n) α m} {t : Trace σ α}
    {out : Except ε (Iterate (Carried α n) α m) × Trace σ α}
    (h : Iteration A criteria origin it t out) : step A criteria origin it t = out := by
  unfold step
  cases h with
  | failed image => simp only [image]
  | stopped image curvature => simp only [image, curvature]
  | moved image curvature => simp only [image, curvature]

/-- The verdicts of an iteration that cannot take its step. -/
theorem curvatureVerdict_mem {pap : α} {reason : Reason}
    (h : curvatureVerdict pap = some reason) :
    reason ∈ [.breakdown, .indefinite, .notFinite] := by
  unfold curvatureVerdict at h
  split at h
  · cases h
    decide
  · split at h
    · cases h
      split <;> decide
    · cases h

end ConjugateGradient

/-! ## Stabilized biconjugate gradients -/

namespace BiconjugateGradient

/-- The inner product of residual and shadow residual. -/
def shadowProduct (c : Carried α n) : α := Flat.dot c.shadow c.res

/-- The search direction of iteration `i`. -/
def nextDirection (c : Carried α n) (i : Nat) : Vector α n :=
  Flat.addMul c.res (share c (shadowProduct c) i) (Flat.subMul c.direction c.omega c.image)

/-- The step length along a direction with image `v`. -/
def stepLength (c : Carried α n) (v : Vector α n) : α := shadowProduct c / Flat.dot c.shadow v

/-- The residual after the first half of an iteration. -/
def halfResidual (c : Carried α n) (v : Vector α n) : Vector α n :=
  Flat.subMul c.res (stepLength c v) v

/-- What is carried through the second half of iteration `i`. -/
def halfway (c : Carried α n) (v : Vector α n) (i : Nat) : Carried α n :=
  { c with
    direction := nextDirection c i, image := v, rho := shadowProduct c, alpha := stepLength c v }

/-- The step length along `v` cannot be computed. -/
def blocks (c : Carried α n) (v : Vector α n) : Bool :=
  vanishes (Flat.dot c.shadow v) || !Scalar.isFinite (Flat.dot c.shadow v)

/-- The iterate of a run that breaks down. -/
def broken (it : Iterate (Carried α n) α m) : Iterate (Carried α n) α m :=
  { it with stats := it.stats.stopped .shadowBreakdown }

/-- The outcomes of an iteration at `it`. -/
inductive Iteration (A : Action σ ε α n) (criteria : Criteria α) (origin : α)
    (it : Iterate (Carried α n) α m) (t : Trace σ α) :
    Except ε (Iterate (Carried α n) α m) × Trace σ α → Prop where
  | orthogonal (vanished : vanishes (shadowProduct it.carried) = true) :
      Iteration A criteria origin it t (.ok (broken it), t)
  | failed {e : ε} {u : Trace σ α} (product : vanishes (shadowProduct it.carried) = false)
      (first : t.multiplyInto A (nextDirection it.carried (it.stats.iterations + 1))
        it.carried.image = (.error e, u)) :
      Iteration A criteria origin it t (.error e, u)
  | blocked {v : Vector α n} {u : Trace σ α}
      (product : vanishes (shadowProduct it.carried) = false)
      (first : t.multiplyInto A (nextDirection it.carried (it.stats.iterations + 1))
        it.carried.image = (.ok v, u))
      (length : blocks it.carried v = true) :
      Iteration A criteria origin it t (.ok (broken it), u)
  | halved {v : Vector α n} {u : Trace σ α}
      (product : vanishes (shadowProduct it.carried) = false)
      (first : t.multiplyInto A (nextDirection it.carried (it.stats.iterations + 1))
        it.carried.image = (.ok v, u))
      (length : blocks it.carried v = false)
      (converged : (criteria.stats (Flat.norm (halfResidual it.carried v)) origin
        (it.stats.iterations + 1)).converged = true) :
      Iteration A criteria origin it t
        (let i := it.stats.iterations + 1
         let half := criteria.stats (Flat.norm (halfResidual it.carried v)) origin i
         (.ok ⟨Flat.correct it.solution (stepLength it.carried v) (nextDirection it.carried i),
            half, halfway it.carried v i⟩, u.note i half.residual))
  | failedHalfway {v : Vector α n} {u u' : Trace σ α} {e : ε}
      (product : vanishes (shadowProduct it.carried) = false)
      (first : t.multiplyInto A (nextDirection it.carried (it.stats.iterations + 1))
        it.carried.image = (.ok v, u))
      (length : blocks it.carried v = false)
      (unconverged : (criteria.stats (Flat.norm (halfResidual it.carried v)) origin
        (it.stats.iterations + 1)).converged = false)
      (second : u.multiply A (halfResidual it.carried v) = (.error e, u')) :
      Iteration A criteria origin it t (.error e, u')
  | spent {v w : Vector α n} {u u' : Trace σ α}
      (product : vanishes (shadowProduct it.carried) = false)
      (first : t.multiplyInto A (nextDirection it.carried (it.stats.iterations + 1))
        it.carried.image = (.ok v, u))
      (length : blocks it.carried v = false)
      (unconverged : (criteria.stats (Flat.norm (halfResidual it.carried v)) origin
        (it.stats.iterations + 1)).converged = false)
      (second : u.multiply A (halfResidual it.carried v) = (.ok w, u'))
      (vanished : vanishes (Flat.dot w w) = true) :
      Iteration A criteria origin it t (.ok (broken it), u')
  | stabilized {v w : Vector α n} {u u' : Trace σ α}
      (product : vanishes (shadowProduct it.carried) = false)
      (first : t.multiplyInto A (nextDirection it.carried (it.stats.iterations + 1))
        it.carried.image = (.ok v, u))
      (length : blocks it.carried v = false)
      (unconverged : (criteria.stats (Flat.norm (halfResidual it.carried v)) origin
        (it.stats.iterations + 1)).converged = false)
      (second : u.multiply A (halfResidual it.carried v) = (.ok w, u'))
      (square : vanishes (Flat.dot w w) = false) :
      Iteration A criteria origin it t
        (let i := it.stats.iterations + 1
         let next := stabilize criteria origin it.solution (halfway it.carried v i)
           (halfResidual it.carried v) w (Flat.dot w w) i
         (.ok next, u'.note i next.stats.residual))

theorem iteration (A : Action σ ε α n) (criteria : Criteria α) (origin : α)
    (it : Iterate (Carried α n) α m) (t : Trace σ α) :
    Iteration A criteria origin it t (step A criteria origin it t) := by
  unfold step
  dsimp only
  split
  · next vanished => exact .orthogonal vanished
  · next product =>
      have product := eq_false_of_ne_true product
      split
      · next e u first => exact .failed product first
      · next v u first =>
          split
          · next length => exact .blocked product first length
          · next length =>
              have length := eq_false_of_ne_true length
              split
              · next converged => exact .halved product first length converged
              · next half =>
                  have half := eq_false_of_ne_true half
                  split
                  · next e u' second => exact .failedHalfway product first length half second
                  · next w u' second =>
                      split
                      · next vanished => exact .spent product first length half second vanished
                      · next square =>
                          have square := eq_false_of_ne_true square
                          exact .stabilized product first length half second square

/-- The iteration, in the words of its outcomes. -/
theorem step_eq (A : Action σ ε α n) (criteria : Criteria α) (origin : α)
    (it : Iterate (Carried α n) α m) (t : Trace σ α) :
    step A criteria origin it t =
      let i := it.stats.iterations + 1
      if vanishes (shadowProduct it.carried) then (.ok (broken it), t)
      else match t.multiplyInto A (nextDirection it.carried i) it.carried.image with
        | (.error e, u) => (.error e, u)
        | (.ok v, u) =>
          let s := halfResidual it.carried v
          let half := criteria.stats (Flat.norm s) origin i
          if blocks it.carried v then (.ok (broken it), u)
          else if half.converged then
            (.ok ⟨Flat.correct it.solution (stepLength it.carried v) (nextDirection it.carried i),
              half, halfway it.carried v i⟩, u.note i half.residual)
          else match u.multiply A s with
            | (.error e, u) => (.error e, u)
            | (.ok w, u) =>
              if vanishes (Flat.dot w w) then (.ok (broken it), u)
              else
                let next := stabilize criteria origin it.solution (halfway it.carried v i) s w
                  (Flat.dot w w) i
                (.ok next, u.note i next.stats.residual) := rfl

theorem Iteration.step_eq {A : Action σ ε α n} {criteria : Criteria α} {origin : α}
    {it : Iterate (Carried α n) α m} {t : Trace σ α}
    {out : Except ε (Iterate (Carried α n) α m) × Trace σ α}
    (h : Iteration A criteria origin it t out) : step A criteria origin it t = out := by
  rw [BiconjugateGradient.step_eq]
  cases h with
  | orthogonal vanished => simp [vanished]
  | failed product first => simp [product, first]
  | blocked product first length => simp [product, first, length]
  | halved product first length converged => simp [product, first, length, converged]
  | failedHalfway product first length unconverged second =>
      simp [product, first, length, unconverged, second]
  | spent product first length unconverged second vanished =>
      simp [product, first, length, unconverged, second, vanished]
  | stabilized product first length unconverged second square =>
      simp [product, first, length, unconverged, second, square]

end BiconjugateGradient

/-! ## Restarted minimal residuals -/

namespace MinimalResidual

/-- The basis vector that an iteration adds. -/
def Carried.basisVector (c : Carried α n) : Vector α n := Flat.divBy c.cycle.next c.cycle.scale

/-- The cycle ends after iteration `i`. -/
def closes (criteria : Criteria α) (restart : Nat) (origin : α) (g : Grown α n) (i : Nat) : Bool :=
  g.exhausted || criteria.check g.cycle.problem.residual origin i ≠ .iterating
    || restart ≤ g.cycle.basis.length

/-- A cycle that goes on has an estimate without a verdict. -/
theorem check_of_not_closes {criteria : Criteria α} {restart : Nat} {origin : α} {g : Grown α n}
    {i : Nat} (h : closes criteria restart origin g i = false) :
    criteria.check g.cycle.problem.residual origin i = .iterating := by
  unfold closes at h
  simp only [Bool.or_eq_false_iff, decide_eq_false_iff_not, Decidable.not_not] at h
  exact h.1.2

/-- A cycle that goes on has a space that still grows. -/
theorem growing_of_not_closes {criteria : Criteria α} {restart : Nat} {origin : α} {g : Grown α n}
    {i : Nat} (h : closes criteria restart origin g i = false) : g.exhausted = false := by
  unfold closes at h
  simp only [Bool.or_eq_false_iff] at h
  exact h.1.1

/-- A cycle that goes on has room for another basis vector. -/
theorem length_lt_of_not_closes {criteria : Criteria α} {restart : Nat} {origin : α}
    {g : Grown α n} {i : Nat} (h : closes criteria restart origin g i = false) :
    g.cycle.basis.length < restart := by
  unfold closes at h
  simp only [Bool.or_eq_false_iff, decide_eq_false_iff_not, Nat.not_le] at h
  exact h.2

theorem Cycle.length_basis_grow (c : Cycle α n) (v w : Vector α n) :
    (c.grow v w).cycle.basis.length = c.basis.length + 1 := List.length_append

/-- The record at the end of a cycle whose improved iterate has residual norm `beta`. -/
def closingStats (criteria : Criteria α) (origin : α) (g : Grown α n) (beta : α) (i : Nat) :
    Stats α :=
  let stats := criteria.stats beta origin i
  if stats.reason = .iterating && g.exhausted then stats.stopped .breakdown else stats

@[simp] theorem closingStats_iterations (criteria : Criteria α) (origin : α) (g : Grown α n)
    (beta : α) (i : Nat) : (closingStats criteria origin g beta i).iterations = i := by
  unfold closingStats
  dsimp only
  split <;> rfl

@[simp] theorem closingStats_residual (criteria : Criteria α) (origin : α) (g : Grown α n)
    (beta : α) (i : Nat) : (closingStats criteria origin g beta i).residual = beta := by
  unfold closingStats
  dsimp only
  split <;> rfl

/-- A breakdown needs a space that stopped growing under a residual that meets no test. -/
theorem closingStats_reason (criteria : Criteria α) (origin : α) (g : Grown α n) (beta : α)
    (i : Nat) : (closingStats criteria origin g beta i).reason =
      if criteria.check beta origin i = .iterating ∧ g.exhausted = true then .breakdown
      else criteria.check beta origin i := by
  unfold closingStats
  dsimp only
  split
  · next broken =>
      obtain ⟨undecided, exhausted⟩ := (Bool.and_eq_true _ _).mp broken
      exact (if_pos ⟨of_decide_eq_true undecided, exhausted⟩).symm
  · next whole =>
      refine (if_neg fun broken => whole ?_).symm
      exact (Bool.and_eq_true _ _).mpr ⟨decide_eq_true broken.1, broken.2⟩

/-- A run goes on from a residual that meets no test. -/
theorem check_of_closingStats {criteria : Criteria α} {origin : α} {g : Grown α n} {beta : α}
    {i : Nat} (live : (closingStats criteria origin g beta i).reason = .iterating) :
    criteria.check beta origin i = .iterating := by
  rw [closingStats_reason] at live
  split at live
  · cases live
  · exact live

/-- The outcomes of an iteration at `it`. -/
inductive Iteration (A : Action σ (Failure ε) α n) (criteria : Criteria α) (restart : Nat)
    (b : Vector α n) (origin : α) (it : Iterate (Carried α n) α m) (t : Trace σ α) :
    Except (Failure ε) (Iterate (Carried α n) α m) × Trace σ α → Prop where
  | noRoom (full : ¬Storage.HasRoom (restart + 1) Storage.vectorBytes) :
      Iteration A criteria restart b origin it t (.error (.fault .capacityOverflow), t)
  | failed {e : Failure ε} {u : Trace σ α}
      (room : Storage.HasRoom (restart + 1) Storage.vectorBytes)
      (image : t.multiply A it.carried.basisVector = (.error e, u)) :
      Iteration A criteria restart b origin it t (.error e, u)
  | grown {w : Vector α n} {u : Trace σ α}
      (room : Storage.HasRoom (restart + 1) Storage.vectorBytes)
      (image : t.multiply A it.carried.basisVector = (.ok w, u))
      (more : closes criteria restart origin (it.carried.cycle.grow it.carried.basisVector w)
        (it.carried.iterations + 1) = false) :
      Iteration A criteria restart b origin it t
        (let i := it.carried.iterations + 1
         let g := it.carried.cycle.grow it.carried.basisVector w
         (.ok { it with carried := ⟨g.cycle, i⟩ }, u.note i g.cycle.problem.residual))
  | unfinished {w : Vector α n} {u u' : Trace σ α} {e : Failure ε}
      (room : Storage.HasRoom (restart + 1) Storage.vectorBytes)
      (image : t.multiply A it.carried.basisVector = (.ok w, u))
      (closed : closes criteria restart origin (it.carried.cycle.grow it.carried.basisVector w)
        (it.carried.iterations + 1) = true)
      (res : let g := it.carried.cycle.grow it.carried.basisVector w
        residual A b (g.cycle.improve it.solution)
          (u.note (it.carried.iterations + 1) g.cycle.problem.residual) = (.error e, u')) :
      Iteration A criteria restart b origin it t (.error e, u')
  | finished {w r : Vector α n} {u u' : Trace σ α}
      (room : Storage.HasRoom (restart + 1) Storage.vectorBytes)
      (image : t.multiply A it.carried.basisVector = (.ok w, u))
      (closed : closes criteria restart origin (it.carried.cycle.grow it.carried.basisVector w)
        (it.carried.iterations + 1) = true)
      (res : let g := it.carried.cycle.grow it.carried.basisVector w
        residual A b (g.cycle.improve it.solution)
          (u.note (it.carried.iterations + 1) g.cycle.problem.residual) = (.ok r, u')) :
      Iteration A criteria restart b origin it t
        (let i := it.carried.iterations + 1
         let g := it.carried.cycle.grow it.carried.basisVector w
         let beta := Flat.norm r
         (.ok ⟨g.cycle.improve it.solution, closingStats criteria origin g beta i,
            ⟨.start r beta, i⟩⟩, u'))

theorem iteration (A : Action σ (Failure ε) α n) (criteria : Criteria α) (restart : Nat)
    (b : Vector α n) (origin : α) (it : Iterate (Carried α n) α m) (t : Trace σ α) :
    Iteration A criteria restart b origin it t (step A criteria restart b origin it t) := by
  unfold step
  by_cases room : Storage.HasRoom (restart + 1) Storage.vectorBytes
  · rw [Storage.reserve_of_hasRoom room]
    dsimp only
    unfold extend
    dsimp only
    split
    · next e u image => exact .failed room image
    · next w u image =>
        split
        · next closed =>
            unfold finish
            dsimp only
            split
            · next e u' res => exact .unfinished room image closed res
            · next r u' res => exact .finished room image closed res
        · next more =>
            have more := eq_false_of_ne_true more
            exact .grown room image more
  · rw [Storage.reserve_of_not_hasRoom room]
    exact .noRoom room

/-- The iteration, in the words of its outcomes. -/
theorem step_eq (A : Action σ (Failure ε) α n) (criteria : Criteria α) (restart : Nat)
    (b : Vector α n) (origin : α) (it : Iterate (Carried α n) α m) (t : Trace σ α) :
    step A criteria restart b origin it t =
      match Storage.reserve (restart + 1) Storage.vectorBytes with
      | .error fault => (.error (.fault fault), t)
      | .ok () =>
        let i := it.carried.iterations + 1
        match t.multiply A it.carried.basisVector with
        | (.error e, u) => (.error e, u)
        | (.ok w, u) =>
          let g := it.carried.cycle.grow it.carried.basisVector w
          let u := u.note i g.cycle.problem.residual
          if closes criteria restart origin g i then
            match residual A b (g.cycle.improve it.solution) u with
            | (.error e, u) => (.error e, u)
            | (.ok r, u) =>
              let beta := Flat.norm r
              (.ok ⟨g.cycle.improve it.solution, closingStats criteria origin g beta i,
                ⟨.start r beta, i⟩⟩, u)
          else (.ok { it with carried := ⟨g.cycle, i⟩ }, u) := rfl

theorem Iteration.step_eq {A : Action σ (Failure ε) α n} {criteria : Criteria α} {restart : Nat}
    {b : Vector α n} {origin : α} {it : Iterate (Carried α n) α m} {t : Trace σ α}
    {out : Except (Failure ε) (Iterate (Carried α n) α m) × Trace σ α}
    (h : Iteration A criteria restart b origin it t out) :
    step A criteria restart b origin it t = out := by
  rw [MinimalResidual.step_eq]
  cases h with
  | noRoom full => simp [Storage.reserve_of_not_hasRoom full]
  | failed room image => simp [Storage.reserve_of_hasRoom room, image]
  | grown room image more => simp [Storage.reserve_of_hasRoom room, image, more]
  | unfinished room image closed res => simp [Storage.reserve_of_hasRoom room, image, closed, res]
  | finished room image closed res => simp [Storage.reserve_of_hasRoom room, image, closed, res]

end MinimalResidual

end MatrixFree.Krylov
