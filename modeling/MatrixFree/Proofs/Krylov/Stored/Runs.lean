import MatrixFree.Proofs.Krylov.Stored.Kernels
import MatrixFree.Proofs.Krylov.Verdict

/-!
# Runs on storage are runs

A step on storage matches a step of the method: it fails where the method fails and as it does, and
otherwise the storage that it leaves holds what the method carries (`Matches`).  The loop and the
whole solve inherit this from the step, so that a solve on storage leaves what the solve leaves, to
the last entry of the history.  In particular it commits no fault of its own.

For each method the relation between storage and iterate says in addition by which numbers the next
iteration may divide.  That is a matter of the tests that the iterate has passed.
-/

namespace MatrixFree.Krylov.Stored

variable {σ ε α X Y S T : Type} {m n : Nat}

/-! ## Computations -/

section Run

theorem bind_apply (m : Run σ ε α X) (f : X → Run σ ε α Y) (t : Trace σ α) :
    (m >>= f) t =
      match m t with
      | (.error e, t) => (.error e, t)
      | (.ok x, t) => f x t := rfl

theorem bind_of_ok {m : Run σ ε α X} {f : X → Run σ ε α Y} {x : X} {t u : Trace σ α}
    (h : m t = (.ok x, u)) : (m >>= f) t = f x u := by
  rw [bind_apply, h]

theorem bind_of_error {m : Run σ ε α X} {f : X → Run σ ε α Y} {e : Failure ε} {t u : Trace σ α}
    (h : m t = (.error e, u)) : (m >>= f) t = (.error e, u) := by
  rw [bind_apply, h]

@[simp] theorem checked_ok_bind (x : X) (f : X → Run σ ε α Y) : (checked (.ok x) >>= f) = f x := rfl

@[simp] theorem note_bind (i : Nat) (res : α) (f : Unit → Run σ ε α Y) (t : Trace σ α) :
    (note i res >>= f) t = f () (t.note i res) := rfl

/-- Two computations fail alike, or both answer, with related answers.  They leave the same
trace. -/
inductive Matches (R : X → Y → Prop) :
    Except (Failure ε) X × Trace σ α → Except (Failure ε) Y × Trace σ α → Prop where
  | error (e : Failure ε) (t : Trace σ α) : Matches R (.error e, t) (.error e, t)
  | ok {x : X} {y : Y} (related : R x y) (t : Trace σ α) : Matches R (.ok x, t) (.ok y, t)

namespace Matches

variable {Z : Type} {R : Y → Z → Prop} {out : Except (Failure ε) Z × Trace σ α} {m : Run σ ε α X}
  {f : X → Run σ ε α Y} {t u : Trace σ α} {x : X}

/-! The next operation of a computation. -/

theorem bind_ok (h : m t = (.ok x, u)) (rest : Matches R (f x u) out) :
    Matches R ((m >>= f) t) out := by
  rwa [bind_of_ok h]

theorem bind_error {e : Failure ε} (h : m t = (.error e, u)) :
    Matches R ((m >>= f) t) (.error e, u) := by
  rw [bind_of_error h]
  exact .error e u

theorem access {answer : Except Fault X} (h : answer = .ok x) (rest : Matches R (f x t) out) :
    Matches R ((checked answer >>= f) t) out := by
  rwa [h]

theorem noted {f : Unit → Run σ ε α Y} {i : Nat} {res : α}
    (rest : Matches R (f () (t.note i res)) out) :
    Matches R ((note i res >>= f) t) out := rest

/-- Both make the same choice. -/
theorem ite {p : Prop} [Decidable p] {a b : Run σ ε α Y}
    {out out' : Except (Failure ε) Z × Trace σ α} (pos : p → Matches R (a t) out)
    (neg : ¬p → Matches R (b t) out') :
    Matches R ((if p then a else b) t) (if p then out else out') := by
  by_cases h : p
  · rw [if_pos h, if_pos h]
    exact pos h
  · rw [if_neg h, if_neg h]
    exact neg h

end Matches

end Run

/-! ## Applications -/

section Apply

/-- The operator on buffers that does what an operator does with vectors. -/
def Implements (mul : Multiply σ ε α) (A : Action σ (Failure ε) α n) : Prop :=
  ∀ x (y : Vector α n) memory,
    mul x y.toArray memory = ((A x y memory).1.map Vector.toArray, (A x y memory).2)

/-- An operator on buffers of the length of its vectors. -/
def onArrays (A : Action σ (Failure ε) α n) : Multiply σ ε α := fun x y memory =>
  if h : y.size = n then ((A x ⟨y, h⟩ memory).1.map Vector.toArray, (A x ⟨y, h⟩ memory).2)
  else (.error (.fault (.lengthMismatch n y.size)), memory)

theorem implements_onArrays (A : Action σ (Failure ε) α n) : Implements (onArrays A) A :=
  fun _ y _ => dif_pos y.size_toArray

variable {mul : Multiply σ ε α} {A : Action σ (Failure ε) α n} (implements : Implements mul A)
  {x : Vector α m} {y : Vector α n} {t u : Trace σ α}

include implements

theorem multiply_ok {v : Vector α n} (h : t.multiplyInto A x y = (.ok v, u)) :
    multiply mul x.toArray y.toArray t = (.ok v.toArray, u) := by
  unfold multiply Trace.apply
  unfold Trace.multiplyInto Trace.apply at h
  rw [implements x.toArray y t.memory]
  obtain ⟨answer, trace⟩ := Prod.mk.inj h
  rw [← trace, answer]
  rfl

theorem multiply_error {e : Failure ε} (h : t.multiplyInto A x y = (.error e, u)) :
    multiply mul x.toArray y.toArray t = (.error e, u) := by
  unfold multiply Trace.apply
  unfold Trace.multiplyInto Trace.apply at h
  rw [implements x.toArray y t.memory]
  obtain ⟨answer, trace⟩ := Prod.mk.inj h
  rw [← trace, answer]
  rfl

variable [Scalar α] {b : Vector α n}

theorem residual_ok {r : Vector α n} (h : Krylov.residual A b x t = (.ok r, u)) :
    residual mul b.toArray x.toArray t = (.ok r.toArray, u) := by
  unfold Krylov.residual at h
  split at h
  · cases h
  · next y u image =>
      cases h
      unfold residual
      rw [Vector.size_toArray, zeros_toArray, bind_of_ok (multiply_ok implements image),
        zipWith_sub]
      rfl

theorem residual_error {e : Failure ε} (h : Krylov.residual A b x t = (.error e, u)) :
    residual mul b.toArray x.toArray t = (.error e, u) := by
  unfold Krylov.residual at h
  split at h
  · next e u image =>
      cases h
      unfold residual
      rw [Vector.size_toArray, zeros_toArray, bind_of_error (multiply_error implements image)]
  · cases h

end Apply

/-! ## From a step to a solve -/

section Solve

/-- What a solve leaves, with its solution as an array. -/
def ofReport (report : Krylov.Report σ (Failure ε) α m) : Report σ ε α :=
  ⟨report.result, report.solution.toArray, report.history, report.memory⟩

variable {R : Iterate S α → Krylov.Iterate T α m → Prop}
  (stats : ∀ {s it}, R s it → s.stats = it.stats)

include stats

theorem advance_matches {step : Step S σ ε α} {step' : Krylov.Step T σ (Failure ε) α m}
    (keep : ∀ {s it} t, R s it → it.stats.reason = .iterating → Matches R (step s t) (step' it t))
    (fuel : Nat) {s : Iterate S α} {it : Krylov.Iterate T α m} (related : R s it) (t : Trace σ α) :
    Matches R (advance step fuel s t) (Krylov.advance step' fuel it t) := by
  induction fuel generalizing s it t with
  | zero => exact .ok related t
  | succ fuel ih =>
      unfold advance Krylov.advance
      rw [stats related]
      by_cases live : it.stats.reason = .iterating
      · rw [if_pos live, if_pos live]
        have matched := keep t related live
        generalize moved : step s t = answer at matched
        generalize moved' : step' it t = answer' at matched
        cases matched with
        | error e u =>
            rw [bind_of_error moved]
            exact .error e u
        | ok related u =>
            rw [bind_of_ok moved]
            exact ih related u
      · rw [if_neg live, if_neg live]
        exact .ok related t

variable [Scalar α]

/-- Where each step matches, a solve on storage leaves what the solve leaves. -/
theorem solve_eq {M : Method S σ ε α} {M' : Krylov.Method T σ (Failure ε) α n m}
    {mul : Multiply σ ε α} {A : Action σ (Failure ε) α n} (implements : Implements mul A)
    {criteria : Criteria α} (solution : ∀ {s it}, R s it → s.solution = it.solution.toArray)
    {x : Vector α m} (first : ∀ r : Vector α n, ∃ carried,
      M.begin r.toArray = .ok (carried, Flat.norm r) ∧
      R ⟨x.toArray, criteria.stats (Flat.norm r) (Flat.norm r) 0, carried⟩ (M'.first criteria x r))
    (keep : ∀ origin {s it} t, R s it → it.stats.reason = .iterating →
      Matches R (M.step origin s t) (M'.step origin it t)) (b : Vector α n) (memory : σ) :
    M.solve mul criteria b.toArray x.toArray memory =
      ofReport (M'.solve A criteria b x memory) := by
  unfold Method.solve Krylov.Method.solve Method.run
  cases res : Krylov.residual A b x ⟨memory, #[]⟩ with
  | mk answer t =>
      cases answer with
      | error e =>
          rw [bind_of_error (residual_error implements res)]
          rfl
      | ok r =>
          obtain ⟨carried, begun, related⟩ := first r
          rw [bind_of_ok (residual_ok implements res), begun, checked_ok_bind]
          dsimp only
          rw [note_bind]
          have matched := advance_matches stats (keep (Flat.norm r)) criteria.limit related
            (t.note 0 (Flat.norm r))
          unfold Krylov.Method.first at matched
          generalize advance _ _ _ _ = answer at matched ⊢
          generalize Krylov.advance _ _ _ _ = answer' at matched ⊢
          cases matched with
          | error e u => rfl
          | ok related u =>
              unfold ofReport
              dsimp only
              rw [stats related, solution related]

end Solve

/-! ## Conjugate gradients -/

section Methods

variable [Scalar α] {divide : α → α → Except Fault α} {criteria : Criteria α}
  {mul : Multiply σ ε α} {A : Action σ (Failure ε) α n}

namespace ConjugateGradient

/-- The storage of an iterate.  The square of its residual norm divides in the next iteration. -/
structure Stores (divide : α → α → Except Fault α) (s : Iterate (Carried α) α)
    (it : Krylov.Iterate (Krylov.ConjugateGradient.Carried α n) α m) : Prop where
  eq : s = ⟨it.solution.toArray, it.stats,
    ⟨it.carried.res.toArray, it.carried.direction.toArray, it.carried.square⟩⟩
  divisor : it.stats.reason = .iterating → Divisor divide it.carried.square

theorem step_matches (divides : Divides divide criteria) (implements : Implements mul A)
    (origin : α) {s : Iterate (Carried α) α}
    {it : Krylov.Iterate (Krylov.ConjugateGradient.Carried α n) α m}
    (t : Trace σ α) (stores : Stores divide s it) (live : it.stats.reason = .iterating) :
    Matches (Stores divide) (step divide mul criteria n origin s t)
      (Krylov.ConjugateGradient.step A criteria origin it t) := by
  obtain ⟨rfl, divisor⟩ := stores
  have outcome := Krylov.ConjugateGradient.iteration A criteria origin it t
  generalize Krylov.ConjugateGradient.step A criteria origin it t = out at outcome ⊢
  unfold step
  dsimp only
  cases outcome with
  | @failed e u image =>
      rw [zeros_toArray, bind_of_error (multiply_error implements image)]
      exact .error e u
  | @stopped ap u reason image curvature =>
      rw [zeros_toArray, bind_of_ok (multiply_ok implements image), dotOf_toArray, checked_ok_bind,
        curvature]
      have verdict : reason ≠ .iterating := by
        rintro rfl
        exact absurd (Krylov.ConjugateGradient.curvatureVerdict_mem curvature) (by decide)
      exact .ok ⟨rfl, fun going => absurd going verdict⟩ u
  | @moved ap u image curvature =>
      have along := divides.curvature _ curvature
      have across := divisor live
      rw [zeros_toArray, bind_of_ok (multiply_ok implements image), dotOf_toArray, checked_ok_bind,
        curvature]
      dsimp only
      rw [along, checked_ok_bind, merge_subMul, dotOf_toArray, checked_ok_bind, note_bind, across,
        checked_ok_bind, merge_addMul, merge_addMul_self]
      exact .ok ⟨rfl, divides.square _ _ _⟩ _

theorem solve_eq (divides : Divides divide criteria) (implements : Implements mul A)
    (b : Vector α n) (x : Vector α m) (memory : σ) :
    solve divide mul criteria b.toArray x.toArray memory =
      ofReport (Krylov.ConjugateGradient.solve A criteria b x memory) := by
  unfold solve
  rw [Vector.size_toArray]
  refine Stored.solve_eq (R := Stores divide) ?_ implements ?_ ?_ ?_ b memory
  · rintro s it ⟨rfl, -⟩
    rfl
  · rintro s it ⟨rfl, -⟩
    rfl
  · intro r
    refine ⟨⟨r.toArray, r.toArray, Flat.dot r r⟩, ?_, rfl, divides.square _ _ _⟩
    simp only [method, begin, dotOf_toArray, ok_bind]
    rfl
  · exact fun origin _ _ t => step_matches divides implements origin t

end ConjugateGradient

namespace BiconjugateGradient

open Krylov.BiconjugateGradient (vanishes shadowProduct nextDirection stepLength halfResidual
  halfway blocks broken stabilize)

/-- What the method carries, as arrays. -/
def ofCarried (c : Krylov.BiconjugateGradient.Carried α n) : Carried α :=
  ⟨c.shadow.toArray, c.res.toArray, c.direction.toArray, c.image.toArray, c.rho, c.alpha, c.omega⟩

/-- The storage of an iterate.  The last shadow product and the last length divide in the next
iteration, unless that is the first. -/
structure Stores (divide : α → α → Except Fault α) (s : Iterate (Carried α) α)
    (it : Krylov.Iterate (Krylov.BiconjugateGradient.Carried α n) α m) : Prop where
  eq : s = ⟨it.solution.toArray, it.stats, ofCarried it.carried⟩
  divisors : it.stats.reason = .iterating → it.stats.iterations ≠ 0 →
    Divisor divide it.carried.rho ∧ Divisor divide it.carried.omega

/-- The share of the old direction, from divisors that were tested an iteration ago. -/
theorem share_eq {c : Krylov.BiconjugateGradient.Carried α n} {i : Nat} (rho : α)
    (divisors : i ≠ 1 → Divisor divide c.rho ∧ Divisor divide c.omega) :
    share divide (ofCarried c) rho i = .ok (Krylov.BiconjugateGradient.share c rho i) := by
  unfold share Krylov.BiconjugateGradient.share ofCarried
  by_cases first : i = 1
  · rw [if_pos first, if_pos first]
    rfl
  · obtain ⟨byRho, byOmega⟩ := divisors first
    rw [if_neg first, if_neg first, byRho, byOmega]
    rfl

omit [Scalar α] in
theorem ne_iterating_of_converged {stats : Stats α} (converged : stats.converged = true) :
    stats.reason ≠ .iterating := by
  intro live
  rw [Stats.converged, live] at converged
  exact Bool.false_ne_true converged

/-- A run goes on after a length that divides. -/
theorem vanishes_of_live {origin ww : α} {x : Vector α m}
    {c : Krylov.BiconjugateGradient.Carried α n} {s w : Vector α n} {i : Nat}
    (live : (stabilize criteria origin x c s w ww i).stats.reason = .iterating) :
    vanishes (stabilize criteria origin x c s w ww i).carried.omega = false := by
  unfold stabilize at live ⊢
  dsimp only at live ⊢
  split at live
  · cases live
  · next stopped =>
      rw [Bool.and_eq_true, decide_eq_true_iff] at stopped
      exact eq_false_of_ne_true fun small => stopped ⟨live, small⟩

theorem secondHalf_matches (divides : Divides divide criteria) (implements : Implements mul A)
    (origin : α) (it : Krylov.Iterate (Krylov.BiconjugateGradient.Carried α n) α m)
    {c : Krylov.BiconjugateGradient.Carried α n} (byRho : Divisor divide c.rho) {s w : Vector α n}
    (i : Nat) {t u : Trace σ α} (image : t.multiply A s = (.ok w, u)) :
    Matches (Stores divide)
      (secondHalf divide mul criteria n origin (ofCarried c) s.toArray i
        ⟨it.solution.toArray, it.stats, ofCarried it.carried⟩ t)
      (if vanishes (Flat.dot w w) then (.ok (broken it), u)
        else
          let next := stabilize criteria origin it.solution c s w (Flat.dot w w) i
          (.ok next, u.note i next.stats.residual)) := by
  unfold secondHalf
  refine .bind_ok (multiply_ok implements image) (.access (dotOf_toArray _ _) ?_)
  refine .ite (fun _ => .ok ⟨rfl, nofun⟩ u) fun square => ?_
  refine .access (dotOf_toArray _ _) ?_
  refine .access (divides.product _ (eq_false_of_ne_true square) _) ?_
  dsimp only [ofCarried]
  rw [zipWith_subMul, merge_zip_correct, Krylov.BiconjugateGradient.stabilize_residual]
  refine .access (norm_toArray _) (.noted (.ok ?_ _))
  exact ⟨rfl, fun going _ => ⟨byRho, divides.product _ (vanishes_of_live going)⟩⟩

theorem step_matches (divides : Divides divide criteria) (implements : Implements mul A)
    (origin : α) {s : Iterate (Carried α) α}
    {it : Krylov.Iterate (Krylov.BiconjugateGradient.Carried α n) α m}
    (t : Trace σ α) (stores : Stores divide s it) (live : it.stats.reason = .iterating) :
    Matches (Stores divide) (step divide mul criteria n origin s t)
      (Krylov.BiconjugateGradient.step A criteria origin it t) := by
  obtain ⟨rfl, divisors⟩ := stores
  let i := it.stats.iterations + 1
  have later : i ≠ 1 → Divisor divide it.carried.rho ∧ Divisor divide it.carried.omega :=
    fun notFirst => divisors live fun zero => notFirst (congrArg Nat.succ zero)
  rw [Krylov.BiconjugateGradient.step_eq]
  unfold step
  refine .access (dotOf_toArray _ _) (.ite (fun _ => .ok ⟨rfl, nofun⟩ t) fun product => ?_)
  have byRho := divides.product _ (eq_false_of_ne_true product)
  refine .access (share_eq _ later) ?_
  dsimp only [ofCarried]
  rw [merge_zip_addMul]
  cases first : t.multiplyInto A (nextDirection it.carried i) it.carried.image with
  | mk answer u =>
      cases answer with
      | error e => exact .bind_error (multiply_error implements first)
      | ok v =>
          refine .bind_ok (multiply_ok implements first) ?_
          refine .access (dotOf_toArray _ _) (.ite (fun _ => .ok ⟨rfl, nofun⟩ u) fun length => ?_)
          have divisible := (Bool.or_eq_false_iff.mp (eq_false_of_ne_true length)).1
          refine .access (divides.product _ divisible _) ?_
          rw [zipWith_subMul]
          refine .access (norm_toArray _) (.ite (fun converged => .noted ?_) fun _ => ?_)
          · rw [merge_addMul]
            exact .ok ⟨rfl, fun going => absurd going (ne_iterating_of_converged converged)⟩ _
          cases second : u.multiply A (halfResidual it.carried v) with
          | mk answer u' =>
              cases answer with
              | error e => exact .bind_error (multiply_error implements second)
              | ok w =>
                  exact secondHalf_matches divides implements origin it
                    (c := halfway it.carried v i) byRho i second

theorem solve_eq (divides : Divides divide criteria) (implements : Implements mul A)
    (b : Vector α n) (x : Vector α m) (memory : σ) :
    solve divide mul criteria b.toArray x.toArray memory =
      ofReport (Krylov.BiconjugateGradient.solve A criteria b x memory) := by
  unfold solve
  rw [Vector.size_toArray]
  refine Stored.solve_eq (R := Stores divide) ?_ implements ?_ ?_ ?_ b memory
  · rintro s it ⟨rfl, -⟩
    rfl
  · rintro s it ⟨rfl, -⟩
    rfl
  · intro r
    refine ⟨⟨r.toArray, r.toArray, Array.replicate n 0, Array.replicate n 0, 1, 1, 1⟩, ?_, rfl, ?_⟩
    · simp only [method, begin, norm_toArray, ok_bind]
      rfl
    · exact fun _ first => absurd rfl first
  · exact fun origin _ _ t => step_matches divides implements origin t

end BiconjugateGradient

namespace MinimalResidual

open Krylov.MinimalResidual (closingStats check_of_closingStats growing_of_not_closes
  length_lt_of_not_closes)

variable {restart : Nat}

/-- What the storage that is carried says of a cycle.  A cycle has storage from its first iteration
on. -/
inductive Carries (divide : α → α → Except Fault α) (restart : Nat) :
    Carried α → Krylov.MinimalResidual.Cycle α n → Prop where
  | closed {r : Vector α n} {beta : α} {i : Nat} (divisor : Divisor divide beta) :
      Carries divide restart ⟨r.toArray, beta, none, i⟩ (.start r beta)
  | opened {res : Array α} {beta : α} {cycle : Cycle α} {i : Nat}
      {c : Krylov.MinimalResidual.Cycle α n}
      (room : Storage.HasRoom (restart + 1) Storage.vectorBytes) (stores : cycle.Stores restart c) :
      Carries divide restart ⟨res, beta, some cycle, i⟩ c

/-- The storage of an iterate. -/
structure Stores (divide : α → α → Except Fault α) (restart : Nat) (s : Iterate (Carried α) α)
    (it : Krylov.Iterate (Krylov.MinimalResidual.Carried α n) α m) : Prop where
  solution : s.solution = it.solution.toArray
  stats : s.stats = it.stats
  iterations : s.carried.iterations = it.carried.iterations
  cycle : it.stats.reason = .iterating → Carries divide restart s.carried it.carried.cycle

variable {c : Carried α} {cycle : Krylov.MinimalResidual.Cycle α n}

/-- With room, an iteration has storage to work in. -/
theorem Carries.storage (positive : 1 ≤ restart)
    (room : Storage.HasRoom (restart + 1) Storage.vectorBytes)
    (carries : Carries divide restart c cycle) :
    ∃ s, c.storage divide restart = .ok s ∧ s.Stores restart cycle := by
  cases carries with
  | closed divisor => exact Cycle.start_eq positive room divisor _
  | opened room stores => exact ⟨_, rfl, stores⟩

/-- Without room, a cycle cannot begin. -/
theorem Carries.storage_full (full : ¬Storage.HasRoom (restart + 1) Storage.vectorBytes)
    (carries : Carries divide restart c cycle) :
    c.storage divide restart = .error .capacityOverflow := by
  cases carries with
  | closed divisor =>
      unfold Carried.storage Cycle.start
      rw [Storage.reserve_of_not_hasRoom full]
      rfl
  | opened room stores => exact absurd room full

/-- The first and the last vector of the basis. -/
theorem Cycle.Stores.read_ends {s : Cycle α} (stores : s.Stores restart cycle) :
    (∃ first : Vector α n, read s.basis 0 = .ok first.toArray) ∧
      read s.basis s.columns = .ok (Flat.divBy cycle.next cycle.scale).toArray := by
  constructor
  · cases basis : cycle.basis with
    | nil => exact ⟨_, read_of_getElem? (stores.getElem?_basis (by rw [basis]; rfl))⟩
    | cons v vs => exact ⟨_, read_of_getElem? (stores.getElem?_basis (by rw [basis]; rfl))⟩
  · rw [stores.columns]
    exact read_of_getElem? (stores.getElem?_basis List.getElem?_concat_length)

/-- The entry of the right-hand side from which the estimate is taken. -/
theorem Cycle.Grows.read_rhs {s : Cycle α} {g : Krylov.MinimalResidual.Grown α n}
    (grows : s.Grows restart g) : read s.rhs s.columns = .ok g.cycle.problem.pending := by
  obtain ⟨f, rhs, cs, sn, lays, -, held⟩ := grows.problem
  have room := grows.room
  rw [lays.rhs, grows.columns, read_line _ (by omega), ← held]
  rfl

theorem finish_matches (divides : Divides divide criteria) (implements : Implements mul A)
    (b : Vector α n) (origin : α) {s : Iterate (Carried α) α}
    {it : Krylov.Iterate (Krylov.MinimalResidual.Carried α n) α m}
    (solution : s.solution = it.solution.toArray) {cycle : Cycle α}
    {g : Krylov.MinimalResidual.Grown α n} (grows : cycle.Grows restart g) (i : Nat)
    (t : Trace σ α) :
    Matches (Stores divide restart)
      (finish divide mul criteria origin b.toArray cycle g.exhausted i s t)
      (Krylov.MinimalResidual.finish A criteria b origin it g i t) := by
  have closing {beta : α}
      (going : (closingStats criteria origin g beta i).reason = .iterating) : Divisor divide beta :=
    divides.residual _ _ _ (check_of_closingStats going)
  unfold finish Krylov.MinimalResidual.finish
  rw [solution]
  refine .access (Cycle.improve_eq divides grows it.solution) ?_
  dsimp only
  cases res : Krylov.residual A b (g.cycle.improve it.solution) t with
  | mk answer u =>
      cases answer with
      | error e => exact .bind_error (residual_error implements res)
      | ok r =>
          refine .bind_ok (residual_ok implements res) (.access (norm_toArray r) ?_)
          exact .ok ⟨rfl, rfl, rfl, fun going => .closed (closing going)⟩ u

theorem step_matches (divides : Divides divide criteria) (implements : Implements mul A)
    (positive : 1 ≤ restart) (b : Vector α n) (origin : α) {s : Iterate (Carried α) α}
    {it : Krylov.Iterate (Krylov.MinimalResidual.Carried α n) α m} (t : Trace σ α)
    (stores : Stores divide restart s it) (live : it.stats.reason = .iterating) :
    Matches (Stores divide restart) (step divide mul criteria origin restart b.toArray s t)
      (Krylov.MinimalResidual.step A criteria restart b origin it t) := by
  have carries := stores.cycle live
  unfold step
  rw [Krylov.MinimalResidual.step_eq]
  by_cases room : Storage.HasRoom (restart + 1) Storage.vectorBytes
  · obtain ⟨cycle, storage, ready⟩ := carries.storage positive room
    obtain ⟨⟨first, readFirst⟩, readLast⟩ := ready.read_ends
    rw [Storage.reserve_of_hasRoom room]
    refine .access storage (.access readFirst (.access readLast ?_))
    dsimp only
    rw [Vector.size_toArray, zeros_toArray, stores.iterations]
    cases image : t.multiply A it.carried.basisVector with
    | mk answer u =>
        cases answer with
        | error e => exact .bind_error (multiply_error implements image)
        | ok w =>
            obtain ⟨grown, run, grows⟩ := Cycle.grow_eq divides ready w
            refine .bind_ok (multiply_ok implements image) (.access run ?_)
            refine .access grows.read_rhs (.noted ?_)
            dsimp only
            rw [grows.columns]
            refine .ite (fun _ => ?_) fun more => ?_
            · exact finish_matches divides implements b origin stores.solution grows _ _
            · have more := eq_false_of_ne_true more
              have growing := growing_of_not_closes more
              have short := length_lt_of_not_closes more
              exact .ok ⟨stores.solution, stores.stats, rfl,
                fun _ => .opened room (grows.stores growing short)⟩ _
  · rw [Storage.reserve_of_not_hasRoom room, carries.storage_full room]
    exact .bind_error rfl

theorem begin_eq (r : Vector α n) :
    begin r.toArray = .ok (⟨r.toArray, Flat.norm r, none, 0⟩, Flat.norm r) := by
  simp only [begin, norm_toArray, ok_bind]
  rfl

/-- A run begins with storage for its first iterate. -/
theorem first_stores (divides : Divides divide criteria) {b : Vector α n} (x : Vector α m)
    (r : Vector α n) : ∃ carried,
      (method divide mul criteria restart b.toArray).begin r.toArray = .ok (carried, Flat.norm r) ∧
      Stores divide restart
        ⟨x.toArray, criteria.stats (Flat.norm r) (Flat.norm r) 0, carried⟩
        ((Krylov.MinimalResidual.method A criteria restart b).first criteria x r) := by
  refine ⟨_, begin_eq r, rfl, rfl, rfl, fun live => .closed ?_⟩
  exact divides.residual _ _ _ live

theorem solve_eq (divides : Divides divide criteria) (implements : Implements mul A)
    (positive : 1 ≤ restart) (b : Vector α n) (x : Vector α m) (memory : σ) :
    solve divide mul criteria restart b.toArray x.toArray memory =
      ofReport (Krylov.MinimalResidual.solve A criteria restart b x memory) := by
  refine Stored.solve_eq (R := Stores divide restart) Stores.stats implements Stores.solution
    (first_stores divides x) ?_ b memory
  exact fun origin _ _ t => step_matches divides implements positive b origin t

end MinimalResidual

end Methods

end MatrixFree.Krylov.Stored
