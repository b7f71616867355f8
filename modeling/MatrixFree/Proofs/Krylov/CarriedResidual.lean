import Mathlib
import MatrixFree.Proofs.Scalar.Exact
import MatrixFree.Proofs.Krylov.Verdict

/-!
# The residual that the short recurrences carry

Conjugate gradients and stabilized biconjugate gradients never compute a residual after the
first one.  They carry a vector along, and whenever the solution moves by a multiple of a
direction, that vector moves by the same multiple of the direction's image.  Without rounding
and with a linear operator the vector stays `b - A x` that way, whatever the step lengths are
(`Tracks`), and the record holds its norm.

So the record of a run tells the truth about the solution that is returned with it, at each of
the exits: a breakdown leaves both as they were, and a run that ends halfway has moved both.
-/

namespace MatrixFree.Krylov

open Flat

/-- A convergence verdict comes from one of the two tests on the residual. -/
theorem Criteria.le_of_converged {α : Type} [Scalar α] {c : Criteria α} {res res0 : α} {i : Nat}
    (h : (c.check res res0 i).isConverged = true) :
    Scalar.le res (c.relative * res0) = true ∨ Scalar.le res c.absolute = true := by
  unfold Criteria.check at h
  split at h
  · cases h
  · split at h
    · exact Or.inl ‹_›
    · split at h
      · exact Or.inr ‹_›
      · repeat' split at h
        all_goals cases h

variable {σ ε α S : Type} [ExactField α] {n : Nat}

/-- What the operator answers is the image of a linear map, whatever vector it is multiplied
into and whatever its memory holds. -/
def Action.Linear (A : Action σ ε α n) (L : (Fin n → α) →ₗ[α] (Fin n → α)) : Prop :=
  ∀ (x y : Vector α n) memory v, (A x.toArray y memory).1 = .ok v → entries v = L (entries x)

variable {A : Action σ ε α n} {L : (Fin n → α) →ₗ[α] (Fin n → α)} {b : Vector α n}

/-- The residual `b - L x`. -/
def residualOf (L : (Fin n → α) →ₗ[α] (Fin n → α)) (b x : Vector α n) : Fin n → α :=
  entries b - L (entries x)

theorem Action.Linear.multiplyInto (linear : A.Linear L) {t u : Trace σ α} {x y v : Vector α n}
    (image : t.multiplyInto A x y = (.ok v, u)) : entries v = L (entries x) :=
  linear x y t.memory v (congrArg Prod.fst image)

theorem Action.Linear.residual (linear : A.Linear L) {t : Trace σ α} {x r : Vector α n}
    (computed : (residual A b x t).1 = .ok r) : entries r = residualOf L b x := by
  obtain ⟨y, image, rfl⟩ := residual_ok (Prod.ext computed rfl)
  rw [entries_sub, linear x _ _ y image]
  rfl

/-- Moving the solution along a direction moves the residual along its image. -/
theorem residualOf_correct (linear : A.Linear L) {t u : Trace σ α} {x r p y v : Vector α n} {c : α}
    (tracks : entries r = residualOf L b x) (image : t.multiplyInto A p y = (.ok v, u)) :
    entries (subMul r c v) = residualOf L b (correct x c p) := by
  unfold residualOf at tracks ⊢
  rw [entries_subMul, tracks, linear.multiplyInto image, correct_eq_addMul, entries_addMul,
    map_add, map_smul, sub_sub]

/-! ## The invariant -/

/-- The record holds the norm of the solution's residual, and as long as there is no verdict that
residual is the one that is carried. -/
structure Tracks (carries : S → Vector α n) (L : (Fin n → α) →ₗ[α] (Fin n → α)) (b : Vector α n)
    (it : Iterate S α n) : Prop where
  reported : it.stats.residual = euclidean (residualOf L b it.solution)
  carried : it.stats.reason = .iterating →
    entries (carries it.carried) = residualOf L b it.solution

/-- An iterate whose record was made for a residual of its solution. -/
theorem Tracks.of_stats {carries : S → Vector α n} {it : Iterate S α n} {r : Vector α n}
    (moved : entries r = residualOf L b it.solution) (reported : it.stats.residual = norm r)
    (carried : it.stats.reason = .iterating → carries it.carried = r) :
    Tracks carries L b it := by
  refine ⟨?_, ?_⟩
  · rw [reported, norm_eq_euclidean, moved]
  · intro live
    rw [carried live, moved]

/-- Giving up changes the reason alone. -/
theorem Tracks.stopped {carries : S → Vector α n} {it : Iterate S α n}
    (h : Tracks carries L b it) {reason : Reason} (verdict : reason ≠ .iterating) :
    Tracks carries L b { it with stats := it.stats.stopped reason } :=
  ⟨h.reported, fun live => absurd live verdict⟩

/-- What the record and the solution of a run have to do with each other. -/
structure Report.Truthful (L : (Fin n → α) →ₗ[α] (Fin n → α)) (criteria : Criteria α)
    (b x : Vector α n) (report : Report σ ε α n) (stats : Stats α) : Prop where
  residual : stats.residual = euclidean (residualOf L b report.solution)
  converged : 0 < stats.reason.code →
    euclidean (residualOf L b report.solution) ≤
      max (criteria.relative * euclidean (residualOf L b x)) criteria.absolute

/-- A method whose iterations keep the invariant ends with a truthful record. -/
theorem Method.solve_truthful {M : Method S σ ε α n n} {carries : S → Vector α n}
    (linear : A.Linear L) {criteria : Criteria α} {x : Vector α n} {memory : σ}
    (start : ∀ r origin, carries (M.begin r origin) = r)
    (keep : ∀ origin it t it' t', Tracks carries L b it → it.stats.reason = .iterating →
      M.step origin it t = (.ok it', t') → Tracks carries L b it')
    {own : List Reason} {stats : Stats α}
    (honest : ∃ r₀, (Krylov.residual A b x ⟨memory, #[]⟩).1 = .ok r₀ ∧
      stats.Honest criteria (norm r₀) own)
    (h : (M.solve A criteria b x memory).result = .ok stats) :
    (M.solve A criteria b x memory).Truthful L criteria b x stats := by
  obtain ⟨r, t, it, u, hres, hrun, rfl, hreport⟩ := Method.solve_ok h
  have first : Tracks carries L b (M.first criteria x r) :=
    .of_stats (linear.residual (congrArg Prod.fst hres)) rfl fun _ => start ..
  obtain ⟨-, ⟨residual, -⟩, -⟩ := advance_ok (P := fun _ it _ => Tracks carries L b it)
    (fun _ => keep (norm r)) first hrun
  rw [hreport]
  refine ⟨residual, ?_⟩
  intro positive
  obtain ⟨r₀, computed, honest⟩ := honest
  have granted := honest.granted (decide_eq_true positive)
  have converged : (criteria.check it.stats.residual (norm r₀) it.stats.iterations).isConverged =
      true := by
    rw [granted]
    exact decide_eq_true positive
  rw [residual, norm_eq_euclidean, linear.residual computed] at converged
  rcases Criteria.le_of_converged converged with relative | absolute
  · exact le_max_of_le_left (of_decide_eq_true relative)
  · exact le_max_of_le_right (of_decide_eq_true absolute)

/-! ## Conjugate gradients -/

namespace ConjugateGradient

theorem step_tracks (linear : A.Linear L) {criteria : Criteria α} {origin : α}
    {it it' : Iterate (Carried α n) α n} {t t' : Trace σ α} (h : Tracks Carried.res L b it)
    (live : it.stats.reason = .iterating) (hstep : step A criteria origin it t = (.ok it', t')) :
    Tracks Carried.res L b it' := by
  have outcome := iteration A criteria origin it t
  rw [hstep] at outcome
  cases outcome with
  | stopped image curvature =>
      have broken := curvatureVerdict_mem curvature
      exact h.stopped (Reason.ne_iterating_of_mem breakdowns_subset broken)
  | moved image curvature =>
      exact .of_stats (residualOf_correct linear (h.carried live) image) rfl fun _ => rfl

end ConjugateGradient

/-! ## Stabilized biconjugate gradients -/

namespace BiconjugateGradient

/-- Each half of an iteration moves solution and residual together. -/
theorem step_tracks (linear : A.Linear L) {criteria : Criteria α} {origin : α}
    {it it' : Iterate (Carried α n) α n} {t t' : Trace σ α} (h : Tracks Carried.res L b it)
    (live : it.stats.reason = .iterating) (hstep : step A criteria origin it t = (.ok it', t')) :
    Tracks Carried.res L b it' := by
  have outcome := iteration A criteria origin it t
  rw [hstep] at outcome
  cases outcome with
  | orthogonal vanished => exact h.stopped nofun
  | blocked product first length => exact h.stopped nofun
  | spent product first length unconverged second vanished => exact h.stopped nofun
  | @halved v u product first length converged =>
      have half : entries (halfResidual it.carried v) = _ :=
        residualOf_correct linear (h.carried live) first
      -- The carried residual is not renewed, but the run ends here.
      refine .of_stats half rfl fun live' => ?_
      rw [Stats.converged, live'] at converged
      cases converged
  | @stabilized v w u u' product first length unconverged second square =>
      have half : entries (halfResidual it.carried v) = _ :=
        residualOf_correct linear (h.carried live) first
      exact .of_stats (residualOf_correct linear half second) (stabilize_residual ..) fun _ => rfl

end BiconjugateGradient

/-! ## Both methods -/

/-- **The carried residual is the true one.**  Over an exact field and with a linear operator, a
record of conjugate gradients or of stabilized biconjugate gradients holds the norm of
`b - A x` for the very `x` that is returned with it, whichever exit the run took; and with a
verdict of success that norm meets one of the two tolerances. -/
theorem recurrences_truthful (linear : A.Linear L) (criteria : Criteria α) (b x : Vector α n)
    (memory : σ) :
    (∀ stats, (ConjugateGradient.solve A criteria b x memory).result = .ok stats →
        (ConjugateGradient.solve A criteria b x memory).Truthful L criteria b x stats) ∧
      ∀ stats, (BiconjugateGradient.solve A criteria b x memory).result = .ok stats →
        (BiconjugateGradient.solve A criteria b x memory).Truthful L criteria b x stats := by
  constructor
  · intro stats h
    have honest := Method.solve_honest ConjugateGradient.breakdowns_subset (fun _ => rfl)
      (fun _ _ _ _ _ _ => ConjugateGradient.step_sound) h
    exact Method.solve_truthful linear (fun _ _ => rfl)
      (fun _ _ _ _ _ => ConjugateGradient.step_tracks linear) honest h
  · intro stats h
    have honest := Method.solve_honest BiconjugateGradient.breakdowns_subset (fun _ => rfl)
      (fun _ _ _ _ _ _ => BiconjugateGradient.step_sound) h
    exact Method.solve_truthful linear (fun _ _ => rfl)
      (fun _ _ _ _ _ => BiconjugateGradient.step_tracks linear) honest h

/-- Real numbers, and an operator that doubles. -/
theorem recurrences_truthful_doubling :
    let A : Action Unit Empty ℝ 2 := fun x _ memory =>
      (.ok (Vector.ofFn fun i => 2 * x.getD i 0), memory)
    let L : (Fin 2 → ℝ) →ₗ[ℝ] (Fin 2 → ℝ) := (2 : ℝ) • LinearMap.id
    let criteria : Criteria ℝ := ⟨1e-5, 1e-50, 1e5, 20⟩
    let b : Vector ℝ 2 := #v[1, 3]
    let x : Vector ℝ 2 := #v[0, 1]
    A.Linear L ∧
      (∃ stats, (ConjugateGradient.solve A criteria b x ()).result = .ok stats ∧
        (ConjugateGradient.solve A criteria b x ()).Truthful L criteria b x stats) ∧
      ∃ stats, (BiconjugateGradient.solve A criteria b x ()).result = .ok stats ∧
        (BiconjugateGradient.solve A criteria b x ()).Truthful L criteria b x stats := by
  intro A L criteria b x
  have linear : A.Linear L := by
    rintro x y memory v ⟨⟩
    funext i
    have stored : x[i.val]? = some x[i] := Vector.getElem?_eq_getElem i.isLt
    simp [entries, L, stored]
  have ended (result : Except Empty (Stats ℝ)) : ∃ stats, result = .ok stats := by
    cases result with
    | error e => exact e.elim
    | ok stats => exact ⟨stats, rfl⟩
  obtain ⟨first, second⟩ := recurrences_truthful linear criteria b x ()
  obtain ⟨stats, h⟩ := ended (ConjugateGradient.solve A criteria b x ()).result
  obtain ⟨stats', h'⟩ := ended (BiconjugateGradient.solve A criteria b x ()).result
  exact ⟨linear, ⟨stats, h, first stats h⟩, stats', h', second stats' h'⟩

end MatrixFree.Krylov
