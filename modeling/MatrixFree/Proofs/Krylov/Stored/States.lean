import MatrixFree.Proofs.Krylov.Stored.Runs

/-!
# The states of a run on storage

A run visits the state in which it begins and those to which its iterations lead
(`Method.Visits`).  What each step on storage matches, each state that is visited stores
(`Method.Visits.related`).

For minimal residuals this tells the sizes of all that is in storage when an iteration starts
(`MinimalResidual.Cycle.Shaped`), in the first cycle and in every later one.
-/

namespace MatrixFree.Krylov.Stored

variable {σ ε α S T : Type} [Scalar α] {m n : Nat}

/-- A state of a run, with the norm of the first residual and the trace that the run has left so
far. -/
inductive Method.Visits (M : Method S σ ε α) (mul : Multiply σ ε α) (criteria : Criteria α)
    (b x : Array α) (memory : σ) : α → Iterate S α → Trace σ α → Prop where
  /-- The state after the first residual. -/
  | first {r : Array α} {t : Trace σ α} {carried : S} {origin : α}
      (res : residual mul b x ⟨memory, #[]⟩ = (.ok r, t))
      (begun : M.begin r = .ok (carried, origin)) :
      Visits M mul criteria b x memory origin ⟨x, criteria.stats origin origin 0, carried⟩
        (t.note 0 origin)
  /-- The state after another iteration. -/
  | next {origin : α} {s s' : Iterate S α} {t t' : Trace σ α}
      (visits : Visits M mul criteria b x memory origin s t) (live : s.stats.reason = .iterating)
      (moved : M.step origin s t = (.ok s', t')) : Visits M mul criteria b x memory origin s' t'

section Related

variable {R : Iterate S α → Krylov.Iterate T α m → Prop} {M : Method S σ ε α}
  {M' : Krylov.Method T σ (Failure ε) α n m} {mul : Multiply σ ε α} {A : Action σ (Failure ε) α n}
  {criteria : Criteria α} {b : Vector α n} {x : Vector α m}

/-- A residual that storage holds is one of the system. -/
theorem exists_residual (implements : Implements mul A) {r : Array α} {t u : Trace σ α}
    (res : residual mul b.toArray x.toArray t = (.ok r, u)) : ∃ v : Vector α n, r = v.toArray := by
  cases res' : Krylov.residual A b x t with
  | mk answer u' =>
      cases answer with
      | error e =>
          rw [residual_error implements res'] at res
          cases res
      | ok v =>
          rw [residual_ok implements res'] at res
          cases res
          exact ⟨v, rfl⟩

/-- Where each step matches, a state that is visited stores an iterate of the method. -/
theorem Method.Visits.related (implements : Implements mul A)
    (stats : ∀ {s it}, R s it → s.stats = it.stats)
    (first : ∀ r : Vector α n, ∃ carried, M.begin r.toArray = .ok (carried, Flat.norm r) ∧
      R ⟨x.toArray, criteria.stats (Flat.norm r) (Flat.norm r) 0, carried⟩ (M'.first criteria x r))
    (keep : ∀ origin {s it} t, R s it → it.stats.reason = .iterating →
      Matches R (M.step origin s t) (M'.step origin it t)) {memory : σ} {origin : α}
    {s : Iterate S α} {t : Trace σ α}
    (visits : M.Visits mul criteria b.toArray x.toArray memory origin s t) : ∃ it, R s it := by
  induction visits with
  | first res begun =>
      obtain ⟨r, rfl⟩ := exists_residual implements res
      obtain ⟨carried, begun', related⟩ := first r
      rw [begun'] at begun
      cases begun
      exact ⟨_, related⟩
  | @next origin s s' t t' visits live moved ih =>
      obtain ⟨it, related⟩ := ih
      rw [stats related] at live
      have matched := keep origin t related live
      rw [moved] at matched
      generalize M'.step origin it t = answer at matched
      cases matched with
      | ok related' u => exact ⟨_, related'⟩

end Related

/-! ## Cycles of minimal residuals -/

namespace MinimalResidual

/-- The sizes of the storage in which an iteration works: one basis vector for each column that is
there and one more, and room for a column more. -/
structure Cycle.Shaped (s : Cycle α) (restart n : Nat) : Prop where
  columns : s.columns < restart
  basis : s.basis.size = s.columns + 1
  vectors : ∀ v ∈ s.basis, v.size = n
  rows : s.matrix.size = restart + 1
  row : ∀ row ∈ s.matrix, row.size = restart
  rhs : s.rhs.size = restart + 1
  cosines : s.cosines.size = restart
  sines : s.sines.size = restart

variable {divide : α → α → Except Fault α} {criteria : Criteria α} {mul : Multiply σ ε α}
  {A : Action σ (Failure ε) α n} {restart : Nat}

theorem Cycle.Stores.shaped {s : Cycle α} {c : Krylov.MinimalResidual.Cycle α n}
    (stores : s.Stores restart c) : s.Shaped restart n := by
  obtain ⟨f, g, cs, sn, lays, -, -⟩ := stores.problem
  refine ⟨?_, ?_, ?_, ?_, ?_, ?_, ?_, ?_⟩
  · rw [stores.columns]
    exact stores.room
  · rw [stores.basis, stores.columns, List.size_toArray, List.length_map, List.length_append]
    rfl
  · intro v mem
    rw [stores.basis, List.mem_toArray, List.mem_map] at mem
    obtain ⟨u, -, rfl⟩ := mem
    exact u.size_toArray
  · rw [lays.matrix]
    exact size_line _ _
  · intro row mem
    rw [lays.matrix, table, line, Array.mem_ofFn] at mem
    obtain ⟨i, rfl⟩ := mem
    exact size_line _ _
  · rw [lays.rhs, size_line]
  · rw [lays.cosines, size_line]
  · rw [lays.sines, size_line]

/-- Every iteration, in every cycle, has storage of the right sizes to work in. -/
theorem exists_shaped_of_visits (divides : Divides divide criteria)
    (implements : Implements mul A) (positive : 1 ≤ restart)
    (room : Storage.HasRoom (restart + 1) Storage.vectorBytes) {b : Vector α n} {x : Vector α m}
    {memory : σ} {origin : α} {s : Iterate (Carried α) α} {t : Trace σ α}
    (visits : (method divide mul criteria restart b.toArray).Visits mul criteria b.toArray x.toArray
      memory origin s t) (live : s.stats.reason = .iterating) :
    ∃ cycle, s.carried.storage divide restart = .ok cycle ∧ cycle.Shaped restart n := by
  obtain ⟨it, stores⟩ := visits.related (R := Stores divide restart) implements Stores.stats
    (first_stores divides x) fun _ _ _ t => step_matches divides implements positive b _ t
  rw [stores.stats] at live
  obtain ⟨cycle, storage, ready⟩ := (stores.cycle live).storage positive room
  exact ⟨cycle, storage, ready.shaped⟩

end MinimalResidual

end MatrixFree.Krylov.Stored
