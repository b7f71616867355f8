import MatrixFree.Proofs.Krylov.Limit

/-!
# What a run notes

A run notes a residual norm for its guess and one for each iteration.  Nothing that it does
afterwards depends on what it has noted: an iteration answers the same on every trace with the
same memory (`Step.Unread`), so a run whose notes are dropped as they are made
(`Method.solveQuietly`) is the same run.

The notes of a run that ends with a record are numbered from zero to the iterations of the
record (`Report.Numbered`).  Conjugate and biconjugate gradients note the residual of the record
last; the last note of minimal residuals is an estimate.
-/

namespace MatrixFree.Krylov

variable {σ ε α S : Type} {m n : Nat}

/-! ## Runs that note nothing -/

/-- A step whose notes are dropped. -/
def Step.quiet (step : Step S σ ε α m) : Step S σ ε α m := fun it t =>
  ((step it t).1, ⟨(step it t).2.memory, t.history⟩)

/-- The solve of a method that notes nothing. -/
def Method.solveQuietly [Scalar α] (M : Method S σ ε α n m) (A : Action σ ε α n)
    (criteria : Criteria α) (b : Vector α n) (x : Vector α m) (memory : σ) : Report σ ε α m :=
  match residual A b x ⟨memory, #[]⟩ with
  | (.error e, t) => ⟨.error e, x, t.history, t.memory⟩
  | (.ok r, t) =>
    match advance (M.step (Flat.norm r)).quiet criteria.limit (M.first criteria x r) t with
    | (.error e, t) => ⟨.error e, x, t.history, t.memory⟩
    | (.ok it, t) => ⟨.ok it.stats, it.solution, t.history, t.memory⟩

/-- What a step does on a trace depends on the memory there only. -/
def Step.Unread (step : Step S σ ε α m) : Prop :=
  ∀ it t t', t'.memory = t.memory →
    (step it t').1 = (step it t).1 ∧ (step it t').2.memory = (step it t).2.memory

/-- The loop without notes, beside the loop with them. -/
theorem advance_quiet {step : Step S σ ε α m} (unread : step.Unread) :
    ∀ fuel it t t', t'.memory = t.memory →
      advance step.quiet fuel it t' =
        ((advance step fuel it t).1, ⟨(advance step fuel it t).2.memory, t'.history⟩) := by
  intro fuel
  induction fuel with
  | zero =>
      intro it t t' same
      simp only [advance, ← same]
  | succ fuel ih =>
      intro it t t' same
      by_cases live : it.stats.reason = .iterating
      · obtain ⟨answer, memory⟩ := unread it t t' same
        rcases hstep : step it t with ⟨e | next, u⟩
        · rw [hstep] at answer memory
          have hquiet : step.quiet it t' = (.error e, ⟨u.memory, t'.history⟩) := by
            simp only [Step.quiet, answer, memory]
          rw [advance_succ_error step fuel live hstep, advance_succ_error _ fuel live hquiet]
        · rw [hstep] at answer memory
          have hquiet : step.quiet it t' = (.ok next, ⟨u.memory, t'.history⟩) := by
            simp only [Step.quiet, answer, memory]
          rw [advance_succ_ok step fuel live hstep, advance_succ_ok _ fuel live hquiet]
          exact ih next u ⟨u.memory, t'.history⟩ rfl
      · rw [advance_of_verdict _ _ live, advance_of_verdict _ _ live, ← same]

section Apply

variable {A : Action σ ε α n} {t t' u : Trace σ α}

/-- An application reads the memory and leaves the notes. -/
theorem Trace.multiplyInto_congr {x : Vector α m} {y : Vector α n}
    {answer : Except ε (Vector α n)} (h : t.multiplyInto A x y = (answer, u))
    (same : t'.memory = t.memory) :
    t'.multiplyInto A x y = (answer, ⟨u.memory, t'.history⟩) := by
  obtain ⟨rfl, rfl⟩ := Prod.mk.inj h
  simp only [multiplyInto, apply, same]

theorem Trace.multiplyInto_history {x : Vector α m} {y : Vector α n}
    {answer : Except ε (Vector α n)} (h : t.multiplyInto A x y = (answer, u)) :
    u.history = t.history := by
  obtain ⟨-, rfl⟩ := Prod.mk.inj h
  rfl

variable [Scalar α]

theorem Trace.multiply_congr {x : Vector α m} {answer : Except ε (Vector α n)}
    (h : t.multiply A x = (answer, u)) (same : t'.memory = t.memory) :
    t'.multiply A x = (answer, ⟨u.memory, t'.history⟩) :=
  multiplyInto_congr h same

theorem Trace.multiply_history {x : Vector α m} {answer : Except ε (Vector α n)}
    (h : t.multiply A x = (answer, u)) : u.history = t.history :=
  multiplyInto_history h

theorem Trace.residual_congr {b : Vector α n} {x : Vector α m} {answer : Except ε (Vector α n)}
    (h : residual A b x t = (answer, u)) (same : t'.memory = t.memory) :
    residual A b x t' = (answer, ⟨u.memory, t'.history⟩) := by
  unfold residual at h ⊢
  rcases image : t.multiply A x with ⟨e | y, v⟩
  · rw [image] at h
    cases h
    rw [multiply_congr image same]
  · rw [image] at h
    cases h
    rw [multiply_congr image same]

theorem Trace.residual_history {b : Vector α n} {x : Vector α m} {answer : Except ε (Vector α n)}
    (h : residual A b x t = (answer, u)) : u.history = t.history := by
  unfold residual at h
  rcases image : t.multiply A x with ⟨e | y, v⟩
  · rw [image] at h
    cases h
    exact multiply_history image
  · rw [image] at h
    cases h
    exact multiply_history image

end Apply

/-! ## Numbers -/

/-- The notes of a run after its iteration `k`: one for the first residual, of norm `origin`, and
one for each iteration. -/
structure Noted (origin : α) (k : Nat) (history : Array (Nat × α)) : Prop where
  numbers : history.toList.map Prod.fst = List.range (k + 1)
  first : history[0]? = some (0, origin)

theorem Noted.start (origin : α) : Noted origin 0 #[(0, origin)] := ⟨rfl, rfl⟩

/-- One iteration more is one note more. -/
theorem Noted.push {origin : α} {k : Nat} {history : Array (Nat × α)} (h : Noted origin k history)
    (res : α) : Noted origin (k + 1) (history.push (k + 1, res)) := by
  refine ⟨?_, ?_⟩
  · simp only [Array.toList_push, List.map_append, h.numbers, List.range_succ, List.map_cons,
      List.map_nil]
  · have size : 0 < history.size := (Array.getElem?_eq_some_iff.mp h.first).1
    rw [Array.getElem?_push_lt size, ← h.first, Array.getElem?_eq_getElem size]

/-- Each iteration adds a note with its number, or it gives up and adds none.  A method is
`faithful` if it notes the residual of its record. -/
def Step.Notes (step : Step S σ ε α m) (count : Iterate S α m → Nat) (faithful : Bool) : Prop :=
  ∀ it t it' t', step it t = (.ok it', t') →
    (count it' = count it ∧ t'.history = t.history ∧ it'.stats.residual = it.stats.residual) ∨
      ∃ res, count it' = count it + 1 ∧ t'.history = t.history.push (count it + 1, res) ∧
        (faithful = true → res = it'.stats.residual)

/-- The notes of a run that stands at an iterate. -/
structure NotedAt (origin : α) (faithful : Bool) (count : Iterate S α m → Nat)
    (it : Iterate S α m) (t : Trace σ α) : Prop where
  noted : Noted origin (count it) t.history
  last : faithful = true → t.history.back? = some (count it, it.stats.residual)

theorem NotedAt.step {step : Step S σ ε α m} {count : Iterate S α m → Nat} {faithful : Bool}
    (notes : step.Notes count faithful) {origin : α} {it it' : Iterate S α m} {t t' : Trace σ α}
    (h : NotedAt origin faithful count it t) (hstep : step it t = (.ok it', t')) :
    NotedAt origin faithful count it' t' := by
  rcases notes it t it' t' hstep with ⟨number, history, residual⟩ | ⟨res, number, history, exact⟩
  · refine ⟨?_, ?_⟩
    · rw [number, history]
      exact h.noted
    · intro faith
      rw [number, history, residual]
      exact h.last faith
  · refine ⟨?_, ?_⟩
    · rw [history, number]
      exact h.noted.push res
    · intro faith
      rw [history, number, Array.back?_push, exact faith]

/-! ## Solves -/

/-- A record comes with a history that is numbered up to its iterations and begins with the norm
of the first residual; that of a faithful method ends with the residual of the record. -/
def Report.Numbered [Scalar α] (first : Except ε (Vector α n)) (faithful : Bool)
    (report : Report σ ε α m) : Prop :=
  ∀ stats, report.result = .ok stats →
    (∃ r, first = .ok r ∧ Noted (Flat.norm r) stats.iterations report.history) ∧
      (faithful = true → report.history.back? = some (stats.iterations, stats.residual))

/-- A solve that is watched, beside the one that is not: they differ in what they noted.  `listed`
are the two solves with a list of the arrays that were multiplied. -/
structure Report.Unwatched (loud quiet : Report σ ε α m)
    (listed listedQuiet : Report (σ × List (Array α)) ε α m) : Prop where
  same : quiet = { loud with history := #[] }
  applications : listedQuiet.memory.2 = listed.memory.2

section Solve

variable [Scalar α]

theorem Method.solveQuietly_eq {M : Method S σ ε α n m} (unread : ∀ origin, (M.step origin).Unread)
    (A : Action σ ε α n) (criteria : Criteria α) (b : Vector α n) (x : Vector α m) (memory : σ) :
    M.solveQuietly A criteria b x memory =
      { M.solve A criteria b x memory with history := #[] } := by
  unfold Method.solveQuietly Method.solve
  rcases res : residual A b x ⟨memory, #[]⟩ with ⟨e | r, t⟩
  · have empty : t.history = #[] := Trace.residual_history res
    dsimp only
    rw [empty]
  · have empty : t.history = #[] := Trace.residual_history res
    dsimp only
    rw [advance_quiet (unread (Flat.norm r)) criteria.limit _ (t.note 0 (Flat.norm r)) t rfl, empty]
    unfold Method.first
    rcases advance (M.step (Flat.norm r)) criteria.limit _ (t.note 0 (Flat.norm r)) with ⟨e | it, u⟩
    · rfl
    · rfl

variable {M : Criteria α → Method S σ ε α n m} {count : Iterate S α m → Nat}
  {A : Action σ ε α n} {c : Criteria α} {b : Vector α n} {x : Vector α m} {memory : σ}
  {passed : List (Iterate S α m)} {report : Report σ ε α m}

theorem Method.Counts.numbered (counts : Counts M count) {faithful : Bool}
    (notes : ∀ origin, ((M c).step origin).Notes count faithful)
    (runs : (M c).Runs A c b x memory passed report) :
    report.Numbered (residual A b x ⟨memory, #[]⟩).1 faithful := by
  intro stats ok
  cases runs with
  | refused res => cases ok
  | failed res loop => cases ok
  | @ended r t u _ last res loop =>
      cases ok
      have zero : count ((M c).first c x r) = 0 := counts.first c x r
      have total : last.stats.iterations = count last := counts.loop_told loop zero.symm
      have history : (t.note 0 (Flat.norm r)).history = #[(0, Flat.norm r)] := by
        unfold Trace.note
        rw [Trace.residual_history res]
        rfl
      have start : NotedAt (Flat.norm r) faithful count ((M c).first c x r)
          (t.note 0 (Flat.norm r)) := by
        refine ⟨?_, ?_⟩
        · rw [zero, history]
          exact .start _
        · intro faith
          rw [zero, history]
          rfl
      obtain ⟨noted, -⟩ := loop.ends
        (P := fun it t => NotedAt (Flat.norm r) faithful count it t)
        (fun _ _ _ _ h _ hstep => h.step (notes _) hstep) rfl start
      rw [total]
      exact ⟨⟨r, by rw [res], noted.noted⟩, noted.last⟩

theorem Report.Unwatched.of_unread {M : Method S σ ε α n m}
    {M' : Method S (σ × List (Array α)) ε α n m} (unread : ∀ origin, (M.step origin).Unread)
    (unread' : ∀ origin, (M'.step origin).Unread) (A : Action σ ε α n) (criteria : Criteria α)
    (b : Vector α n) (x : Vector α m) (memory : σ) :
    (M.solve A criteria b x memory).Unwatched (M.solveQuietly A criteria b x memory)
      (M'.solve A.recorded criteria b x (memory, []))
      (M'.solveQuietly A.recorded criteria b x (memory, [])) := by
  refine ⟨Method.solveQuietly_eq unread A criteria b x memory, ?_⟩
  rw [Method.solveQuietly_eq unread']

end Solve

/-! ## The three methods -/

section Methods

variable [Scalar α] {A : Action σ ε α n} {c : Criteria α} {origin : α}

namespace ConjugateGradient

theorem step_unread : (step A c origin : Step (Carried α n) σ ε α m).Unread := by
  intro it t t' same
  have outcome := iteration A c origin it t
  generalize step A c origin it t = out at outcome
  cases outcome with
  | failed image =>
      rw [(Iteration.failed (Trace.multiply_congr image same)).step_eq]
      exact ⟨rfl, rfl⟩
  | stopped image curvature =>
      rw [(Iteration.stopped (Trace.multiply_congr image same) curvature).step_eq]
      exact ⟨rfl, rfl⟩
  | moved image curvature =>
      rw [(Iteration.moved (Trace.multiply_congr image same) curvature).step_eq]
      exact ⟨rfl, rfl⟩

theorem step_notes :
    (step A c origin : Step (Carried α n) σ ε α m).Notes (·.stats.iterations) true := by
  intro it t it' t' hstep
  have outcome := iteration A c origin it t
  rw [hstep] at outcome
  cases outcome with
  | stopped image curvature => exact Or.inl ⟨rfl, Trace.multiply_history image, rfl⟩
  | moved image curvature =>
      refine Or.inr ⟨_, rfl, ?_, fun _ => rfl⟩
      rw [← Trace.multiply_history image]
      rfl

theorem solve_numbered (A : Action σ ε α n) (c : Criteria α) (b : Vector α n) (x : Vector α m)
    (memory : σ) : (solve A c b x memory).Numbered (residual A b x ⟨memory, #[]⟩).1 true := by
  obtain ⟨_, runs, -, -⟩ := solve_runs A c b x memory
  exact (counts A).numbered (fun _ => step_notes) runs

theorem solve_unwatched (A : Action σ ε α n) (c : Criteria α) (b : Vector α n) (x : Vector α m)
    (memory : σ) :
    (solve A c b x memory).Unwatched ((method A c).solveQuietly A c b x memory)
      (solve A.recorded c b x (memory, []))
      ((method A.recorded c).solveQuietly A.recorded c b x (memory, [])) :=
  .of_unread (fun _ => step_unread) (fun _ => step_unread) A c b x memory

end ConjugateGradient

namespace BiconjugateGradient

theorem step_unread : (step A c origin : Step (Carried α n) σ ε α m).Unread := by
  intro it t t' same
  have outcome := iteration A c origin it t
  generalize step A c origin it t = out at outcome
  cases outcome with
  | orthogonal vanished =>
      rw [(Iteration.orthogonal vanished).step_eq]
      exact ⟨rfl, same⟩
  | failed product first =>
      rw [(Iteration.failed product (Trace.multiplyInto_congr first same)).step_eq]
      exact ⟨rfl, rfl⟩
  | blocked product first length =>
      rw [(Iteration.blocked product (Trace.multiplyInto_congr first same) length).step_eq]
      exact ⟨rfl, rfl⟩
  | halved product first length converged =>
      rw [(Iteration.halved product (Trace.multiplyInto_congr first same) length
        converged).step_eq]
      exact ⟨rfl, rfl⟩
  | failedHalfway product first length unconverged second =>
      have first' := Trace.multiplyInto_congr first same
      rw [(Iteration.failedHalfway product first' length unconverged
        (Trace.multiply_congr second rfl)).step_eq]
      exact ⟨rfl, rfl⟩
  | spent product first length unconverged second vanished =>
      have first' := Trace.multiplyInto_congr first same
      rw [(Iteration.spent product first' length unconverged
        (Trace.multiply_congr second rfl) vanished).step_eq]
      exact ⟨rfl, rfl⟩
  | stabilized product first length unconverged second square =>
      have first' := Trace.multiplyInto_congr first same
      rw [(Iteration.stabilized product first' length unconverged
        (Trace.multiply_congr second rfl) square).step_eq]
      exact ⟨rfl, rfl⟩

theorem step_notes :
    (step A c origin : Step (Carried α n) σ ε α m).Notes (·.stats.iterations) true := by
  intro it t it' t' hstep
  have outcome := iteration A c origin it t
  rw [hstep] at outcome
  cases outcome with
  | orthogonal vanished => exact Or.inl ⟨rfl, rfl, rfl⟩
  | blocked product first length => exact Or.inl ⟨rfl, Trace.multiplyInto_history first, rfl⟩
  | spent product first length unconverged second vanished =>
      have history := (Trace.multiply_history second).trans (Trace.multiplyInto_history first)
      exact Or.inl ⟨rfl, history, rfl⟩
  | halved product first length converged =>
      refine Or.inr ⟨_, rfl, ?_, fun _ => rfl⟩
      rw [← Trace.multiplyInto_history first]
      rfl
  | stabilized product first length unconverged second square =>
      have history := (Trace.multiply_history second).trans (Trace.multiplyInto_history first)
      refine Or.inr ⟨_, stabilize_iterations .., ?_, fun _ => rfl⟩
      rw [← history]
      rfl

theorem solve_numbered (A : Action σ ε α n) (c : Criteria α) (b : Vector α n) (x : Vector α m)
    (memory : σ) : (solve A c b x memory).Numbered (residual A b x ⟨memory, #[]⟩).1 true := by
  obtain ⟨_, runs, -, -⟩ := solve_runs A c b x memory
  exact (counts A).numbered (fun _ => step_notes) runs

theorem solve_unwatched (A : Action σ ε α n) (c : Criteria α) (b : Vector α n) (x : Vector α m)
    (memory : σ) :
    (solve A c b x memory).Unwatched ((method A c).solveQuietly A c b x memory)
      (solve A.recorded c b x (memory, []))
      ((method A.recorded c).solveQuietly A.recorded c b x (memory, [])) :=
  .of_unread (fun _ => step_unread) (fun _ => step_unread) A c b x memory

end BiconjugateGradient

namespace MinimalResidual

variable {A : Action σ (Failure ε) α n} {restart : Nat} {b : Vector α n}

/-- The residual at the end of a cycle is computed after the note, and reads none. -/
theorem step_unread : (step A c restart b origin : Step (Carried α n) σ (Failure ε) α m).Unread := by
  intro it t t' same
  have outcome := iteration A c restart b origin it t
  generalize step A c restart b origin it t = out at outcome
  cases outcome with
  | noRoom full =>
      rw [(Iteration.noRoom full).step_eq]
      exact ⟨rfl, same⟩
  | failed room image =>
      rw [(Iteration.failed room (Trace.multiply_congr image same)).step_eq]
      exact ⟨rfl, rfl⟩
  | grown room image more =>
      rw [(Iteration.grown room (Trace.multiply_congr image same) more).step_eq]
      exact ⟨rfl, rfl⟩
  | unfinished room image closed res =>
      have image' := Trace.multiply_congr image same
      rw [(Iteration.unfinished room image' closed (Trace.residual_congr res rfl)).step_eq]
      exact ⟨rfl, rfl⟩
  | finished room image closed res =>
      have image' := Trace.multiply_congr image same
      rw [(Iteration.finished room image' closed (Trace.residual_congr res rfl)).step_eq]
      exact ⟨rfl, rfl⟩

theorem step_notes :
    (step A c restart b origin : Step (Carried α n) σ (Failure ε) α m).Notes
      (·.carried.iterations) false := by
  intro it t it' t' hstep
  have outcome := iteration A c restart b origin it t
  rw [hstep] at outcome
  cases outcome with
  | @grown w u room image more =>
      let g := it.carried.cycle.grow it.carried.basisVector w
      refine Or.inr ⟨g.cycle.problem.residual, rfl, ?_, nofun⟩
      rw [← Trace.multiply_history image]
      rfl
  | @finished w r u u' room image closed res =>
      let g := it.carried.cycle.grow it.carried.basisVector w
      refine Or.inr ⟨g.cycle.problem.residual, rfl, ?_, nofun⟩
      rw [Trace.residual_history res, ← Trace.multiply_history image]
      rfl

theorem solve_numbered (A : Action σ (Failure ε) α n) (c : Criteria α) (restart : Nat)
    (b : Vector α n) (x : Vector α m) (memory : σ) :
    (solve A c restart b x memory).Numbered (residual A b x ⟨memory, #[]⟩).1 false := by
  obtain ⟨_, runs, -, -⟩ := solve_runs A c restart b x memory
  exact (counts A restart b).numbered (fun _ => step_notes) runs

theorem solve_unwatched (A : Action σ (Failure ε) α n) (c : Criteria α) (restart : Nat)
    (b : Vector α n) (x : Vector α m) (memory : σ) :
    (solve A c restart b x memory).Unwatched ((method A c restart b).solveQuietly A c b x memory)
      (solve A.recorded c restart b x (memory, []))
      ((method A.recorded c restart b).solveQuietly A.recorded c b x (memory, [])) :=
  .of_unread (fun _ => step_unread) (fun _ => step_unread) A c b x memory

end MinimalResidual

end Methods

end MatrixFree.Krylov
