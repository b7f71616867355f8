import MatrixFree.Operators.OnField
import MatrixFree.Proofs.Engine.Records
import MatrixFree.Proofs.Session.WarmStart

/-!
# Records of a session

A session reads its record from its handle, and lets the handle solve in inversions and
verifications only.  An inversion gets that far unless the session is not ready for the field,
or the field has no values (`Session.attempt?`).  The solves of a session are therefore solves of one
handle, the one that its setup made, and its record tells about them what a handle's record tells
about the solves of the handle (`Handle.Remembers`).
-/

namespace MatrixFree

open Grid Engine Options Krylov

variable {k : Kind} {σ : Type}

namespace Session

/-! ## Solves of a session -/

/-- The solve that an inversion reaches. -/
def attempt? (s : Session k σ) (rhs : Field k) : Option (Handle.Attempt Mesh (Workspace k σ)) :=
  match s.readyFor rhs with
  | .error _ => none
  | .ok r =>
    match rhs.toVector r.rhs.size with
    | .error _ => none
    | .ok b => some ⟨r.handle, { r.rhs with entries := b.toArray }, r.solution,
        s.workspace.measure .packing⟩

/-- The solves that some calls reach, first to last. -/
def attempts : Session k σ → List (Call k σ) → List (Handle.Attempt Mesh (Workspace k σ))
  | _, [] => []
  | s, call :: calls => (call.inverted?.bind s.attempt?).toList ++ (s.after call).attempts calls

/-- The answer of an inversion, by the outcome of the solve that it reaches. -/
structure Passes (out : Handle.Outcome Mesh (Workspace k σ)) (answered : Outcome k σ (Field k)) :
    Prop where
  handle : answered.session.handle? = some out.handle
  failed : ∀ e, out.result = .error e → answered.answer = .error (ofSolveFailure e)
  unconverged : ∀ reason, out.result = .ok reason → reason.isConverged = false →
    answered.answer = .error (.error (.notConverged reason.code))

/-- The handle is put back before the verdict is looked at. -/
theorem solve_passes (s : Session k σ) (r : Ready k σ) {rhs : Field k}
    {b : Vector Float r.rhs.size} (packed : rhs.toVector r.rhs.size = .ok b) :
    Passes (r.handle.solve { r.rhs with entries := b.toArray } r.solution
      (s.workspace.measure .packing)) (s.solve r rhs) := by
  unfold solve
  rw [packed]
  dsimp only
  generalize r.handle.solve _ r.solution (s.workspace.measure .packing) = out
  cases result : out.result with
  | error e =>
      refine ⟨rfl, ?_, ?_⟩
      · intro e' failed
        rw [result] at failed
        cases failed
        rfl
      · intro reason ok
        rw [result] at ok
        cases ok
  | ok reason =>
      unfold unpack
      dsimp only
      refine ⟨?_, ?_, ?_⟩
      · split
        · split <;> rfl
        · rfl
      · intro e failed
        rw [result] at failed
        cases failed
      · intro reason' ok unconverged
        rw [result] at ok
        cases ok
        rw [unconverged]
        rfl

/-- Both ways through the checks of an inversion. -/
theorem attempt?_cases (s : Session k σ) (rhs : Field k) :
    (s.attempt? rhs = none ∧ (∃ e, (s.invert rhs).answer = .error e) ∧
        (s.invert rhs).session.stage = s.stage) ∨
      ∃ r b, s.stage = .ready r ∧
        s.attempt? rhs = some ⟨r.handle, { r.rhs with entries := b.toArray }, r.solution,
          s.workspace.measure .packing⟩ ∧
        s.readyFor rhs = .ok r ∧ rhs.toVector r.rhs.size = .ok b := by
  unfold attempt? invert
  cases ready : s.readyFor rhs with
  | error e => exact Or.inl ⟨rfl, ⟨_, rfl⟩, rfl⟩
  | ok r =>
      dsimp only
      cases packed : rhs.toVector r.rhs.size with
      | error e =>
          refine Or.inl ⟨rfl, ⟨.error e, ?_⟩, ?_⟩ <;>
            (unfold solve; rw [packed]; rfl)
      | ok b => exact Or.inr ⟨r, b, stage_of_readyFor ready, rfl, rfl, packed⟩

theorem invert_of_attempt {s : Session k σ} {rhs : Field k}
    {a : Handle.Attempt Mesh (Workspace k σ)} (h : s.attempt? rhs = some a) :
    s.handle? = some a.handle ∧ Passes a.outcome (s.invert rhs) := by
  rcases s.attempt?_cases rhs with ⟨none, -⟩ | ⟨r, b, ready, some, readyFor, packed⟩
  · rw [none] at h
    cases h
  · obtain rfl := Option.some.inj (some.symm.trans h)
    have before : s.handle? = Option.some r.handle := by
      unfold handle?
      rw [ready]
    obtain ⟨handle, failed, unconverged⟩ := s.solve_passes r packed
    unfold invert
    rw [readyFor]
    dsimp only
    refine ⟨before, (handle?_congr (Outcome.stage_measure _ _)).trans handle, ?_, ?_⟩
    · intro e result
      exact (Outcome.answer_measure _ _).trans (failed e result)
    · intro reason result other
      exact (Outcome.answer_measure _ _).trans (unconverged reason result other)

theorem last?_of_handle? {s : Session k σ} {h : Handle Mesh (Workspace k σ)}
    (handle : s.handle? = some h) : s.last? = h.last := by
  unfold last?
  rw [handle]
  rfl

/-- An inversion takes the record of the solve that it reaches. -/
theorem last?_invert (s : Session k σ) (rhs : Field k) :
    (s.invert rhs).session.last? =
      ((s.attempt? rhs).bind Handle.Attempt.record?).or s.last? := by
  cases reached : s.attempt? rhs with
  | none =>
      rcases s.attempt?_cases rhs with ⟨-, -, stage⟩ | ⟨r, b, -, some, -⟩
      · exact last?_congr stage
      · rw [some] at reached
        cases reached
  | some a =>
      obtain ⟨before, passes⟩ := invert_of_attempt reached
      rw [last?_of_handle? passes.handle, last?_of_handle? before]
      exact a.recorded.last

/-- A setup begins without a record. -/
theorem last?_setup (s : Session k σ) : s.setup.session.last? = s.last? := by
  cases stage : s.stage with
  | ready r => rw [setup_of_ready stage]; rfl
  | destroyed size => rw [setup_of_destroyed stage]; rfl
  | fresh =>
      cases built : s.build with
      | error e => rw [setup_of_build_error stage built]
      | ok made =>
          obtain ⟨r, log⟩ := made
          obtain ⟨settings, -, rfl, -⟩ := build_ok built
          have fresh : s.last? = none := by
            unfold last? handle?
            rw [stage]
            rfl
          rw [setup_of_build stage built, fresh]
          rfl

theorem last?_after (s : Session k σ) {call : Call k σ} (lives : call ≠ .destroy) :
    (s.after call).last? =
      ((call.inverted?.bind s.attempt?).bind Handle.Attempt.record?).or s.last? := by
  cases inverts : call.inverted? with
  | some rhs => exact (last?_congr (s.after_inverted inverts).2).trans (s.last?_invert rhs)
  | none =>
      cases call with
      | setup => exact s.last?_setup
      | destroy => exact absurd rfl lives
      | invert f => cases inverts
      | verify f tolerance => cases inverts
      | _ => rfl

theorem destroy_stage (s : Session k σ) : ∃ size, s.destroy.1.stage = .destroyed size := by
  unfold destroy
  cases stage : s.stage with
  | fresh => exact ⟨none, rfl⟩
  | ready r => exact ⟨some r.size, rfl⟩
  | destroyed size => exact ⟨size, stage⟩

/-- As long as the session is ready, its record is that of the last solve with a verdict. -/
theorem last?_afterAll (calls : List (Call k σ)) {s : Session k σ} {r : Ready k σ}
    (ready : (s.afterAll calls).stage = .ready r) :
    (s.afterAll calls).last? =
      ((s.attempts calls).filterMap Handle.Attempt.record?).getLast?.or s.last? := by
  induction calls generalizing s with
  | nil => rfl
  | cons call calls ih =>
      have lives : call ≠ .destroy := by
        rintro rfl
        obtain ⟨size, gone⟩ := s.destroy_stage
        have stays := afterAll_destroyed calls (s := s.after .destroy) gone
        exact absurd (stays.symm.trans ready) (by simp)
      show ((s.after call).afterAll calls).last? = _
      rw [ih ready, s.last?_after lives]
      exact (getLast?_filterMap_append _ _ _ _).symm

theorem last?_of_not_ready {s : Session k σ} (h : ∀ r, s.stage ≠ .ready r) : s.last? = none := by
  unfold last? handle?
  cases stage : s.stage with
  | ready r => exact absurd stage (h r)
  | fresh => rfl
  | destroyed size => rfl

/-- **Records outlive failures.**  After any calls on a handle, its record is that of the last solve
that ended with a verdict.  So a positive reason is what that solve answered, while every solve
since has failed, and the record is of the last solve that was made only if that one had a
verdict, or none has had one.  The record of a session tells the same about the solves that its
inversions and verifications reach, for as long as the session is ready; an inversion that reaches
none is refused and keeps the record. -/
theorem solves_remembered {γ τ : Type} (comm : Communicator) (calls : List (Handle.Call γ τ))
    {s : Session k σ} (fresh : s.stage = .fresh) (sessionCalls : List (Call k σ)) :
    (let h : Handle γ τ := (Handle.create comm).afterAll calls
     let solves := (Handle.create comm).attempts calls
     Handle.Remembers h.last solves ∧
      (h.reason.isConverged = true → ∃ before a after, solves = before ++ a :: after ∧
        a.outcome.result = .ok h.reason ∧ ∀ a' ∈ after, a'.Fails)) ∧
    let t := s.afterAll sessionCalls
    (∀ r, t.stage = .ready r → Handle.Remembers t.last? (s.attempts sessionCalls)) ∧
      ((∀ r, t.stage ≠ .ready r) → t.last? = none) ∧
      ∀ rhs, (∀ a, t.attempt? rhs = some a →
          t.handle? = some a.handle ∧ Passes a.outcome (t.invert rhs)) ∧
        (t.attempt? rhs = none →
          (∃ e, (t.invert rhs).answer = .error e) ∧ (t.invert rhs).session.last? = t.last?) := by
  refine ⟨⟨?_, ?_⟩, ?_, last?_of_not_ready, ?_⟩
  · exact Handle.remembers_create comm calls
  · intro converged
    have remembers := Handle.remembers_create comm calls (γ := γ) (σ := τ)
    unfold Handle.reason at converged ⊢
    cases last : ((Handle.create comm : Handle γ τ).afterAll calls).last with
    | none =>
        rw [last] at converged
        cases converged
    | some stats =>
        obtain ⟨before, a, after, solves, verdict, -, later⟩ := remembers.held stats last
        exact ⟨before, a, after, solves, verdict, later⟩
  · intro r ready
    have none : s.last? = none := last?_of_not_ready fun r ready => by
      rw [fresh] at ready
      cases ready
    refine .of_last ?_
    rw [last?_afterAll sessionCalls ready, none, Option.or_none]
  · intro rhs
    refine ⟨fun a => invert_of_attempt, fun unreached => ?_⟩
    rcases (s.afterAll sessionCalls).attempt?_cases rhs with ⟨-, refused, stage⟩ | ⟨r, b, -, some, -⟩
    · exact ⟨refused, last?_congr stage⟩
    · rw [unreached] at some
      cases some

/-- A solve and an inversion with the identity, and then one that the operator fails. -/
theorem solves_remembered_identity :
    let op (rule : Operators.Flat) : Shell Unit Nat :=
      ⟨.serial, 1, 1, (), some (Operators.Flat.multiply (.always rule) 1)⟩
    let q : Handle.Request Nat := ⟨⟨#[1.0], 1⟩, ⟨#[0.0], 1⟩, 0⟩
    let calls : List (Handle.Call Unit Nat) :=
      [.setOperator (op .identity), .solve q, .setOperator (op (.fails (.wrongState "no"))), .solve q]
    let h := (Handle.create .serial).afterAll calls
    let mesh := Mesh.serial 0 2 1 1
    let s : Session .volume Nat := create mesh none 0
    let rhs : Field .volume := .ofVector mesh #v[2.0, 4.0]
    let sessionCalls : List (Call .volume Nat) := [.setup, .invert rhs,
      .withFunction (Operators.OnField.function (.always .unallocated)) 0, .invert rhs]
    let t := s.afterAll sessionCalls
    s.stage = .fresh ∧
      (h.reason = .relative ∧ ∃ before a after,
        (Handle.create .serial).attempts calls = before ++ a :: after ∧
          a.outcome.result = .ok .relative ∧ ∀ a' ∈ after, a'.Fails) ∧
      t.last?.map Stats.reason = some .relative ∧ ∃ before a after,
        s.attempts sessionCalls = before ++ a :: after ∧
          a.outcome.result = .ok .relative ∧ ∀ a' ∈ after, a'.Fails := by
  intro op q calls h mesh s rhs sessionCalls t
  have relative : h.reason = .relative := by decide +kernel
  have told : t.last?.map Stats.reason = some .relative := by decide +kernel
  obtain ⟨⟨-, positive⟩, remembers, gone, -⟩ :=
    solves_remembered .serial calls (s := s) rfl sessionCalls
  have converged : h.reason.isConverged = true := by
    rw [relative]
    rfl
  obtain ⟨stats, last, reason⟩ := Option.map_eq_some_iff.mp told
  have ready : ∃ r, t.stage = .ready r := by
    by_contra none
    have nothing := gone fun r ready => none ⟨r, ready⟩
    cases nothing.symm.trans last
  obtain ⟨r, ready⟩ := ready
  obtain ⟨before, a, after, solves, verdict, -, later⟩ := (remembers r ready).held stats last
  rw [reason] at verdict
  have first := positive converged
  exact ⟨rfl, ⟨relative, relative ▸ first⟩, told, before, a, after, solves, verdict, later⟩

/-- A handle whose last solve failed in the operator, and a session whose last inversion did, tell
of convergence. -/
theorem record_outlives_failure :
    let op (rule : Operators.Flat) : Shell Unit Nat :=
      ⟨.serial, 1, 1, (), some (Operators.Flat.multiply (.always rule) 1)⟩
    let q : Handle.Request Nat := ⟨⟨#[1.0], 1⟩, ⟨#[0.0], 1⟩, 0⟩
    let h : Handle Unit Nat := (Handle.create .serial).afterAll
      [.setOperator (op .identity), .solve q, .setOperator (op (.fails (.wrongState "no")))]
    let out := h.solve q.rhs q.solution q.memory
    let mesh := Mesh.serial 0 2 1 1
    let rhs : Field .volume := .ofVector mesh #v[2.0, 4.0]
    let t : Session .volume Nat := (create mesh none 0).afterAll [.setup, .invert rhs,
      .withFunction (Operators.OnField.function (.always .unallocated)) 0]
    (out.result = .error (.error (.wrongState "no")) ∧ out.handle.reason = .relative ∧
        out.handle.reason.isConverged = true ∧ out.handle.iterations = 1) ∧
      ((t.invert rhs).answer.map fun _ => ()) = .error (.error .unallocated) ∧
      ((t.invert rhs).session.last?.map fun s => (s.iterations, s.reason)) =
        some (1, .relative) := by
  decide +kernel

end Session

end MatrixFree
