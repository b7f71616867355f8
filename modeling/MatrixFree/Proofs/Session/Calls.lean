import MatrixFree.Proofs.Engine.Solve
import MatrixFree.Proofs.Session.Setup

/-!
# Calls on a session

A session keeps its mesh for life.  A setup makes it ready, and from then on no call but
`destroy` takes that away (`Session.after_ready`): the calls that solve change only the
record of the last solve and the entries of the two vectors.  So whatever was called since,
a session that is ready still has the operator and the settings that its setup gave it
(`Session.ready_afterAll`).
-/

namespace MatrixFree

open Grid Engine Options

variable {k : Kind} {σ : Type}

/-- `r'` is `r`, but for what solves change. -/
structure Ready.Continues (r r' : Ready k σ) : Prop where
  handle : r.handle.Resumes r'.handle
  rhs : r'.rhs.size = r.rhs.size
  solution : r'.solution.size = r.solution.size
  size : r'.size = r.size

theorem Ready.Continues.refl (r : Ready k σ) : r.Continues r := ⟨.refl _, rfl, rfl, rfl⟩

theorem Ready.Continues.trans {r r' r'' : Ready k σ} (first : r.Continues r')
    (second : r'.Continues r'') : r.Continues r'' where
  handle := first.handle.trans second.handle
  rhs := second.rhs.trans first.rhs
  solution := second.solution.trans first.solution
  size := second.size.trans first.size

/-- The handle of a session that has been ready since its setup, but for the record. -/
theorem Ready.Continues.handle_eq {mesh : Mesh} {scope : String} {settings : Settings}
    {r : Ready k σ} (h : (Ready.initial mesh scope settings).Continues r) :
    r.handle = { meshHandle k σ mesh scope settings with last := r.handle.last } := by
  obtain ⟨ready, last, kept, set⟩ := h.handle
  have on : ready = true := by
    rcases set with rfl | ⟨on, -⟩
    · rfl
    · exact on
  rw [kept, on]
  rfl

/-- The solution that the next run starts from, if the guess is kept. -/
theorem Ready.Continues.previous {mesh : Mesh} {scope : String} {settings : Settings}
    {r : Ready k σ} (h : (Ready.initial mesh scope settings).Continues r) :
    ∃ x : Vector Float (k.count mesh), r.solution.entries = x.toArray :=
  ⟨⟨r.solution.entries, h.solution.trans Array.size_replicate⟩, rfl⟩

namespace Session

/-! ## What one call changes -/

/-- Solving keeps the mesh, and continues what the session has. -/
theorem solve_frame {s : Session k σ} {r : Ready k σ} (ready : s.stage = .ready r) (rhs : Field k) :
    (s.solve r rhs).session.mesh = s.mesh ∧
      ∃ r', (s.solve r rhs).session.stage = .ready r' ∧ r.Continues r' := by
  unfold solve
  cases packed : rhs.toVector r.rhs.size with
  | error e => exact ⟨rfl, r, ready, .refl r⟩
  | ok b =>
      dsimp only
      obtain ⟨resumed, size⟩ := r.handle.solve_frame { r.rhs with entries := b.toArray } r.solution
        (s.workspace.measure .packing)
      have continued : r.Continues
          { r with
            handle := (r.handle.solve { r.rhs with entries := b.toArray } r.solution
              (s.workspace.measure .packing)).handle
            rhs := { r.rhs with entries := b.toArray }
            solution := (r.handle.solve { r.rhs with entries := b.toArray } r.solution
              (s.workspace.measure .packing)).solution } :=
        ⟨resumed, b.size_toArray, size, rfl⟩
      -- The vectors and the handle are put back before the result is looked at.
      split
      · exact ⟨rfl, _, rfl, continued⟩
      · unfold unpack
        split
        · split
          · exact ⟨rfl, _, rfl, continued⟩
          · exact ⟨rfl, _, rfl, continued⟩
        · exact ⟨rfl, _, rfl, continued⟩

theorem readyFor_of_ready {s : Session k σ} {r : Ready k σ} (ready : s.stage = .ready r)
    (f : Field k) :
    s.readyFor f = if f.mesh = s.mesh then .ok r else .error .meshMismatch := by
  unfold readyFor
  rw [ready]

theorem readyFor_of_fresh {s : Session k σ} (fresh : s.stage = .fresh) (f : Field k) :
    s.readyFor f = .error .useBeforeSetup := by
  unfold readyFor
  rw [fresh]

theorem readyFor_of_destroyed {s : Session k σ} {size : Option Nat}
    (gone : s.stage = .destroyed size) (f : Field k) : s.readyFor f = .error .useAfterDestroy := by
  unfold readyFor
  rw [gone]

theorem stage_of_readyFor {s : Session k σ} {rhs : Field k} {r : Ready k σ}
    (h : s.readyFor rhs = .ok r) : s.stage = .ready r := by
  unfold readyFor at h
  split at h
  · cases h
  · cases h
  · next r' ready =>
      split at h
      · rw [ready, Except.ok.inj h]
      · cases h

/-- An inversion of a field that the session is not ready for changes nothing. -/
theorem invert_of_not_readyFor {s : Session k σ} {rhs : Field k} {e : SessionError}
    (h : s.readyFor rhs = .error e) : s.invert rhs = s.refuse e := by
  unfold invert
  rw [h]

/-- What a session answers about its solver depends on the stage alone. -/
theorem handle?_congr {s t : Session k σ} (stage : t.stage = s.stage) : t.handle? = s.handle? := by
  unfold handle?
  rw [stage]

theorem last?_congr {s t : Session k σ} (stage : t.stage = s.stage) : t.last? = s.last? := by
  unfold last?
  rw [handle?_congr stage]

theorem invert_mesh (s : Session k σ) (rhs : Field k) : (s.invert rhs).session.mesh = s.mesh := by
  unfold invert readyFor
  cases ready : s.stage with
  | fresh => rfl
  | destroyed size => rfl
  | ready r =>
      by_cases mesh : rhs.mesh = s.mesh
      · simp only [if_pos mesh, Outcome.mesh_measure]
        exact (solve_frame ready rhs).1
      · simp only [if_neg mesh]
        rfl

theorem invert_ready {s : Session k σ} {r : Ready k σ} (ready : s.stage = .ready r)
    (rhs : Field k) :
    ∃ r', (s.invert rhs).session.stage = .ready r' ∧ r.Continues r' := by
  unfold invert
  rw [readyFor_of_ready ready]
  by_cases mesh : rhs.mesh = s.mesh
  · simp only [if_pos mesh, Outcome.stage_measure]
    exact (solve_frame ready rhs).2
  · rw [if_neg mesh]
    exact ⟨r, ready, .refl r⟩

/-- What a verification does after its inversion leaves mesh and stage alone. -/
theorem verify_frame (s : Session k σ) (rhs : Field k) (tolerance : Float) :
    (s.verify rhs tolerance).session.mesh = (s.invert rhs).session.mesh ∧
      (s.verify rhs tolerance).session.stage = (s.invert rhs).session.stage := by
  unfold verify
  rcases s.invert rhs with ⟨answer, s', log⟩
  cases answer with
  | error e => exact ⟨rfl, rfl⟩
  | ok x =>
      dsimp only [apply, Workspace.apply]
      rcases s'.workspace.adapter.apply x with ⟨image, adapter⟩
      cases image with
      | error fault => exact ⟨rfl, rfl⟩
      | ok y =>
          dsimp only
          split
          · exact ⟨rfl, rfl⟩
          · split <;> exact ⟨rfl, rfl⟩

/-! ## Calls in any order -/

/-- The calls on a session. -/
inductive Call (k : Kind) (σ : Type) where
  | withFunction (function : FieldOperator k σ) (memory : σ)
  | withScope (scope : String)
  | withOptions (options : Database)
  | setup
  | invert (rhs : Field k)
  | verify (rhs : Field k) (tolerance : Float)
  | apply (f : Field k)
  | report
  | destroy

/-- The session after a call. -/
def after (s : Session k σ) : Call k σ → Session k σ
  | .withFunction function memory => s.withFunction function memory
  | .withScope scope => s.withScope scope
  | .withOptions options => s.withOptions options
  | .setup => s.setup.session
  | .invert rhs => (s.invert rhs).session
  | .verify rhs tolerance => (s.verify rhs tolerance).session
  | .apply f => (s.apply f).2
  | .report => s.report.2
  | .destroy => s.destroy.1

/-- The session after some calls, one after the other. -/
def afterAll (s : Session k σ) (calls : List (Call k σ)) : Session k σ := calls.foldl after s

theorem setup_mesh (s : Session k σ) : s.setup.session.mesh = s.mesh := by
  unfold setup
  split
  · rfl
  · rfl
  · split <;> rfl

theorem destroy_mesh (s : Session k σ) : s.destroy.1.mesh = s.mesh := by
  unfold destroy
  split <;> rfl

theorem after_mesh (s : Session k σ) (call : Call k σ) : (s.after call).mesh = s.mesh := by
  cases call with
  | withFunction function memory => rfl
  | withScope scope => rfl
  | withOptions options => rfl
  | setup => exact s.setup_mesh
  | invert rhs => exact s.invert_mesh rhs
  | verify rhs tolerance => exact (s.verify_frame rhs tolerance).1.trans (s.invert_mesh rhs)
  | apply f => rfl
  | report => rfl
  | destroy => exact s.destroy_mesh

/-- One call on a ready session. -/
theorem after_ready {s : Session k σ} {r : Ready k σ} (ready : s.stage = .ready r)
    (call : Call k σ) :
    (∃ r', (s.after call).stage = .ready r' ∧ r.Continues r') ∨
      call = .destroy ∧ (s.after call).stage = .destroyed (some r.size) := by
  cases call with
  | withFunction function memory => exact Or.inl ⟨r, ready, .refl r⟩
  | withScope scope => exact Or.inl ⟨r, ready, .refl r⟩
  | withOptions options => exact Or.inl ⟨r, ready, .refl r⟩
  | setup =>
      refine Or.inl ⟨r, ?_, .refl r⟩
      unfold after
      rw [setup_of_ready ready]
      exact ready
  | invert rhs => exact Or.inl (invert_ready ready rhs)
  | verify rhs tolerance =>
      obtain ⟨r', ready', continued⟩ := invert_ready ready rhs
      exact Or.inl ⟨r', (s.verify_frame rhs tolerance).2.trans ready', continued⟩
  | apply f => exact Or.inl ⟨r, ready, .refl r⟩
  | report => exact Or.inl ⟨r, ready, .refl r⟩
  | destroy =>
      refine Or.inr ⟨rfl, ?_⟩
      unfold after destroy
      rw [ready]

/-- No call brings a destroyed session back. -/
theorem after_destroyed {s : Session k σ} {size : Option Nat} (gone : s.stage = .destroyed size)
    (call : Call k σ) : (s.after call).stage = .destroyed size := by
  have refused (rhs : Field k) : s.invert rhs = s.refuse .useAfterDestroy :=
    invert_of_not_readyFor (readyFor_of_destroyed gone rhs)
  cases call with
  | withFunction function memory => exact gone
  | withScope scope => exact gone
  | withOptions options => exact gone
  | setup =>
      unfold after
      rw [setup_of_destroyed gone]
      exact gone
  | invert rhs =>
      show (s.invert rhs).session.stage = _
      rw [refused rhs]
      exact gone
  | verify rhs tolerance =>
      refine (s.verify_frame rhs tolerance).2.trans ?_
      rw [refused rhs]
      exact gone
  | apply f => exact gone
  | report => exact gone
  | destroy =>
      unfold after destroy
      simp only [gone]

theorem afterAll_mesh (calls : List (Call k σ)) (s : Session k σ) :
    (s.afterAll calls).mesh = s.mesh := by
  induction calls generalizing s with
  | nil => rfl
  | cons call calls ih => exact (ih (s.after call)).trans (s.after_mesh call)

theorem afterAll_destroyed {size : Option Nat} (calls : List (Call k σ)) {s : Session k σ}
    (gone : s.stage = .destroyed size) : (s.afterAll calls).stage = .destroyed size := by
  induction calls generalizing s with
  | nil => exact gone
  | cons call calls ih => exact ih (after_destroyed gone call)

/-- A session that is ready after some calls has been ready all along. -/
theorem continues_afterAll (calls : List (Call k σ)) {s : Session k σ} {r r' : Ready k σ}
    (ready : s.stage = .ready r) (ready' : (s.afterAll calls).stage = .ready r') :
    r.Continues r' := by
  induction calls generalizing s r with
  | nil =>
      obtain rfl : r = r' := Stage.ready.inj (ready.symm.trans ready')
      exact .refl r
  | cons call calls ih =>
      rcases after_ready ready call with ⟨r₁, ready₁, first⟩ | ⟨-, gone⟩
      · exact first.trans (ih ready₁ ready')
      · exact absurd ((afterAll_destroyed calls gone).symm.trans ready') (by simp)

/-! ## Sessions that are set up -/

/-- A session that is ready after a setup and some calls. -/
theorem ready_afterAll {s : Session k σ} {n : Nat} (setUp : s.setup.answer = .ok n)
    (calls : List (Call k σ)) {r : Ready k σ}
    (ready : (s.setup.session.afterAll calls).stage = .ready r) :
    ∃ settings, Settings.default.apply s.options s.scope = (.ok (), settings) ∧
      (Ready.initial s.mesh s.scope settings).Continues r := by
  obtain ⟨-, r₀, log, built, -, made⟩ := setup_ok setUp
  obtain ⟨settings, read, rfl, -⟩ := build_ok built
  refine ⟨settings, read, continues_afterAll calls ?_ ready⟩
  rw [made]
  rfl

end Session

end MatrixFree
