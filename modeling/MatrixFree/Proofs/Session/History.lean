import MatrixFree.Operators.Flat
import MatrixFree.Proofs.Session.Invert
import MatrixFree.Proofs.Session.Multiply

/-!
# Solves without a past

A session keeps two vectors, a handle with its last record, and an adapter from one
inversion to the next, and an inversion that fails leaves them wherever it stopped.  None of
that is read again.  Unless the settings keep the guess, two sessions that were set up alike
answer alike, as long as the same operator without memory is in use in both
(`Session.invert_alike`).  So a used session answers what a new one would
(`Session.invert_forgets`), and the same goes for a handle (`Handle.solve_forgets`).
-/

namespace MatrixFree

open Grid Engine Options Krylov

variable {k : Kind} {σ : Type}

/-- What the operator answers does not depend on its memory. -/
def FieldOperator.Stateless (f : FieldOperator k σ) : Prop :=
  ∀ x memory memory', (f x memory).1 = (f x memory').1

theorem Krylov.Action.Stateless.mirrors {ε α : Type} {n : Nat} {A : Action σ ε α n}
    (h : A.Stateless) : A.Mirrors (fun _ _ => True) A :=
  fun x y memory memory' _ => ⟨h x.toArray y memory memory', trivial⟩

/-! ## The multiply of a session -/

/-- Both sessions have the operator in use. -/
def Workspace.Share (f : FieldOperator k σ) (w w' : Workspace k σ) : Prop :=
  w.adapter.function = f ∧ w'.adapter.function = f

theorem Workspace.adapter_eq {f : FieldOperator k σ} {w : Workspace k σ}
    (inUse : w.adapter.function = f) : w.adapter = ⟨f, w.adapter.memory⟩ := by
  rw [← inUse]

/-- Without a memory of the operator, the multiplies of two sessions on a mesh answer alike. -/
theorem meshShell_mirrors {f : FieldOperator k σ} (stateless : f.Stateless) (mesh : Mesh) :
    (meshShell k σ mesh).apply.Mirrors (Workspace.Share f) (meshShell k σ mesh).apply := by
  intro (x : Vector Float (k.count mesh)) (y : Vector Float (k.count mesh)) w w' shared
  show ((meshShell k σ mesh).apply x.toArray y w).1 =
      ((meshShell k σ mesh).apply x.toArray y w').1 ∧
    Workspace.Share f ((meshShell k σ mesh).apply x.toArray y w).2
      ((meshShell k σ mesh).apply x.toArray y w').2
  cases listed : k.reserveIndices mesh with
  | error fault =>
      rw [meshShell_of_full x y listed, meshShell_of_full x y listed]
      exact ⟨rfl, shared⟩
  | ok _ =>
      obtain ⟨v, multiplied, adapter⟩ :=
        meshShell_of_room x y listed (Workspace.adapter_eq shared.1)
      obtain ⟨v', multiplied', adapter'⟩ :=
        meshShell_of_room x y listed (Workspace.adapter_eq shared.2)
      rw [multiplied, multiplied', stateless _ w.adapter.memory w'.adapter.memory]
      exact ⟨rfl, congrArg Adapter.function adapter, congrArg Adapter.function adapter'⟩

/-- No multiply of a session fails like a solve without convergence. -/
theorem meshShell_failsOnly (mesh : Mesh) :
    (meshShell k σ mesh).apply.FailsOnly
      fun e => ∀ code, Session.ofSolveFailure e ≠ .error (.notConverged code) := by
  intro (x : Vector Float (k.count mesh)) (y : Vector Float (k.count mesh)) w e failed
  change ((meshShell k σ mesh).apply x.toArray y w).1 = .error e at failed
  intro code
  cases listed : k.reserveIndices mesh with
  | error fault =>
      rw [meshShell_of_full x y listed] at failed
      cases failed
      exact nofun
  | ok _ =>
      have inUse := Workspace.adapter_eq (w := w) rfl
      obtain ⟨w', multiplied, -⟩ := meshShell_of_room x y listed inUse
      rw [multiplied] at failed
      by_cases here : Answer.AtHome mesh
          (w.adapter.function (Field.ofVector mesh x) w.adapter.memory).1
      · obtain ⟨v, packed⟩ := Answer.pack_of_atHome here
        cases packed.symm.trans failed
      · cases (Answer.pack_of_not_atHome here).symm.trans failed
        rw [Session.ofSolveFailure_inMultiply]
        exact Answer.stray_ne_notConverged code

/-! ## Two sessions -/

namespace Session

/-- Two inversions that a caller cannot tell apart: one answer, and one record of the solve
when that is a field or tells that the solve did not converge. -/
structure Alike (out out' : Outcome k σ (Field k)) : Prop where
  answer : out.answer = out'.answer
  last : (∃ x, out.answer = .ok x) ∨ (∃ code, out.answer = .error (.error (.notConverged code))) →
    out.session.last? = out'.session.last?

theorem Reports.alike {f : FieldOperator k σ} (stateless : f.Stateless) {mesh : Mesh}
    {settings : Settings} {b guess : Vector Float (k.count mesh)} {w w' : Workspace k σ}
    (shared : Workspace.Share f w w') {out out' : Outcome k σ (Field k)}
    (h : Reports mesh (runOver settings b guess w) out)
    (h' : Reports mesh (runOver settings b guess w') out') : Alike out out' := by
  have mirrors : (runOver settings b guess w).Mirrors (Workspace.Share f)
      (runOver settings b guess w') :=
    runSolver_mirrors (meshShell_mirrors stateless mesh) settings b guess shared
  refine ⟨?_, ?_⟩
  · rw [h.answer, h'.answer]
    unfold answerOf
    rw [mirrors.result, mirrors.solution]
  · intro verdict
    cases result : (runOver settings b guess w).result with
    | ok stats => rw [h.last stats result, h'.last stats (mirrors.result.symm.trans result)]
    | error e =>
        -- A run that fails leaves the records as they were, so it must not be taken for a verdict.
        have failure : out.answer = .error (ofSolveFailure e) :=
          h.answer.trans (answerOf_error result)
        have other : ∀ code, ofSolveFailure e ≠ .error (.notConverged code) :=
          runSolver_failsOnly (meshShell_failsOnly mesh) (by simp [ofSolveFailure]) result
        rcases verdict with ⟨x, ok⟩ | ⟨code, unconverged⟩
        · rw [failure] at ok
          cases ok
        · rw [failure] at unconverged
          exact absurd (Except.error.inj unconverged) (other code)

theorem Alike.of_refused {out out' : Outcome k σ (Field k)} {e : SessionError}
    (h : out.answer = .error (.error e)) (h' : out'.answer = .error (.error e))
    (other : ∀ code, e ≠ .notConverged code) : Alike out out' := by
  refine ⟨h.trans h'.symm, ?_⟩
  rintro (⟨x, ok⟩ | ⟨code, unconverged⟩)
  · rw [h] at ok
    cases ok
  · rw [h] at unconverged
    exact absurd (Failure.error.inj (Except.error.inj unconverged)) (other code)

/-- Two sessions on a mesh that were set up alike, with the same operator in use. -/
theorem invert_alike {t u : Session k σ} (mesh : u.mesh = t.mesh) {scope : String}
    {settings : Settings} (off : settings.keepGuess = false) {r r' : Ready k σ}
    (ready : t.stage = .ready r) (ready' : u.stage = .ready r')
    (continued : (Ready.initial t.mesh scope settings).Continues r)
    (continued' : (Ready.initial t.mesh scope settings).Continues r') {f : FieldOperator k σ}
    (stateless : f.Stateless) (shared : Workspace.Share f t.workspace u.workspace)
    (rhs : Field k) : Alike (t.invert rhs) (u.invert rhs) := by
  -- The lengths of the vectors depend on the mesh, so the two meshes have to be one first.
  obtain ⟨mesh', workspace, scope', options, stage⟩ := u
  obtain rfl : mesh' = t.mesh := mesh
  by_cases home : rhs.mesh = t.mesh
  · by_cases allocated : rhs.isAllocated = true
    · obtain ⟨b, packed⟩ := Field.exists_toVector home allocated
      obtain ⟨previous, entries⟩ := continued.previous
      obtain ⟨previous', entries'⟩ := continued'.previous
      have run := invert_run ready continued home packed entries
      have run' := invert_run ready' continued' home packed entries'
      rw [off, if_neg Bool.false_ne_true] at run run'
      have measured : Workspace.Share f (t.workspace.measure .packing)
          (workspace.measure .packing) := shared
      exact run.alike stateless measured run'
    · have unallocated := eq_false_of_ne_true allocated
      exact .of_refused (congrArg Outcome.answer (invert_unallocated ready home unallocated))
        (congrArg Outcome.answer (invert_unallocated ready' home unallocated)) nofun
  · exact .of_refused (congrArg Outcome.answer (invert_foreign ready home))
      (congrArg Outcome.answer (invert_foreign ready' home)) nofun

/-- A session that is set up inverts like one that was created just now, whatever was called on it
since. -/
theorem invert_forgets {s : Session k σ} {n : Nat} (setUp : s.setup.answer = .ok n)
    {settings : Settings} (read : Settings.default.apply s.options s.scope = (.ok (), settings))
    (off : settings.keepGuess = false) (calls : List (Call k σ)) {r : Ready k σ}
    (ready : (s.setup.session.afterAll calls).stage = .ready r) {f : FieldOperator k σ}
    (inUse : (s.setup.session.afterAll calls).workspace.adapter.function = f)
    (stateless : f.Stateless) (line : Option String) (memory : σ) (rhs : Field k) :
    let new := (((create s.mesh line memory).withFunction f memory).withScope s.scope).withOptions
      s.options
    new.setup.answer = .ok n ∧
      Alike ((s.setup.session.afterAll calls).invert rhs) (new.setup.session.invert rhs) := by
  intro new
  obtain ⟨-, r₀, log, built, size, -⟩ := setup_ok setUp
  have built' : new.build = .ok (r₀, log) := (build_congr rfl rfl rfl).trans built
  have made := setup_of_build (s := new) rfl built'
  obtain ⟨settings', read', continued⟩ := ready_afterAll setUp calls ready
  obtain rfl : settings = settings' := congrArg Prod.snd (read.symm.trans read')
  obtain ⟨settings', read', initial, -⟩ := build_ok built
  obtain rfl : settings = settings' := congrArg Prod.snd (read.symm.trans read')
  have mesh : (s.setup.session.afterAll calls).mesh = s.mesh := by
    rw [afterAll_mesh, setup_mesh]
  rw [← mesh] at continued initial
  have initial' : (Ready.initial (s.setup.session.afterAll calls).mesh s.scope settings).Continues
      r₀ := by
    rw [initial]
    exact .refl _
  rw [made]
  exact ⟨congrArg Except.ok size,
    invert_alike (u := Session.measure { new with stage := .ready r₀ } .setup) mesh.symm off ready
      rfl continued initial' stateless ⟨inUse, rfl⟩ rhs⟩

end Session

/-! ## Two handles -/

/-- A handle solves as if it were its first time, whatever the solution vector holds. -/
theorem Engine.Handle.solve_forgets {γ τ : Type} {h : Handle γ τ}
    (off : h.settings.keepGuess = false)
    (stateless : ∀ op, h.operator = some op → op.apply.Stateless)
    (past : List (Handle.Request τ)) (b : Slice) {x x' : Slice} (size : x'.size = x.size)
    (memory memory' : τ) :
    Handle.Outcome.Agree (fun _ _ => True) (h.solve b x memory)
      ((h.afterSolves past).solve b x' memory') :=
  Handle.solve_agree (Handle.resumes_afterSolves past h) off
    (fun op bound => (stateless op bound).mirrors) b size trivial

/-- **Solves have no past.**  Unless the guess is kept, an inversion under an operator
without memory answers what a session set up just now would answer, and a solve with a
handle what it would have answered first. -/
theorem solves_forget :
    (∀ {k : Kind} {σ : Type} {s : Session k σ} {n : Nat}, s.setup.answer = .ok n →
      ∀ {settings : Settings}, Settings.default.apply s.options s.scope = (.ok (), settings) →
      settings.keepGuess = false →
      ∀ (calls : List (Session.Call k σ)) {r : Ready k σ},
      (s.setup.session.afterAll calls).stage = .ready r →
      ∀ {f : FieldOperator k σ}, (s.setup.session.afterAll calls).workspace.adapter.function = f →
      f.Stateless → ∀ (line : Option String) (memory : σ) (rhs : Field k),
        let new := (((Session.create s.mesh line memory).withFunction f memory).withScope
          s.scope).withOptions s.options
        new.setup.answer = .ok n ∧
          Session.Alike ((s.setup.session.afterAll calls).invert rhs)
            (new.setup.session.invert rhs)) ∧
    ∀ {γ τ : Type} {h : Handle γ τ}, h.settings.keepGuess = false →
      (∀ op, h.operator = some op → op.apply.Stateless) →
      ∀ (past : List (Handle.Request τ)) (b : Slice) {x x' : Slice}, x'.size = x.size →
      ∀ memory memory', Handle.Outcome.Agree (fun _ _ => True) (h.solve b x memory)
        ((h.afterSolves past).solve b x' memory') :=
  ⟨Session.invert_forgets, Handle.solve_forgets⟩

/-- Doubling, after an inversion under the identity, and the same on flat vectors after a solve. -/
theorem solves_forget_doubling :
    let mesh := Mesh.serial 0 2 1 1
    let f : FieldOperator .volume Nat := fun x count =>
      (.ok { x with values := x.values.map fun xs => xs.map (2.0 * ·) }, count + 1)
    let s : Session .volume Nat := Session.create mesh none 0
    let rhs : Field .volume := .ofVector mesh #v[2.0, 4.0]
    let used := s.setup.session.afterAll [.invert rhs, .withFunction f 0]
    let new := (((Session.create s.mesh none 7).withFunction f 7).withScope s.scope).withOptions
      s.options
    let op : Shell Unit Nat := ⟨.serial, 2, 2, (),
      some (Operators.Flat.multiply (.always (.rule (.scale 2.0))) 2)⟩
    let h : Handle Unit Nat := (Handle.create .serial).setOperator op
    let b : Slice := ⟨#[2.0, 4.0], 2⟩
    let x : Slice := ⟨#[0.0, 0.0], 2⟩
    (s.setup.answer = .ok 2 ∧ (∃ r, used.stage = .ready r) ∧ f.Stateless ∧
        h.settings.keepGuess = false ∧ op.apply.Stateless) ∧
      (new.setup.answer = .ok 2 ∧
        Session.Alike (used.invert rhs) (new.setup.session.invert rhs)) ∧
      Handle.Outcome.Agree (fun _ _ => True) (h.solve b x 0)
        ((h.afterSolves [⟨b, x, 0⟩]).solve b b 3) := by
  intro mesh f s rhs used new op h b x
  have stateless : f.Stateless := fun _ _ _ => rfl
  have stateless' : op.apply.Stateless := by
    intro x y memory memory'
    unfold Shell.apply
    split <;> rfl
  have run : s.setup.answer.toOption.any (· == 2) = true := by decide +kernel
  obtain ⟨n, setUp, two⟩ := exists_ok_of_any run
  obtain rfl : n = 2 := beq_iff_eq.1 two
  obtain ⟨-, r₀, log, built, -, made⟩ := Session.setup_ok setUp
  obtain ⟨settings, read, -, -⟩ := Session.build_ok built
  have off : settings.keepGuess = false := by
    have taken : settings = (Settings.default.apply s.options s.scope).2 := by rw [read]
    rw [taken]
    rfl
  have ready₀ : s.setup.session.stage = .ready r₀ := by
    rw [made]
    rfl
  obtain ⟨r, inverted, -⟩ := Session.invert_ready ready₀ rhs
  have ready : used.stage = .ready r := by
    dsimp only [used, Session.afterAll, List.foldl, Session.after, Session.withFunction]
    exact inverted
  have bound (op' : Shell Unit Nat) (h' : h.operator = some op') : op'.apply.Stateless := by
    obtain rfl : op = op' := Option.some.inj h'
    exact stateless'
  have inUse : used.workspace.adapter.function = f := rfl
  exact ⟨⟨setUp, ⟨r, ready⟩, stateless, rfl, stateless'⟩,
    solves_forget.1 setUp read off [.invert rhs, .withFunction f 0] ready inUse stateless none 7
      rhs,
    solves_forget.2 rfl bound [⟨b, x, 0⟩] b (show b.size = x.size from rfl) 0 3⟩

end MatrixFree
