import MatrixFree.Proofs.Grid.Fields
import MatrixFree.Session.Basic

/-!
# What setup builds

`Session.build` goes through a chain of engine calls, most of which cannot fail in that place.  Its
closed form (`Session.build_eq`) leaves the three that can: room for the vectors, the scope, and
the options.  What it builds then is `Ready.initial`, which a mesh, a scope and settings determine.
-/

namespace MatrixFree

open Grid Engine Options Text

variable {k : Kind} {σ : Type}

/-- The shell operator of a session on a mesh. -/
def meshShell (k : Kind) (σ : Type) (mesh : Mesh) : Shell Mesh (Workspace k σ) where
  comm := mesh.comm
  size := k.count mesh
  globalSize := mesh.comm.total (k.count mesh)
  context := mesh
  multiply := some (fieldMultiply k σ (k.count mesh))

theorem create_meshShell (mesh : Mesh) :
    Shell.create mesh.comm (k.count mesh) (k.count mesh) none mesh =
      .ok ({ meshShell k σ mesh with multiply := none } : Shell Mesh (Workspace k σ)) := by
  simp only [Shell.create, ne_eq, not_true_eq_false, if_false, meshShell]

theorem meshShell_apply (mesh : Mesh) (x y : Vector Float (k.count mesh)) (w : Workspace k σ) :
    (meshShell k σ mesh).apply x.toArray y w = fieldMultiply k σ (k.count mesh) mesh x y w :=
  Shell.apply_of_multiply (s := meshShell k σ mesh) rfl x y w

/-- The handle of a session, before its first solve. -/
def meshHandle (k : Kind) (σ : Type) (mesh : Mesh) (scope : String) (settings : Settings) :
    Handle Mesh (Workspace k σ) where
  comm := mesh.comm
  operator := some (meshShell k σ mesh)
  scope := scope
  settings := settings
  isSetUp := true
  last := none

/-- What a session has just after setup. -/
def Ready.initial (mesh : Mesh) (scope : String) (settings : Settings) : Ready k σ where
  handle := meshHandle k σ mesh scope settings
  rhs := ⟨Array.replicate (k.count mesh) 0.0, mesh.comm.total (k.count mesh)⟩
  solution := ⟨Array.replicate (k.count mesh) 0.0, mesh.comm.total (k.count mesh)⟩
  size := k.count mesh

/-! ## The calls that can fail -/

theorem mapError_ok {ε ε' α : Type} (f : ε → ε') (a : α) :
    (Except.ok a : Except ε α).mapError f = .ok a := rfl

theorem mapError_error {ε ε' α : Type} (f : ε → ε') (e : ε) :
    (Except.error e : Except ε α).mapError f = .error (f e) := rfl

theorem zeros_eq (size globalSize : Nat) :
    Slice.zeros size globalSize =
      if Storage.HasRoom size Storage.numberBytes then
        .ok ⟨Array.replicate size 0.0, globalSize⟩
      else .error .capacityOverflow := by
  by_cases room : Storage.HasRoom size Storage.numberBytes
  · rw [if_pos room]
    simp only [Slice.zeros, Storage.reserve_of_hasRoom room, bind, Except.bind, pure, Except.pure]
  · rw [if_neg room]
    simp only [Slice.zeros, Storage.reserve_of_not_hasRoom room, bind, Except.bind]

/-- Settings that come out of a database are fit for a solve. -/
theorem validate_of_apply {s s' : Settings} {db : Database} {scope : String}
    (h : s.apply db scope = (.ok (), s')) : s'.validate = .ok () := by
  unfold Settings.apply at h
  split at h
  · next t read =>
      obtain ⟨valid, rfl⟩ := Prod.mk.inj h
      exact valid
  · next refused =>
      exact absurd h (refused s')

/-- The last call of a setup. -/
theorem setUp_meshHandle (k : Kind) (σ : Type) (mesh : Mesh) (scope : String) {settings : Settings}
    (valid : settings.validate = .ok ()) :
    ({ meshHandle k σ mesh scope settings with isSetUp := false } :
        Handle Mesh (Workspace k σ)).setUp =
      (.ok (), meshHandle k σ mesh scope settings,
        [.handleReady scope settings.solver (k.count mesh) (mesh.comm.total (k.count mesh))]) := by
  unfold Handle.setUp Handle.checkReady meshHandle
  dsimp only
  rw [valid]
  rfl

namespace Session

/-- The events that a setup logs. -/
def setupLog (k : Kind) (mesh : Mesh) (scope : String) (settings : Settings) : List Event :=
  let n := k.count mesh
  [.handleReady scope settings.solver n (mesh.comm.total n),
    .sessionReady scope n (mesh.comm.total n) settings.solver]

/-- Setup, without the calls that cannot fail in it. -/
theorem build_eq (s : Session k σ) :
    s.build =
      if Storage.HasRoom (k.count s.mesh) Storage.numberBytes then
        if Handle.admitsScope s.scope then
          match Settings.default.apply s.options s.scope with
          | (.ok (), settings) =>
            .ok (.initial s.mesh s.scope settings, setupLog k s.mesh s.scope settings)
          | (.error e, _) => .error (.error (.engineCall "KSPSetFromOptions" e))
        else
          .error (.error (.engineCall "KSPSetOptionsPrefix"
            (.invalidArgument ("invalid options prefix " ++ quote s.scope))))
      else .error (.fault .capacityOverflow) := by
  unfold build
  rw [Field.storedCount_eq]
  by_cases room : Storage.HasRoom (k.count s.mesh) Storage.numberBytes
  · rw [if_pos room, if_pos room]
    have zeros := zeros_eq (k.count s.mesh) (s.mesh.comm.total (k.count s.mesh))
    rw [if_pos room] at zeros
    simp only [bind, Except.bind, mapError_ok, create_meshShell, called, Shell.zeros,
      meshShell, zeros]
    by_cases admitted : Handle.admitsScope s.scope = true
    · simp only [Handle.setScope, if_pos admitted, Handle.setFromOptions, Handle.setOperator,
        Handle.create, Shell.withMultiply]
      rcases read : Settings.default.apply s.options s.scope with ⟨_ | ⟨⟩, settings⟩
      · rfl
      · -- Settings from a database are validated, so the last call cannot refuse them.
        have checked := setUp_meshHandle k σ s.mesh s.scope (validate_of_apply read)
        unfold meshHandle meshShell at checked
        simp only [checked]
        rfl
    · simp only [Handle.setScope, if_neg admitted]
  · rw [if_neg room, if_neg room]
    rfl

/-- A setup that succeeds in building. -/
theorem build_ok {s : Session k σ} {r : Ready k σ} {log : List Event}
    (h : s.build = .ok (r, log)) :
    ∃ settings, Settings.default.apply s.options s.scope = (.ok (), settings) ∧
      r = .initial s.mesh s.scope settings ∧ log = setupLog k s.mesh s.scope settings := by
  rw [build_eq] at h
  split at h
  · split at h
    · split at h
      · next settings read =>
          obtain ⟨rfl, rfl⟩ := Prod.mk.inj (Except.ok.inj h)
          exact ⟨settings, read, rfl, rfl⟩
      · cases h
    · cases h
  · cases h

/-- What setup builds depends on the mesh, the scope and the options. -/
theorem build_congr {s t : Session k σ} (mesh : t.mesh = s.mesh) (scope : t.scope = s.scope)
    (options : t.options = s.options) : t.build = s.build := by
  rw [build_eq, build_eq, mesh, scope, options]

theorem setup_of_ready {s : Session k σ} {r : Ready k σ} (ready : s.stage = .ready r) :
    s.setup = s.refuse .setupReentry := by
  unfold setup
  rw [ready]

theorem setup_of_destroyed {s : Session k σ} {size : Option Nat}
    (gone : s.stage = .destroyed size) : s.setup = s.refuse .useAfterDestroy := by
  unfold setup
  rw [gone]

/-- A setup that fails to build changes nothing. -/
theorem setup_of_build_error {s : Session k σ} (fresh : s.stage = .fresh)
    {e : Failure SessionError} (refused : s.build = .error e) : s.setup = ⟨.error e, s, []⟩ := by
  unfold setup
  rw [fresh]
  dsimp only
  rw [refused]

theorem setup_of_build {s : Session k σ} (fresh : s.stage = .fresh) {r : Ready k σ}
    {log : List Event} (built : s.build = .ok (r, log)) :
    s.setup = ⟨.ok r.size, { s with stage := .ready r }.measure .setup, log⟩ := by
  unfold setup
  rw [fresh]
  dsimp only
  rw [built]

/-- Setup succeeds when it succeeds in building, and then makes the session ready. -/
theorem setup_ok {s : Session k σ} {n : Nat} (h : s.setup.answer = .ok n) :
    s.stage = .fresh ∧ ∃ r log, s.build = .ok (r, log) ∧ r.size = n ∧
      s.setup.session = { s with stage := .ready r }.measure .setup := by
  unfold setup at h ⊢
  cases fresh : s.stage with
  | ready r =>
      rw [fresh] at h
      cases h
  | destroyed size =>
      rw [fresh] at h
      cases h
  | fresh =>
      rw [fresh] at h
      dsimp only at h ⊢
      rcases built : s.build with e | ⟨r, log⟩
      · rw [built] at h
        cases h
      · rw [built] at h
        exact ⟨rfl, r, log, rfl, Except.ok.inj h, rfl⟩

end Session

end MatrixFree
