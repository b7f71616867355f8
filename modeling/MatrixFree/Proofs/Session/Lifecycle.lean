import MatrixFree.Proofs.Session.Parts
import MatrixFree.Proofs.Session.Transport

/-!
# The life of a session

A session starts out uninitialized.  One setup at most makes it ready, a destruction ends it,
and no other call changes its state (`Session.State.Moves`).  What is stored depends on the
state: a handle, its operator and two vectors while it is set up, and none of them before or
after.  The places that hold them are filled and emptied one at a time, so this is an
invariant of all calls (`Session.Parts.Sound`), and it is what keeps a solve from finding one of
its places empty.

A call is brought to the stages of a session, where one step takes three cases
(`Session.FitsMesh.after`): the sound records are those of sessions whose members were built for
their mesh (`Session.Parts.Sound.exists_session`).  And the size is known from the first setup that
succeeds on, so it tells how many there were (`Session.Parts.setups`).
-/

namespace MatrixFree

open Grid Engine Options

variable {k : Kind} {σ α : Type}

namespace Session

/-! ## States -/

/-- A call may move a session from one state to another. -/
inductive State.Moves : Call k σ → State → State → Prop where
  | stay (call : Call k σ) (state : State) : Moves call state state
  | setup : Moves .setup uninitialized setUp
  | destroy (state : State) : Moves .destroy state destroyed

theorem exists_ready {s : Session k σ} (setUp : s.state = .setUp) : ∃ r, s.stage = .ready r := by
  unfold state at setUp
  cases stage : s.stage with
  | fresh => simp [stage] at setUp
  | ready r => exact ⟨r, rfl⟩
  | destroyed size => simp [stage] at setUp

/-! ## One call -/

/-- The call is a setup, and it succeeds. -/
def Parts.setsUp (p : Parts k σ) : Call k σ → Bool
  | .setup => (p.perform .setup).answer.isOk
  | _ => false

theorem setsUp_setup (s : Session k σ) : s.parts.setsUp .setup = s.setup.answer.isOk := by
  unfold Parts.setsUp
  rw [perform_parts]
  rfl

/-- One call on a session that was never set up. -/
theorem after_fresh {s : Session k σ} (fresh : s.stage = .fresh) (call : Call k σ) :
    ((s.after call).stage = .fresh ∧ s.parts.setsUp call = false) ∨
      (call = .setup ∧ s.parts.setsUp call = true ∧
        ∃ r log, s.build = .ok (r, log) ∧ (s.after call).stage = .ready r) ∨
      (call = .destroy ∧ (s.after call).stage = .destroyed none) := by
  have refused (rhs : Field k) : s.invert rhs = s.refuse .useBeforeSetup :=
    invert_of_not_readyFor (readyFor_of_fresh fresh rhs)
  cases call with
  | withFunction function memory => exact Or.inl ⟨fresh, rfl⟩
  | withScope scope => exact Or.inl ⟨fresh, rfl⟩
  | withOptions options => exact Or.inl ⟨fresh, rfl⟩
  | setup =>
      rw [setsUp_setup]
      unfold after
      cases built : s.build with
      | error e =>
          rw [setup_of_build_error fresh built]
          exact Or.inl ⟨fresh, rfl⟩
      | ok made =>
          obtain ⟨r, log⟩ := made
          rw [setup_of_build fresh built]
          exact Or.inr (Or.inl ⟨rfl, rfl, r, log, rfl, rfl⟩)
  | invert rhs =>
      refine Or.inl ⟨?_, rfl⟩
      show (s.invert rhs).session.stage = _
      rw [refused rhs]
      exact fresh
  | verify rhs tolerance =>
      refine Or.inl ⟨(s.verify_frame rhs tolerance).2.trans ?_, rfl⟩
      rw [refused rhs]
      exact fresh
  | apply f => exact Or.inl ⟨fresh, rfl⟩
  | report => exact Or.inl ⟨fresh, rfl⟩
  | destroy =>
      refine Or.inr (Or.inr ⟨rfl, ?_⟩)
      unfold after destroy
      simp [fresh]

/-- Only a session that was never set up can be set up. -/
theorem setsUp_of_not_fresh {s : Session k σ} (past : s.stage ≠ .fresh) (call : Call k σ) :
    s.parts.setsUp call = false := by
  cases call with
  | setup =>
      rw [setsUp_setup]
      cases stage : s.stage with
      | fresh => exact absurd stage past
      | ready r =>
          rw [setup_of_ready stage]
          rfl
      | destroyed size =>
          rw [setup_of_destroyed stage]
          rfl
  | _ => rfl

/-- Only setups and destructions move a session, and each in one direction only. -/
theorem moves_after (s : Session k σ) (call : Call k σ) :
    State.Moves call s.state (s.after call).state := by
  unfold state
  cases stage : s.stage with
  | fresh =>
      rcases after_fresh stage call with ⟨fresh, -⟩ | ⟨rfl, -, r, log, -, ready⟩ | ⟨rfl, gone⟩
      · rw [fresh]
        exact .stay call _
      · rw [ready]
        exact .setup
      · rw [gone]
        exact .destroy _
  | ready r =>
      rcases after_ready stage call with ⟨r', ready, -⟩ | ⟨rfl, gone⟩
      · rw [ready]
        exact .stay call _
      · rw [gone]
        exact .destroy _
  | destroyed size =>
      rw [after_destroyed stage call]
      exact .stay call _

/-! ## What fits the mesh -/

/-- What the session holds, or held, was built for its mesh. -/
structure FitsMesh (s : Session k σ) : Prop where
  ready : ∀ r, s.stage = .ready r →
    ∃ scope settings, (Ready.initial s.mesh scope settings).Continues r
  size : ∀ n, s.size? = some n → n = k.count s.mesh

theorem size?_of_fresh {s : Session k σ} (fresh : s.stage = .fresh) : s.size? = none := by
  simp [size?, fresh]

theorem size?_of_ready {s : Session k σ} {r : Ready k σ} (ready : s.stage = .ready r) :
    s.size? = some r.size := by
  simp [size?, ready]

theorem size?_of_destroyed {s : Session k σ} {size : Option Nat}
    (gone : s.stage = .destroyed size) : s.size? = size := by
  simp [size?, gone]

theorem FitsMesh.of_fresh {s : Session k σ} (fresh : s.stage = .fresh) : s.FitsMesh := by
  constructor
  · intro r ready
    rw [fresh] at ready
    cases ready
  · intro n known
    rw [size?_of_fresh fresh] at known
    cases known

theorem FitsMesh.of_ready {s : Session k σ} {r : Ready k σ} (ready : s.stage = .ready r)
    {scope : String} {settings : Settings}
    (continued : (Ready.initial s.mesh scope settings).Continues r) : s.FitsMesh := by
  constructor
  · intro r' ready'
    obtain rfl : r = r' := Stage.ready.inj (ready.symm.trans ready')
    exact ⟨scope, settings, continued⟩
  · intro n known
    rw [size?_of_ready ready] at known
    rw [← Option.some.inj known, continued.size]
    rfl

theorem FitsMesh.of_destroyed {s : Session k σ} {size : Option Nat}
    (gone : s.stage = .destroyed size) (fits : ∀ n, size = some n → n = k.count s.mesh) :
    s.FitsMesh := by
  constructor
  · intro r ready
    rw [gone] at ready
    cases ready
  · rw [size?_of_destroyed gone]
    exact fits

/-- One call keeps what fits the mesh. -/
theorem FitsMesh.after {s : Session k σ} (fits : s.FitsMesh) (call : Call k σ) :
    (s.after call).FitsMesh := by
  have mesh : (s.after call).mesh = s.mesh := s.after_mesh call
  cases stage : s.stage with
  | fresh =>
      rcases after_fresh stage call with ⟨fresh, -⟩ | ⟨-, -, r, log, built, ready⟩ | ⟨-, gone⟩
      · exact .of_fresh fresh
      · obtain ⟨settings, -, rfl, -⟩ := build_ok built
        have initial : (Ready.initial (s.after call).mesh s.scope settings).Continues
            (Ready.initial s.mesh s.scope settings : Ready k σ) := by
          rw [mesh]
          exact .refl _
        exact .of_ready ready initial
      · exact .of_destroyed gone (fun n none => by cases none)
  | ready r =>
      obtain ⟨scope, settings, continued⟩ := fits.ready r stage
      rw [← mesh] at continued
      rcases after_ready stage call with ⟨r', ready, onward⟩ | ⟨-, gone⟩
      · exact .of_ready ready (continued.trans onward)
      · refine .of_destroyed gone ?_
        intro n known
        rw [mesh]
        exact fits.size n ((size?_of_ready stage).trans known)
  | destroyed size =>
      refine .of_destroyed (after_destroyed stage call) ?_
      intro n known
      rw [mesh]
      exact fits.size n ((size?_of_destroyed stage).trans known)

/-! ## What is stored -/

namespace Parts

/-- Operator, handle and vectors are all there, ready for solves of size `n`. -/
structure Holds (p : Parts k σ) (n : Nat) : Prop where
  handle : ∃ handle, p.handle = some handle ∧ handle.isSetUp = true ∧ handle.operator = p.shell
  shell : ∃ shell, p.shell = some shell ∧ shell.hasMultiply = true ∧ shell.size = n
  rhs : ∃ b, p.rhs = some b ∧ b.size = n
  solution : ∃ x, p.solution = some x ∧ x.size = n
  size : p.size = some n

/-- None of them is there. -/
structure HoldsNothing (p : Parts k σ) : Prop where
  handle : p.handle = none
  shell : p.shell = none
  rhs : p.rhs = none
  solution : p.solution = none

/-- What is stored goes with the state, and was built for the mesh. -/
inductive Sound (p : Parts k σ) : Prop where
  | uninitialized (state : p.state = .uninitialized) (nothing : p.HoldsNothing)
      (size : p.size = none)
  | setUp {scope : String} {settings : Settings} {last : Option (Krylov.Stats Float)}
      {b x : Slice} (state : p.state = .setUp)
      (handle : p.handle = some { meshHandle k σ p.mesh scope settings with last })
      (shell : p.shell = some (meshShell k σ p.mesh))
      (rhs : p.rhs = some b) (rhsSize : b.size = k.count p.mesh)
      (solution : p.solution = some x) (solutionSize : x.size = k.count p.mesh)
      (size : p.size = some (k.count p.mesh))
  | destroyed (state : p.state = .destroyed) (nothing : p.HoldsNothing)
      (size : ∀ n, p.size = some n → n = k.count p.mesh)

end Parts

theorem FitsMesh.sound {s : Session k σ} (fits : s.FitsMesh) : s.parts.Sound := by
  cases stage : s.stage with
  | fresh =>
      rw [parts_of_fresh stage]
      exact .uninitialized rfl ⟨rfl, rfl, rfl, rfl⟩ rfl
  | ready r =>
      obtain ⟨scope, settings, continued⟩ := fits.ready r stage
      have handle := continued.handle_eq
      have shell : r.handle.operator = some (meshShell k σ s.mesh) := by rw [handle]; rfl
      have size : r.size = k.count s.mesh := continued.size
      rw [parts_of_ready stage]
      exact .setUp rfl (congrArg some handle) shell rfl
        (continued.rhs.trans Array.size_replicate) rfl
        (continued.solution.trans Array.size_replicate) (congrArg some size)
  | destroyed size =>
      have known := fits.size
      rw [size?_of_destroyed stage] at known
      rw [parts_of_destroyed stage]
      exact .destroyed rfl ⟨rfl, rfl, rfl, rfl⟩ known

namespace Parts

/-- Sound parts are those of a session that fits its mesh. -/
theorem Sound.exists_session {p : Parts k σ} (sound : p.Sound) :
    ∃ s : Session k σ, s.parts = p ∧ s.FitsMesh := by
  cases sound with
  | uninitialized state nothing size =>
      obtain ⟨handle, shell, rhs, solution⟩ := nothing
      refine ⟨⟨p.mesh, p.workspace, p.scope, p.options, .fresh⟩, ?_, .of_fresh rfl⟩
      exact Parts.ext rfl rfl rfl rfl state.symm size.symm shell.symm handle.symm rhs.symm
        solution.symm
  | @setUp scope settings last b x state handle shell rhs rhsSize solution solutionSize size =>
      have continued : (Ready.initial p.mesh scope settings).Continues
          (⟨{ meshHandle k σ p.mesh scope settings with last }, b, x, k.count p.mesh⟩ :
            Ready k σ) :=
        ⟨⟨true, last, rfl, Or.inl rfl⟩, rhsSize.trans Array.size_replicate.symm,
          solutionSize.trans Array.size_replicate.symm, rfl⟩
      refine ⟨⟨p.mesh, p.workspace, p.scope, p.options, .ready _⟩, ?_, .of_ready rfl continued⟩
      exact Parts.ext rfl rfl rfl rfl state.symm size.symm shell.symm handle.symm rhs.symm
        solution.symm
  | destroyed state nothing known =>
      obtain ⟨handle, shell, rhs, solution⟩ := nothing
      refine ⟨⟨p.mesh, p.workspace, p.scope, p.options, .destroyed p.size⟩, ?_,
        .of_destroyed rfl known⟩
      exact Parts.ext rfl rfl rfl rfl state.symm rfl shell.symm handle.symm rhs.symm
        solution.symm

/-- Every call keeps what is stored sound. -/
theorem Sound.after {p : Parts k σ} (sound : p.Sound) (call : Call k σ) : (p.after call).Sound := by
  obtain ⟨s, rfl, fits⟩ := sound.exists_session
  rw [after_parts]
  exact (fits.after call).sound

theorem Sound.afterAll (calls : List (Call k σ)) {p : Parts k σ} (sound : p.Sound) :
    (p.afterAll calls).Sound := by
  induction calls generalizing p with
  | nil => exact sound
  | cons call calls ih => exact ih (sound.after call)

theorem sound_create (mesh : Mesh) (line : Option String) (memory : σ) :
    (create mesh line memory : Parts k σ).Sound := .uninitialized rfl ⟨rfl, rfl, rfl, rfl⟩ rfl

theorem Sound.holds {p : Parts k σ} (sound : p.Sound) (setUp : p.state = .setUp) :
    p.Holds (k.count p.mesh) := by
  cases sound with
  | uninitialized state => cases state.symm.trans setUp
  | setUp state handle shell rhs rhsSize solution solutionSize size =>
      exact ⟨⟨_, handle, rfl, shell.symm⟩, ⟨_, shell, rfl, rfl⟩, ⟨_, rhs, rhsSize⟩,
        ⟨_, solution, solutionSize⟩, size⟩
  | destroyed state => cases state.symm.trans setUp

theorem Sound.holdsNothing {p : Parts k σ} (sound : p.Sound) (other : p.state ≠ .setUp) :
    p.HoldsNothing := by
  cases sound with
  | uninitialized state nothing => exact nothing
  | setUp state => exact absurd state other
  | destroyed state nothing => exact nothing

theorem Sound.size {p : Parts k σ} (sound : p.Sound) {n : Nat} (known : p.size = some n) :
    n = k.count p.mesh := by
  cases sound with
  | uninitialized state nothing size => cases size.symm.trans known
  | setUp state handle shell rhs rhsSize solution solutionSize size =>
      exact Option.some.inj (known.symm.trans size)
  | destroyed state nothing size => exact size n known

/-- What is stored while a session is set up is all that a solve asks for: it takes the handle
and the vectors from their places, and so an inversion does not say that a setup is missing. -/
structure Equipped (p : Parts k σ) : Prop where
  solve : ∃ handle b x, p.handle = some handle ∧ p.rhs = some b ∧ p.solution = some x ∧
    ∀ rhs log, (Procedure.solve rhs).result p log =
      (Procedure.solveWith handle b x rhs).result p log
  invert : ∀ rhs : Field k, (p.perform (.invert rhs)).answer ≠ .error (.error .useBeforeSetup)

theorem Sound.equipped {p : Parts k σ} (sound : p.Sound) (setUp : p.state = .setUp) :
    p.Equipped := by
  obtain ⟨⟨handle, hasHandle, -⟩, -, ⟨b, hasRhs, -⟩, ⟨x, hasSolution, -⟩, -⟩ := sound.holds setUp
  refine ⟨⟨handle, b, x, hasHandle, hasRhs, hasSolution, ?_⟩, ?_⟩
  · intro rhs log
    unfold Procedure.solve
    rw [Procedure.result_bind, Procedure.result_parts]
    dsimp only
    rw [hasHandle, hasRhs, hasSolution]
  · intro rhs
    obtain ⟨s, rfl, fits⟩ := sound.exists_session
    obtain ⟨r, ready⟩ := exists_ready setUp
    obtain ⟨scope, settings, continued⟩ := fits.ready r ready
    rw [perform_parts]
    show (s.invert rhs).answer ≠ _
    by_cases home : rhs.mesh = s.mesh
    · by_cases allocated : rhs.isAllocated = true
      · obtain ⟨b, packed⟩ := Field.exists_toVector home allocated
        obtain ⟨previous, entries⟩ := continued.previous
        have run := invert_run ready continued home packed entries
        intro missing
        rcases (run.transports rfl).errors _ missing with other | other | ⟨code, -, other⟩ <;>
          cases other
      · rw [invert_unallocated ready home (eq_false_of_ne_true allocated)]
        exact nofun
    · rw [invert_foreign ready home]
      exact nofun

/-! ## Calls out of turn -/

/-- A call that is refused and changes nothing. -/
def refuse (p : Parts k σ) (e : SessionError) : Outcome k σ α := ⟨.error (.error e), p, []⟩

/-- Inversions and verifications of a field are refused, and leave all as it was. -/
def Refuses (p : Parts k σ) (rhs : Field k) (e : SessionError) : Prop :=
  p.perform (.invert rhs) = p.refuse e ∧
    ∀ tolerance, p.perform (.verify rhs tolerance) = p.refuse e

/-- What is not ready for an inversion is not ready for a verification. -/
theorem Refuses.of_ensureReady {p : Parts k σ} {rhs : Field k} {e : SessionError}
    (unready : (Procedure.ensureReady rhs).result p [] = (.error (.error e), p, [])) :
    p.Refuses rhs e := by
  have inverted : (Procedure.invert rhs).result p [] = (.error (.error e), p, []) := by
    unfold Procedure.invert
    rw [Procedure.result_bind, unready]
  refine ⟨perform_of_result inverted, fun tolerance => perform_of_result ?_⟩
  show (Procedure.verify rhs tolerance).result p [] = _
  unfold Procedure.verify
  rw [Procedure.result_bind, inverted]
  rfl

/-- What is called out of turn changes nothing: the state decides first, and then the mesh. -/
structure Guarded (p : Parts k σ) : Prop where
  again : p.state = .setUp → p.perform .setup = p.refuse .setupReentry
  afterwards : p.state = .destroyed → p.perform .setup = p.refuse .useAfterDestroy
  early : p.state = .uninitialized → ∀ rhs, p.Refuses rhs .useBeforeSetup
  late : p.state = .destroyed → ∀ rhs, p.Refuses rhs .useAfterDestroy
  foreign : p.state = .setUp → ∀ rhs, rhs.mesh ≠ p.mesh → p.Refuses rhs .meshMismatch
  /-- A setup that fails, for whatever reason, changes nothing either. -/
  failed : ∀ e, (p.perform .setup).answer = .error e → p.perform .setup = ⟨.error e, p, []⟩

theorem guarded (p : Parts k σ) : p.Guarded := by
  have setup := Procedure.result_setup p []
  constructor
  · intro setUp
    rw [setUp] at setup
    exact perform_of_result setup
  · intro destroyed
    rw [destroyed] at setup
    exact perform_of_result setup
  · intro uninitialized rhs
    refine .of_ensureReady ?_
    simp [Procedure.ensureReady, uninitialized]
  · intro destroyed rhs
    refine .of_ensureReady ?_
    simp [Procedure.ensureReady, destroyed]
  · intro setUp rhs foreign
    refine .of_ensureReady ?_
    simp [Procedure.ensureReady, setUp, foreign]
  · intro e failed
    have same (e' : Failure SessionError) (refused : p.perform .setup = ⟨.error e', p, []⟩) :
        p.perform .setup = ⟨.error e, p, []⟩ := by
      rw [refused] at failed ⊢
      rw [Except.error.inj failed]
    cases state : p.state with
    | setUp =>
        rw [state] at setup
        exact same _ (perform_of_result setup)
    | destroyed =>
        rw [state] at setup
        exact same _ (perform_of_result setup)
    | uninitialized =>
        rw [state] at setup
        cases built : p.configured.build with
        | error e' =>
            rw [built] at setup
            exact same e' (perform_of_result setup)
        | ok made =>
            rw [built] at setup
            have performed : p.perform .setup = _ := perform_of_result setup
            rw [performed] at failed
            cases failed

/-! ## How many setups succeed -/

/-- How many setups succeed in a run of calls. -/
def setups (p : Parts k σ) : List (Call k σ) → Nat
  | [] => 0
  | call :: calls => (p.setsUp call).toNat + (p.after call).setups calls

end Parts

/-- The size becomes known by a setup that succeeds, and stays known. -/
theorem isSome_size_after (s : Session k σ) (call : Call k σ) :
    (s.parts.after call).size.isSome.toNat =
      s.parts.size.isSome.toNat + (s.parts.setsUp call).toNat := by
  rw [after_parts]
  show (s.after call).size?.isSome.toNat = s.size?.isSome.toNat + _
  cases stage : s.stage with
  | fresh =>
      rw [size?_of_fresh stage]
      rcases after_fresh stage call with ⟨fresh, not⟩ | ⟨-, sets, r, log, -, ready⟩ | ⟨rfl, gone⟩
      · simp [size?_of_fresh fresh, not]
      · simp [size?_of_ready ready, sets]
      · simp [size?_of_destroyed gone, Parts.setsUp]
  | ready r =>
      have not : s.parts.setsUp call = false := setsUp_of_not_fresh (by simp [stage]) call
      rcases after_ready stage call with ⟨r', ready, -⟩ | ⟨-, gone⟩
      · simp [size?_of_ready stage, size?_of_ready ready, not]
      · simp [size?_of_ready stage, size?_of_destroyed gone, not]
  | destroyed size =>
      have not : s.parts.setsUp call = false := setsUp_of_not_fresh (by simp [stage]) call
      simp [size?_of_destroyed stage, size?_of_destroyed (after_destroyed stage call), not]

/-- So it tells how many setups have succeeded. -/
theorem isSome_size_afterAll (calls : List (Call k σ)) (s : Session k σ) :
    (s.parts.afterAll calls).size.isSome.toNat =
      s.parts.size.isSome.toNat + s.parts.setups calls := by
  induction calls generalizing s with
  | nil => rfl
  | cons call calls ih =>
      have first := s.isSome_size_after call
      have others := ih (s.after call)
      rw [← after_parts] at others
      simp only [Parts.setups]
      show ((s.parts.after call).afterAll calls).size.isSome.toNat = _
      omega

/-! ## All calls -/

/-- **The life of a session.**  Whatever is called on the parts of a session, in whatever order,
the state moves from uninitialized to set up at most once and to destroyed for good.  Operator,
handle and vectors are all there, of the size of the mesh, exactly while it is set up, and so no
solve finds a place empty.  The size is known exactly if a setup has succeeded, and then it is
the number of entries on the mesh.  Calls out of turn are refused and change nothing.  And the
parts are those of a session with the same calls behind it: every call has the same answer and the
same log on both, and leaves the parts of what it leaves there. -/
theorem lifecycle (mesh : Mesh) (line : Option String) (memory : σ) (calls : List (Call k σ)) :
    let new : Parts k σ := .create mesh line memory
    let p := new.afterAll calls
    let s := (create mesh line memory : Session k σ).afterAll calls
    p.mesh = mesh ∧
      (∀ call, State.Moves call p.state (p.after call).state) ∧
      (p.state = .setUp → p.Holds (k.count mesh) ∧ p.Equipped) ∧
      (p.state ≠ .setUp → p.HoldsNothing) ∧
      (new.setups calls ≤ 1 ∧ (p.size = none ↔ new.setups calls = 0)) ∧
      (∀ n, p.size = some n →
        n = k.count mesh ∧ (k.Countable mesh → n = (k.indices mesh).length)) ∧
      p.Guarded ∧
      p = s.parts ∧ ∀ call, p.perform call = (s.perform call).parts := by
  intro new p s
  have same : p = s.parts := afterAll_parts calls (create mesh line memory)
  have home : p.mesh = mesh := by
    rw [same]
    exact afterAll_mesh calls _
  have sound : p.Sound := (Parts.sound_create mesh line memory).afterAll calls
  have known : p.size.isSome.toNat = new.setups calls := by
    have counted : p.size.isSome.toNat = 0 + new.setups calls :=
      isSome_size_afterAll calls (create mesh line memory)
    rwa [Nat.zero_add] at counted
  refine ⟨home, ?_, ?_, sound.holdsNothing, ?_, ?_, p.guarded, same, ?_⟩
  · intro call
    rw [same, after_parts]
    exact s.moves_after call
  · intro setUp
    rw [← home]
    exact ⟨sound.holds setUp, sound.equipped setUp⟩
  · rw [← known]
    cases p.size <;> simp
  · intro n size
    have count : n = k.count mesh := by
      rw [← home]
      exact sound.size size
    refine ⟨count, ?_⟩
    intro countable
    rw [count, Kind.length_indices countable]
  · intro call
    rw [same]
    exact perform_parts s call

/-- A session that was set up twice, of which the first time counts. -/
theorem lifecycle_reentry :
    let new : Parts .volume Nat := .create (Mesh.serial 0 2 1 1) none 0
    let calls : List (Call .volume Nat) := [.setup, .setup]
    let p := new.afterAll calls
    (p.state = .setUp ∧ new.setups calls = 1) ∧
      p.Holds 2 ∧ p.perform .setup = p.refuse .setupReentry ∧ (p.after .destroy).HoldsNothing := by
  intro new calls p
  have setUp : p.state = .setUp := by decide +kernel
  have once : new.setups calls = 1 := by decide +kernel
  have gone : (p.after .destroy).state ≠ .setUp := by decide +kernel
  obtain ⟨-, -, holds, -, -, -, guarded, -⟩ := lifecycle (Mesh.serial 0 2 1 1) none 0 calls
  obtain ⟨-, -, -, holdsNothing, -⟩ :=
    lifecycle (Mesh.serial 0 2 1 1) none 0 (calls ++ [Call.destroy])
  have last : new.afterAll (calls ++ [Call.destroy]) = p.after .destroy := List.foldl_append
  rw [last] at holdsNothing
  exact ⟨⟨setUp, once⟩, (holds setUp).1, guarded.again setUp, holdsNothing gone⟩

end Session

end MatrixFree
