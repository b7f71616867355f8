import MatrixFree.Proofs.Session.Calls

/-!
# Sessions part by part

A session is stored as a record (`Session.Parts`): its state, its size, and a place each for the
operator, the handle and two vectors.  Every place is filled and emptied by itself, and nothing
but the order of the stores relates one to another.  A call on the record is a procedure
(`Session.Procedure`), which goes through its tests and stores one at a time.  What it has
stored when an error or a fault ends it stays stored.

A `Session` joins what belongs together in a stage, and `Session.parts` puts its members in
their places.  There, a call leaves the parts of what the session's call leaves, with the same
answer and the same log (`Session.perform_parts`), and so do all calls one after the other
(`Session.afterAll_parts`).  In this way the record never gets into a combination of places that
no stage stands for, and all that is known of sessions is known of their parts.
-/

namespace MatrixFree

open Grid Engine Options

variable {k : Kind} {σ α β : Type}

namespace Session

/-- The states of a session. -/
inductive State where
  | uninitialized
  | setUp
  | destroyed
deriving DecidableEq

/-- The name of a state. -/
def State.name : State → String
  | uninitialized => "Uninitialized"
  | setUp => "SetUp"
  | destroyed => "Destroyed"

/-- A session as it is stored. -/
@[ext]
structure Parts (k : Kind) (σ : Type) where
  mesh : Mesh
  workspace : Workspace k σ
  scope : String
  options : Database
  state : State
  /-- Local problem size, once setup has fixed it. -/
  size : Option Nat
  shell : Option (Shell Mesh (Workspace k σ))
  handle : Option (Handle Mesh (Workspace k σ))
  /-- The vector that right-hand sides are packed into. -/
  rhs : Option Slice
  /-- The vector that solutions are left in. -/
  solution : Option Slice

namespace Parts

/-- The parts of a new session for the identity, with the options of a line of text. -/
def create (mesh : Mesh) (line : Option String) (memory : σ) : Parts k σ where
  mesh := mesh
  workspace := ⟨.identity memory, []⟩
  scope := defaultScope
  options := .ofLine line
  state := .uninitialized
  size := none
  shell := none
  handle := none
  rhs := none
  solution := none

def measure (p : Parts k σ) (phase : Phase) : Parts k σ :=
  { p with workspace := p.workspace.measure phase }

/-- A session with the same configuration that was never set up. -/
def configured (p : Parts k σ) : Session k σ where
  mesh := p.mesh
  workspace := p.workspace
  scope := p.scope
  options := p.options
  stage := .fresh

/-- What a procedure leaves. -/
structure Outcome (k : Kind) (σ α : Type) where
  answer : Except (Failure SessionError) α
  parts : Parts k σ
  log : List Event

end Parts

/-! ## Procedures -/

/-- A computation on the parts of a session, which also logs events.  A failure takes nothing
back. -/
abbrev Procedure (k : Kind) (σ : Type) :=
  ExceptT (Failure SessionError) (StateM (Parts k σ × List Event))

namespace Procedure

/-- The parts as they are now. -/
def parts : Procedure k σ (Parts k σ) := return (← get).1

/-- Store something in the parts. -/
def store (change : Parts k σ → Parts k σ) : Procedure k σ Unit :=
  modify fun (p, log) => (change p, log)

def emit (events : List Event) : Procedure k σ Unit := modify fun (p, log) => (p, log ++ events)

def raise (e : SessionError) : Procedure k σ α := throw (.error e)

/-- Go on with an answer, or fail as it does. -/
def proceed (answer : Except (Failure SessionError) α) : Procedure k σ α := .mk (pure answer)

/-- Run a procedure for its answer, which may be an error.  A fault goes through. -/
def attempt (procedure : Procedure k σ α) :
    Procedure k σ (Except (Failure SessionError) α) := .mk do
  match ← procedure.run with
  | .error (.fault fault) => return .error (.fault fault)
  | answer => return .ok answer

/-! ### Setup -/

/-- All of a setup that can fail.  Nothing is stored, neither if it does nor if it does not. -/
def prepare : Procedure k σ
    (Nat × Shell Mesh (Workspace k σ) × Handle Mesh (Workspace k σ) × Slice × Slice) := do
  let p ← parts
  let n ← proceed ((Field.storedCount k p.mesh).mapError .fault)
  let shell : Shell Mesh (Workspace k σ) ←
    proceed (called "MatCreateShell" (Shell.create p.mesh.comm n n none p.mesh))
  let solution ← proceed (shell.zeros.mapError .fault)
  let rhs ← proceed (shell.zeros.mapError .fault)
  let shell := shell.withMultiply (fieldMultiply k σ shell.size)
  let handle := (Handle.create p.mesh.comm).setOperator shell
  let (admitted, handle) := handle.setScope p.scope
  proceed (called "KSPSetOptionsPrefix" admitted)
  let (configured, handle) := handle.setFromOptions p.options
  proceed (called "KSPSetFromOptions" configured)
  let (checked, handle, events) := handle.setUp
  emit events
  proceed (called "KSPSetUp" checked)
  emit [.sessionReady p.scope n shell.globalSize handle.settings.solver]
  return (n, shell, handle, rhs, solution)

def setup : Procedure k σ Nat := do
  match (← parts).state with
  | .setUp => raise .setupReentry
  | .destroyed => raise .useAfterDestroy
  | .uninitialized => pure ()
  let (n, shell, handle, rhs, solution) ← prepare
  store ({ · with shell := some shell })
  store ({ · with handle := some handle })
  store ({ · with rhs := some rhs })
  store ({ · with solution := some solution })
  store ({ · with size := some n })
  store ({ · with state := .setUp })
  store (·.measure .setup)
  return n

/-! ### Inversion -/

/-- The state decides first, and then the mesh. -/
def ensureReady (f : Field k) : Procedure k σ Unit := do
  match (← parts).state with
  | .uninitialized => raise .useBeforeSetup
  | .destroyed => raise .useAfterDestroy
  | .setUp => pure ()
  if f.mesh ≠ (← parts).mesh then raise .meshMismatch

/-- Unpack the solution of a solve that stopped for `reason`. -/
def unpack (reason : Krylov.Reason) (solution : Slice) : Procedure k σ (Field k) := do
  if !reason.isConverged then raise (.notConverged reason.code)
  let x ← proceed ((Field.new (← parts).mesh).withVector solution.entries.toVector)
  store (·.measure .packing)
  return x

/-- Solve with a handle and two vectors, which are put back before the result is looked at. -/
def solveWith (handle : Handle Mesh (Workspace k σ)) (b x : Slice) (rhs : Field k) :
    Procedure k σ (Field k) := do
  let entries ← proceed ((rhs.toVector b.size).mapError .error)
  let b := { b with entries := entries.toArray }
  store ({ · with rhs := some b })
  store (·.measure .packing)
  let out := handle.solve b x (← parts).workspace
  store ({ · with workspace := out.memory })
  store ({ · with handle := some out.handle })
  store ({ · with solution := some out.solution })
  emit out.log
  let reason ← proceed (out.result.mapError ofSolveFailure)
  unpack reason out.solution

/-- Solve with what is in the places.  If something is missing, that is told as if there had been
no setup. -/
def solve (rhs : Field k) : Procedure k σ (Field k) := do
  let p ← parts
  match p.handle, p.rhs, p.solution with
  | some handle, some b, some x => solveWith handle b x rhs
  | _, _, _ => raise .useBeforeSetup

def invert (rhs : Field k) : Procedure k σ (Field k) := do
  ensureReady rhs
  let result ← attempt (solve rhs)
  store (·.measure .invert)
  proceed result

/-! ### Application and verification -/

def apply (f : Field k) : Procedure k σ (Field k) := do
  let (answer, workspace) := (← parts).workspace.apply f
  store ({ · with workspace })
  proceed (answer.mapError .fault)

def verify (rhs : Field k) (tolerance : Float) : Procedure k σ Bool := do
  let x ← invert rhs
  let y ← apply x
  if y.mesh ≠ (← parts).mesh then raise .foreignResult
  if !y.isAllocated then raise .unallocated
  let (passed, warnings) := (← parts).configured.compare rhs x y tolerance
  emit warnings
  return passed

/-! ### Reports and destruction -/

def report : Procedure k σ (List Phase) := do
  let measured := (← parts).workspace.measured
  store fun p => { p with workspace := { p.workspace with measured := [] } }
  return measured.reverse

def destroy : Procedure k σ Unit := do
  if (← parts).state = .destroyed then return
  if let some handle := (← parts).handle then
    store ({ · with handle := none })
    emit [.releasing (← parts).scope handle.view]
  store ({ · with shell := none })
  store ({ · with rhs := none })
  store ({ · with solution := none })
  store ({ · with state := .destroyed })

/-! ### Results -/

/-- What a procedure makes of parts and a log. -/
def result (x : Procedure k σ α) (p : Parts k σ) (log : List Event) :
    Except (Failure SessionError) α × Parts k σ × List Event := x.run.run (p, log)

section Results

variable (p : Parts k σ) (log : List Event)

@[simp] theorem result_pure (a : α) : result (pure a) p log = (.ok a, p, log) := rfl

@[simp] theorem result_parts : result parts p log = (.ok p, p, log) := rfl

@[simp] theorem result_store (change : Parts k σ → Parts k σ) :
    result (store change) p log = (.ok (), change p, log) := rfl

@[simp] theorem result_emit (events : List Event) :
    result (emit events) p log = (.ok (), p, log ++ events) := rfl

@[simp] theorem result_raise (e : SessionError) :
    result (raise e : Procedure k σ α) p log = (.error (.error e), p, log) := rfl

@[simp] theorem result_proceed (answer : Except (Failure SessionError) α) :
    result (proceed answer) p log = (answer, p, log) := rfl

/-- The second procedure starts where the first one has ended, unless that has failed. -/
@[simp] theorem result_bind (x : Procedure k σ α) (f : α → Procedure k σ β) :
    result (x >>= f) p log =
      match result x p log with
      | (.ok a, p, log) => result (f a) p log
      | (.error e, p, log) => (.error e, p, log) := by
  unfold result
  rw [ExceptT.run_bind, StateT.run_bind]
  rcases x.run.run (p, log) with ⟨_ | _, _⟩ <;> rfl

@[simp] theorem result_attempt (x : Procedure k σ α) :
    result (attempt x) p log =
      match result x p log with
      | (.error (.fault fault), p, log) => (.error (.fault fault), p, log)
      | (answer, p, log) => (.ok answer, p, log) := by
  unfold result attempt
  simp only [ExceptT.run_mk, StateT.run_bind]
  rcases x.run.run (p, log) with ⟨(_ | _) | _, _⟩ <;> rfl

/-- Whether it fails or not, what can fail in a setup leaves the parts as they are. -/
theorem result_prepare :
    result prepare p log =
      match p.configured.build with
      | .ok (r, events) =>
        (.ok (r.size, meshShell k σ p.mesh, r.handle, r.rhs, r.solution), p, log ++ events)
      | .error e => (.error e, p, log) := by
  have built := build_eq p.configured
  have mesh : p.configured.mesh = p.mesh := rfl
  have scope : p.configured.scope = p.scope := rfl
  have options : p.configured.options = p.options := rfl
  rw [mesh, scope, options] at built
  have zeros := zeros_eq (k.count p.mesh) (p.mesh.comm.total (k.count p.mesh))
  unfold prepare
  simp only [result_bind, result_parts, result_proceed, Field.storedCount_eq]
  by_cases room : Storage.HasRoom (k.count p.mesh) Storage.numberBytes
  · rw [if_pos room] at built zeros ⊢
    simp only [mapError_ok, create_meshShell, called, Shell.zeros, meshShell, zeros]
    by_cases admitted : Handle.admitsScope p.scope = true
    · rw [if_pos admitted] at built
      simp only [Handle.setScope, if_pos admitted, Handle.setFromOptions, Handle.setOperator,
        Handle.create, Shell.withMultiply]
      rcases read : Settings.default.apply p.options p.scope with ⟨e | ⟨⟩, settings⟩
      · rw [read] at built
        rw [built]
      · rw [read] at built
        rw [built]
        have checked := setUp_meshHandle k σ p.mesh p.scope (validate_of_apply read)
        unfold meshHandle meshShell at checked
        simp only [checked, result_emit, result_pure, List.append_assoc]
        rfl
    · rw [if_neg admitted] at built
      rw [built]
      simp only [Handle.setScope, if_neg admitted]
  · rw [if_neg room] at built ⊢
    rw [built]
    rfl

/-- The state decides first, and then nothing is stored before all has been made. -/
theorem result_setup :
    result setup p log =
      match p.state with
      | .setUp => (.error (.error .setupReentry), p, log)
      | .destroyed => (.error (.error .useAfterDestroy), p, log)
      | .uninitialized =>
        match p.configured.build with
        | .error e => (.error e, p, log)
        | .ok (r, events) =>
          let made : Parts k σ := { p with
            shell := some (meshShell k σ p.mesh)
            handle := some r.handle
            rhs := some r.rhs
            solution := some r.solution
            size := some r.size
            state := .setUp }
          (.ok r.size, made.measure .setup, log ++ events) := by
  unfold setup
  rw [result_bind, result_parts]
  dsimp only
  cases p.state with
  | setUp => rfl
  | destroyed => rfl
  | uninitialized =>
      simp only [result_bind, result_pure, result_prepare]
      cases p.configured.build with
      | error e => rfl
      | ok made => rfl

end Results

end Procedure

/-! ## Calls -/

/-- What a call answers with. -/
def Call.Answer : Call k σ → Type
  | .setup => Nat
  | .invert _ => Field k
  | .verify .. => Bool
  | .apply _ => Field k
  | .report => List Phase
  | _ => Unit

/-- The procedure of a call. -/
def Call.procedure : (call : Call k σ) → Procedure k σ call.Answer
  | .withFunction function memory => Procedure.store fun p =>
    { p with workspace := { p.workspace with adapter := ⟨function, memory⟩ } }
  | .withScope scope => Procedure.store ({ · with scope })
  | .withOptions options => Procedure.store ({ · with options })
  | .setup => Procedure.setup
  | .invert rhs => Procedure.invert rhs
  | .verify rhs tolerance => Procedure.verify rhs tolerance
  | .apply f => Procedure.apply f
  | .report => Procedure.report
  | .destroy => Procedure.destroy

/-- Carry out a call on the parts of a session. -/
def Parts.perform (p : Parts k σ) (call : Call k σ) : Parts.Outcome k σ call.Answer :=
  let (answer, p, log) := call.procedure.result p []
  ⟨answer, p, log⟩

theorem Parts.perform_of_result {p p' : Parts k σ} {call : Call k σ}
    {answer : Except (Failure SessionError) call.Answer} {log : List Event}
    (h : call.procedure.result p [] = (answer, p', log)) : p.perform call = ⟨answer, p', log⟩ := by
  unfold perform
  rw [h]

/-- Carry out a call on a session. -/
def perform (s : Session k σ) : (call : Call k σ) → Outcome k σ call.Answer
  | .withFunction function memory => ⟨.ok (), s.withFunction function memory, []⟩
  | .withScope scope => ⟨.ok (), s.withScope scope, []⟩
  | .withOptions options => ⟨.ok (), s.withOptions options, []⟩
  | .setup => s.setup
  | .invert rhs => s.invert rhs
  | .verify rhs tolerance => s.verify rhs tolerance
  | .apply f => ⟨(s.apply f).1.mapError .fault, (s.apply f).2, []⟩
  | .report => ⟨.ok s.report.1, s.report.2, []⟩
  | .destroy => ⟨.ok (), s.destroy.1, s.destroy.2⟩

theorem session_perform (s : Session k σ) (call : Call k σ) :
    (s.perform call).session = s.after call := by
  cases call <;> rfl

/-! ## The parts of a session -/

/-- The state that a session is in. -/
def state (s : Session k σ) : State :=
  match s.stage with
  | .fresh => .uninitialized
  | .ready _ => .setUp
  | .destroyed _ => .destroyed

theorem stageName_eq (s : Session k σ) : s.stageName = s.state.name := by
  unfold stageName state
  cases s.stage <;> rfl

/-- What the session has between setup and destruction. -/
def ready? (s : Session k σ) : Option (Ready k σ) :=
  match s.stage with
  | .ready r => some r
  | _ => none

/-- The session's members, each in its place. -/
def parts (s : Session k σ) : Parts k σ where
  mesh := s.mesh
  workspace := s.workspace
  scope := s.scope
  options := s.options
  state := s.state
  size := s.size?
  shell := s.ready?.bind (·.handle.operator)
  handle := s.ready?.map (·.handle)
  rhs := s.ready?.map (·.rhs)
  solution := s.ready?.map (·.solution)

def Outcome.parts (out : Outcome k σ α) : Parts.Outcome k σ α :=
  ⟨out.answer, out.session.parts, out.log⟩

theorem parts_of_fresh {s : Session k σ} (fresh : s.stage = .fresh) :
    s.parts = ⟨s.mesh, s.workspace, s.scope, s.options, .uninitialized, none, none, none, none,
      none⟩ := by
  simp [parts, state, size?, ready?, fresh]

theorem parts_of_destroyed {s : Session k σ} {size : Option Nat}
    (gone : s.stage = .destroyed size) :
    s.parts = ⟨s.mesh, s.workspace, s.scope, s.options, .destroyed, size, none, none, none,
      none⟩ := by
  simp [parts, state, size?, ready?, gone]

theorem parts_of_ready {s : Session k σ} {r : Ready k σ} (ready : s.stage = .ready r) :
    s.parts = ⟨s.mesh, s.workspace, s.scope, s.options, .setUp, some r.size, r.handle.operator,
      some r.handle, some r.rhs, some r.solution⟩ := by
  simp [parts, state, size?, ready?, ready]

/-- On the parts of `s` the procedure leaves what `out` says, with the events of its log after
those that are there. -/
def Simulates (procedure : Procedure k σ α) (s : Session k σ) (out : Outcome k σ α) : Prop :=
  ∀ log, procedure.result s.parts log = (out.answer, out.session.parts, log ++ out.log)

theorem simulates_setup (s : Session k σ) : Simulates Procedure.setup s s.setup := by
  intro log
  rw [Procedure.result_setup]
  cases stage : s.stage with
  | ready r =>
      rw [setup_of_ready stage, parts_of_ready stage]
      simp [refuse, parts_of_ready stage]
  | destroyed size =>
      rw [setup_of_destroyed stage, parts_of_destroyed stage]
      simp [refuse, parts_of_destroyed stage]
  | fresh =>
      have same : s.parts.configured.build = s.build := build_congr rfl rfl rfl
      rw [same, parts_of_fresh stage]
      cases built : s.build with
      | error e =>
          rw [setup_of_build_error stage built]
          simp [parts_of_fresh stage]
      | ok made =>
          obtain ⟨r, events⟩ := made
          obtain ⟨settings, -, rfl, rfl⟩ := build_ok built
          rw [setup_of_build stage built]
          rfl

theorem result_ensureReady (s : Session k σ) (f : Field k) (log : List Event) :
    (Procedure.ensureReady f).result s.parts log =
      ((s.readyFor f).map (fun _ => ()) |>.mapError .error, s.parts, log) := by
  unfold Procedure.ensureReady readyFor
  cases stage : s.stage with
  | fresh =>
      have state : s.parts.state = .uninitialized := by simp [parts, state, stage]
      simp [state]
      rfl
  | destroyed size =>
      have state : s.parts.state = .destroyed := by simp [parts, state, stage]
      simp [state]
      rfl
  | ready r =>
      have state : s.parts.state = .setUp := by simp [parts, state, stage]
      have mesh : s.parts.mesh = s.mesh := rfl
      by_cases home : f.mesh = s.mesh
      · simp [state, mesh, home]
        rfl
      · simp [state, mesh, home]
        rfl

theorem result_unpack (s : Session k σ) (reason : Krylov.Reason) (solution : Slice)
    (log events : List Event) :
    (Procedure.unpack reason solution).result s.parts (log ++ events) =
      let out := s.unpack reason solution events
      (out.answer, out.session.parts, log ++ out.log) := by
  have mesh : s.parts.mesh = s.mesh := rfl
  unfold Procedure.unpack unpack
  cases converged : reason.isConverged with
  | false => simp
  | true =>
      cases unpacked : (Field.new s.mesh : Field k).withVector solution.entries.toVector with
      | error e => simp [mesh, unpacked]
      | ok x =>
          simp [mesh, unpacked]
          rfl

theorem simulates_solve {s : Session k σ} {r : Ready k σ} (ready : s.stage = .ready r)
    (rhs : Field k) : Simulates (Procedure.solve rhs) s (s.solve r rhs) := by
  intro log
  have start := parts_of_ready ready
  unfold Procedure.solve Session.solve
  rw [Procedure.result_bind, Procedure.result_parts, start]
  dsimp only
  unfold Procedure.solveWith
  simp only [Procedure.result_bind, Procedure.result_proceed]
  cases packed : rhs.toVector r.rhs.size with
  | error e => simp [mapError_error, refuse, start]
  | ok b =>
      simp only [mapError_ok, Procedure.result_store, Procedure.result_parts,
        Procedure.result_emit, Parts.measure]
      -- The operator has a place of its own, in which it is still the handle's after the solve.
      obtain ⟨⟨on, last, resumed, -⟩, -⟩ := r.handle.solve_frame
        { r.rhs with entries := b.toArray } r.solution (s.workspace.measure .packing)
      generalize r.handle.solve _ r.solution _ = out at resumed ⊢
      have operator : r.handle.operator = out.handle.operator := by rw [resumed]
      let after : Session k σ := { s with
        workspace := out.memory
        stage := .ready ⟨out.handle, { r.rhs with entries := b.toArray }, out.solution, r.size⟩ }
      have stored := parts_of_ready (s := after) rfl
      rw [operator, ← stored]
      cases result : out.result with
      | error e => rfl
      | ok reason => exact result_unpack after reason out.solution log out.log

theorem simulates_invert (s : Session k σ) (rhs : Field k) :
    Simulates (Procedure.invert rhs) s (s.invert rhs) := by
  intro log
  unfold Procedure.invert invert
  simp only [Procedure.result_bind, result_ensureReady]
  cases ready : s.readyFor rhs with
  | error e => simp [Except.map, mapError_error, refuse]
  | ok r =>
      have solved := simulates_solve (stage_of_readyFor ready) rhs log
      simp only [Except.map, mapError_ok, Procedure.result_attempt, solved]
      unfold Outcome.measure
      rcases s.solve r rhs with ⟨(e | fault) | x, after, events⟩
      · rfl
      · rfl
      · rfl

theorem simulates_apply (s : Session k σ) (f : Field k) :
    Simulates (Procedure.apply f) s ⟨(s.apply f).1.mapError .fault, (s.apply f).2, []⟩ := by
  intro log
  rw [List.append_nil]
  rfl

theorem simulates_verify (s : Session k σ) (rhs : Field k) (tolerance : Float) :
    Simulates (Procedure.verify rhs tolerance) s (s.verify rhs tolerance) := by
  intro log
  have inverted := simulates_invert s rhs log
  unfold Procedure.verify verify
  rw [Procedure.result_bind, inverted]
  rcases s.invert rhs with ⟨e | x, after, events⟩
  · rfl
  · have applied := simulates_apply after x (log ++ events)
    dsimp only
    rw [Procedure.result_bind, applied]
    rcases after.apply x with ⟨fault | y, last⟩
    · simp [mapError_error]
    · have mesh : last.parts.mesh = last.mesh := rfl
      by_cases away : y.mesh = last.mesh
      · cases full : y.isAllocated with
        | false => simp [mapError_ok, mesh, away, full]
        | true =>
            have same : last.parts.configured.compare rhs x y tolerance =
              last.compare rhs x y tolerance := rfl
            simp only [mapError_ok, Procedure.result_bind, Procedure.result_parts,
              Procedure.result_emit, Procedure.result_pure, mesh, away, full, same, ne_eq,
              not_true_eq_false, if_false, Bool.not_true, Bool.false_eq_true, List.append_nil,
              List.append_assoc]
      · simp [mapError_ok, mesh, away]

theorem simulates_destroy (s : Session k σ) :
    Simulates Procedure.destroy s ⟨.ok (), s.destroy.1, s.destroy.2⟩ := by
  intro log
  rcases s with ⟨mesh, workspace, scope, options, stage⟩
  unfold Procedure.destroy
  cases stage <;> simp [destroy, parts, state, ready?, size?]

/-- Every call on the parts of a session is the session's call. -/
theorem simulates_procedure (s : Session k σ) (call : Call k σ) :
    Simulates call.procedure s (s.perform call) := by
  cases call with
  | withFunction function memory => exact fun log => by rw [perform, List.append_nil]; rfl
  | withScope scope => exact fun log => by rw [perform, List.append_nil]; rfl
  | withOptions options => exact fun log => by rw [perform, List.append_nil]; rfl
  | setup => exact simulates_setup s
  | invert rhs => exact simulates_invert s rhs
  | verify rhs tolerance => exact simulates_verify s rhs tolerance
  | apply f => exact simulates_apply s f
  | report => exact fun log => by rw [perform, List.append_nil]; rfl
  | destroy => exact simulates_destroy s

theorem perform_parts (s : Session k σ) (call : Call k σ) :
    s.parts.perform call = (s.perform call).parts :=
  Parts.perform_of_result (simulates_procedure s call [])

/-! ## All calls -/

namespace Parts

/-- The parts after a call. -/
def after (p : Parts k σ) (call : Call k σ) : Parts k σ := (p.perform call).parts

/-- The parts after some calls, one after the other. -/
def afterAll (p : Parts k σ) (calls : List (Call k σ)) : Parts k σ := calls.foldl after p

end Parts

theorem after_parts (s : Session k σ) (call : Call k σ) :
    s.parts.after call = (s.after call).parts := by
  unfold Parts.after
  rw [perform_parts, ← session_perform]
  rfl

theorem afterAll_parts (calls : List (Call k σ)) (s : Session k σ) :
    s.parts.afterAll calls = (s.afterAll calls).parts := by
  induction calls generalizing s with
  | nil => rfl
  | cons call calls ih =>
      show (s.parts.after call).afterAll calls = _
      rw [after_parts, ih]
      rfl

end Session

end MatrixFree
