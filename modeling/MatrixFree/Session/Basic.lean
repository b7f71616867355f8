import MatrixFree.Engine.Handle
import MatrixFree.Session.Workspace

/-!
# Sessions

A session makes an operator function invertible. It lives through three stages, and `Stage` gives
each what it has: a fresh session is configured, a ready one owns a solver handle and its two
vectors, and a destroyed one remembers only its size.

* `setup` builds the handle. A setup that fails leaves the session as it was.
* `invert` packs a right-hand side, solves, and unpacks the solution; a solve without convergence is
  an error. The operator's own errors come back as they were raised.
* `verify` inverts, applies the function once more and compares entry by entry.
* `destroy` lets go of the handle, in any stage and any number of times.

Each call answers its result together with the session afterwards and the events it logged.

That handle and vectors come and go together is no matter of types where a session is stored: there
each has a place of its own, which is filled and emptied by itself. `Session.Parts` is that record,
and its calls are proved to do what the calls here do (`Session.perform_parts`).
-/

namespace MatrixFree

open Grid Engine Options Text

/-- What a session has between setup and destruction. -/
structure Ready (k : Kind) (σ : Type) where
  handle : Handle Mesh (Workspace k σ)
  rhs : Slice
  solution : Slice
  /-- Local problem size. -/
  size : Nat

/-- The stages of a session's life. -/
inductive Stage (k : Kind) (σ : Type) where
  | fresh
  | ready (r : Ready k σ)
  /-- Holds the local problem size, if the session was ever ready. -/
  | destroyed (size : Option Nat)

/-- An operator function on fields of kind `k` that can be inverted. -/
structure Session (k : Kind) (σ : Type) where
  mesh : Mesh
  workspace : Workspace k σ
  /-- What stands in front of the keys of this session's options. -/
  scope : String
  options : Database
  stage : Stage k σ

namespace Session

variable {k : Kind} {σ α : Type}

/-- What a call on a session leaves. -/
structure Outcome (k : Kind) (σ α : Type) where
  answer : Except (Failure SessionError) α
  session : Session k σ
  log : List Event

/-- Whether operators can be inverted at all: sessions are part of this library. -/
def supportsInversion : Bool := true

/-- The scope of a session that was given none. -/
def defaultScope : String := "invert_"

/-- The tolerance of a verification that was given none. -/
def defaultTolerance : Float := 1e-5

/-- A session for the identity, with the options of a line of text. -/
def create (mesh : Mesh) (line : Option String) (memory : σ) : Session k σ where
  mesh := mesh
  workspace := ⟨.identity memory, []⟩
  scope := defaultScope
  options := .ofLine line
  stage := .fresh

/-- A session for a function, in the default scope. -/
def ofFunction (mesh : Mesh) (function : FieldOperator k σ) (memory : σ) (options : Database) :
    Session k σ where
  mesh := mesh
  workspace := ⟨⟨function, memory⟩, []⟩
  scope := defaultScope
  options := options
  stage := .fresh

def withScope (s : Session k σ) (scope : String) : Session k σ := { s with scope }

def withOptions (s : Session k σ) (options : Database) : Session k σ := { s with options }

/-- Install another operator function. A session that is ready uses it from the next multiply on. -/
def withFunction (s : Session k σ) (function : FieldOperator k σ) (memory : σ) : Session k σ :=
  { s with workspace := { s.workspace with adapter := ⟨function, memory⟩ } }

def measure (s : Session k σ) (phase : Phase) : Session k σ :=
  { s with workspace := s.workspace.measure phase }

namespace Outcome

/-- Note that a phase was measured, unless a fault ended it. -/
def measure (out : Outcome k σ α) (phase : Phase) : Outcome k σ α :=
  match out.answer with
  | .error (.fault _) => out
  | _ => { out with session := out.session.measure phase }

variable (out : Outcome k σ α) (phase : Phase)

@[simp] theorem answer_measure : (out.measure phase).answer = out.answer := by
  unfold measure
  split <;> rfl

@[simp] theorem log_measure : (out.measure phase).log = out.log := by
  unfold measure
  split <;> rfl

@[simp] theorem mesh_measure : (out.measure phase).session.mesh = out.session.mesh := by
  unfold measure
  split <;> rfl

@[simp] theorem stage_measure : (out.measure phase).session.stage = out.session.stage := by
  unfold measure
  split <;> rfl

@[simp] theorem adapter_measure :
    (out.measure phase).session.workspace.adapter = out.session.workspace.adapter := by
  unfold measure
  split <;> rfl

end Outcome

/-- A call that is refused and changes nothing. -/
def refuse (s : Session k σ) (e : SessionError) : Outcome k σ α := ⟨.error (.error e), s, []⟩

/-- The answer of an engine call, in which an error carries the name of the call. -/
def called (call : String) : Except EngineError α → Except (Failure SessionError) α
  | .ok a => .ok a
  | .error e => .error (.error (.engineCall call e))

/-! ## Setup -/

/-- What setup builds, and the events it logs. -/
def build (s : Session k σ) : Except (Failure SessionError) (Ready k σ × List Event) := do
  let n ← (Field.storedCount k s.mesh).mapError .fault
  let shell ← called "MatCreateShell" (Shell.create s.mesh.comm n n none s.mesh)
  let zeros ← shell.zeros.mapError .fault
  let shell := shell.withMultiply (fieldMultiply k σ shell.size)
  let handle := (Handle.create s.mesh.comm).setOperator shell
  let (admitted, handle) := handle.setScope s.scope
  called "KSPSetOptionsPrefix" admitted
  let (configured, handle) := handle.setFromOptions s.options
  called "KSPSetFromOptions" configured
  let (checked, handle, log) := handle.setUp
  called "KSPSetUp" checked
  let ready : Ready k σ := { handle, rhs := zeros, solution := zeros, size := n }
  return (ready, log ++ [.sessionReady s.scope n shell.globalSize handle.settings.solver])

/-- Build the solver. The answer is the local problem size. -/
def setup (s : Session k σ) : Outcome k σ Nat :=
  match s.stage with
  | .ready _ => s.refuse .setupReentry
  | .destroyed _ => s.refuse .useAfterDestroy
  | .fresh =>
    match s.build with
    | .error e => ⟨.error e, s, []⟩
    | .ok (r, log) => ⟨.ok r.size, { s with stage := .ready r }.measure .setup, log⟩

/-! ## Inversion -/

/-- The handle and the vectors, if the session is ready for the field. -/
def readyFor (s : Session k σ) (f : Field k) : Except SessionError (Ready k σ) :=
  match s.stage with
  | .fresh => .error .useBeforeSetup
  | .destroyed _ => .error .useAfterDestroy
  | .ready r => if f.mesh = s.mesh then .ok r else .error .meshMismatch

/-- The failure of a solve as the session's own. -/
def ofSolveFailure : Failure EngineError → Failure SessionError
  | .error (.callback (.session e)) => .error e
  | .error e => .error (.engineCall "KSPSolve" e)
  | .fault f => .fault f

/-- Unpack the solution of a solve that stopped for `reason`. -/
def unpack (s : Session k σ) (reason : Krylov.Reason) (solution : Slice) (log : List Event) :
    Outcome k σ (Field k) :=
  if reason.isConverged then
    match (Field.new s.mesh).withVector solution.entries.toVector with
    | .ok x => ⟨.ok x, s.measure .packing, log⟩
    | .error e => ⟨.error e, s, log⟩
  else ⟨.error (.error (.notConverged reason.code)), s, log⟩

/-- Solve with the handle and the vectors of a ready session. -/
def solve (s : Session k σ) (r : Ready k σ) (rhs : Field k) : Outcome k σ (Field k) :=
  match rhs.toVector r.rhs.size with
  | .error e => s.refuse e
  | .ok b =>
    let b : Slice := { r.rhs with entries := b.toArray }
    let out := r.handle.solve b r.solution (s.workspace.measure .packing)
    let r := { r with handle := out.handle, rhs := b, solution := out.solution }
    let s := { s with workspace := out.memory, stage := .ready r }
    match out.result with
    | .error e => ⟨.error (ofSolveFailure e), s, out.log⟩
    | .ok reason => s.unpack reason out.solution out.log

/-- The field that the operator takes to `rhs`. -/
def invert (s : Session k σ) (rhs : Field k) : Outcome k σ (Field k) :=
  match s.readyFor rhs with
  | .error e => s.refuse e
  | .ok r => (s.solve r rhs).measure .invert

/-! ## Application and verification -/

/-- Apply the operator function. -/
def apply (s : Session k σ) (f : Field k) : Except Fault (Field k) × Session k σ :=
  let (answer, workspace) := s.workspace.apply f
  (answer, { s with workspace })

/-- The largest magnitude, or NaN if there is a NaN. -/
def maxAbs (xs : List Float) : Float :=
  xs.foldl (fun acc x =>
    if acc.isNaN || x.isNaN then 0.0 / 0.0 else if acc < x.abs then x.abs else acc) 0.0

/-- Compare the image `y` of a solution `x` with the right-hand side it should be. -/
def compare (s : Session k σ) (rhs x y : Field k) (tolerance : Float) : Bool × List Event :=
  let across := fun (values : List Float) => s.mesh.comm.max (maxAbs values)
  let difference := across (List.zipWith (· - ·) y.toList rhs.toList)
  if difference < tolerance then (true, [])
  else (false, [.unverified s.scope difference tolerance (across rhs.toList) (across y.toList)
    (across x.toList)])

/-- Whether inverting `rhs` and applying the operator reproduces it within the tolerance. -/
def verify (s : Session k σ) (rhs : Field k) (tolerance : Float) : Outcome k σ Bool :=
  let ⟨inverted, s, log⟩ := s.invert rhs
  match inverted with
  | .error e => ⟨.error e, s, log⟩
  | .ok x =>
    match s.apply x with
    | (.error fault, s) => ⟨.error (.fault fault), s, log⟩
    | (.ok y, s) =>
      if y.mesh ≠ s.mesh then ⟨.error (.error .foreignResult), s, log⟩
      else if !y.isAllocated then ⟨.error (.error .unallocated), s, log⟩
      else
        let (passed, warnings) := s.compare rhs x y tolerance
        ⟨.ok passed, s, log ++ warnings⟩

/-! ## Reports and destruction -/

/-- The phases measured since the last report, first to last, and the session that starts anew. -/
def report (s : Session k σ) : List Phase × Session k σ :=
  (s.workspace.measured.reverse, { s with workspace := { s.workspace with measured := [] } })

/-- The local problem size, once setup has fixed it. -/
def size? (s : Session k σ) : Option Nat :=
  match s.stage with
  | .fresh => none
  | .ready r => some r.size
  | .destroyed size => size

/-- The solver handle of a ready session. -/
def handle? (s : Session k σ) : Option (Handle Mesh (Workspace k σ)) :=
  match s.stage with
  | .ready r => some r.handle
  | _ => none

/-- Let go of the solver. -/
def destroy (s : Session k σ) : Session k σ × List Event :=
  match s.stage with
  | .fresh => ({ s with stage := .destroyed none }, [])
  | .ready r =>
    ({ s with stage := .destroyed (some r.size) }, [.releasing s.scope r.handle.view])
  | .destroyed _ => (s, [])

/-- The record of the last solve. -/
def last? (s : Session k σ) : Option (Krylov.Stats Float) := s.handle?.bind (·.last)

/-- The name of the stage. -/
def stageName (s : Session k σ) : String :=
  match s.stage with
  | .fresh => "Uninitialized"
  | .ready _ => "SetUp"
  | .destroyed _ => "Destroyed"

/-- The session's state, as a structured text. -/
def detail (s : Session k σ) : String :=
  let shell? := s.handle?.bind fun handle => handle.operator.map Shell.detail
  partialRecord "ShellInverter"
    [("prefix", quote s.scope), ("state", s.stageName),
      ("local_size", optional (s.size?.map toString)), ("shell", optional shell?)]

end Session

end MatrixFree
