import MatrixFree.Proofs.Session.Invert
import MatrixFree.Proofs.Session.Multiply

/-!
# The flat system behind an inversion

A field operator that stays on a mesh is an operator on flat vectors: unpack, apply, pack
(`FieldOperator.flatten`).  An inversion solves the system of that operator, and nothing
else: the verdict, the solution, and the fields that the operator is applied to, one after
the other, are those of a solve on flat vectors (`Session.invert_refines`).

The two runs are held together by what the session shares with its shell operator.  The
relation is that the adapter there has the operator in use, with the memory that the flat
run has at the same moment; what else is shared, the phases that were measured, no operator
reads.
-/

namespace MatrixFree

open Grid Engine Options Krylov

namespace FieldOperator

variable {k : Kind} {σ : Type}

/-- Every field with values on the mesh is answered by another. -/
def StaysOn (f : FieldOperator k σ) (mesh : Mesh) : Prop :=
  ∀ (x : Field k) memory, x.mesh = mesh → x.isAllocated = true →
    ∃ y, (f x memory).1 = .ok y ∧ y.mesh = mesh ∧ y.isAllocated = true

/-- The memory holds a list of what the operator was applied to, in order. -/
def Lists (f : FieldOperator k σ) (applied : σ → List (Field k)) : Prop :=
  ∀ x memory, applied (f x memory).2 = applied memory ++ [x]

/-- The operator on flat vectors: unpack, apply, pack. -/
def flatten (f : FieldOperator k σ) (mesh : Mesh) :
    Action σ (Failure EngineError) Float (k.count mesh) :=
  fun x _ memory =>
    match (Field.new mesh : Field k).withVector x.toVector with
    | .error e => (.error e.inMultiply, memory)
    | .ok input =>
      match f input memory with
      | (.error fault, memory) => (.error (.fault fault), memory)
      | (.ok output, memory) =>
        ((output.toVector (k.count mesh)).mapError SessionError.asFailure, memory)

/-! ## One application -/

section Application

variable {f : FieldOperator k σ} {mesh : Mesh}

theorem StaysOn.atHome (stays : f.StaysOn mesh) (x : Vector Float (k.count mesh)) (memory : σ) :
    Answer.AtHome mesh (f (Field.ofVector mesh x) memory).1 :=
  stays (Field.ofVector mesh x) memory rfl rfl

/-- Without room for the indices nothing is unpacked. -/
theorem flatten_of_full {fault : Fault} (full : k.reserveIndices mesh = .error fault)
    (x y : Vector Float (k.count mesh)) (memory : σ) :
    f.flatten mesh x.toArray y memory = (.error (.fault fault), memory) := by
  unfold flatten
  simp only [Field.withVector_toArray, Field.withVector_new, full]
  rfl

/-- An application of the flat operator is one of the operator, to the field of the vector. -/
theorem flatten_of_room (room : k.reserveIndices mesh = .ok ()) (stays : f.StaysOn mesh)
    (x y : Vector Float (k.count mesh)) (memory : σ) :
    f.flatten mesh x.toArray y memory = (Answer.pack mesh (f (Field.ofVector mesh x) memory).1,
      (f (Field.ofVector mesh x) memory).2) := by
  obtain ⟨output, answer, home, -⟩ := stays.atHome x memory
  unfold flatten
  simp only [Field.withVector_toArray, Field.withVector_new, room]
  rcases image : f (Field.ofVector mesh x) memory with ⟨a, memory'⟩
  rw [image] at answer
  obtain rfl : a = .ok output := answer
  simp only [Answer.pack, home, ne_eq, not_true_eq_false, if_false]

/-- The multiply of a session does what the flat operator does. -/
theorem shell_mirrors (stays : f.StaysOn mesh) :
    (meshShell k σ mesh).apply.Mirrors
      (fun (w : Workspace k σ) memory => w.adapter = ⟨f, memory⟩) (f.flatten mesh) := by
  intro (x : Vector Float (k.count mesh)) (y : Vector Float (k.count mesh)) w memory inUse
  show ((meshShell k σ mesh).apply x.toArray y w).1 = (f.flatten mesh x.toArray y memory).1 ∧
    ((meshShell k σ mesh).apply x.toArray y w).2.adapter =
      ⟨f, (f.flatten mesh x.toArray y memory).2⟩
  -- Both unpack first, so without room they fail alike, and the operator is not applied.
  cases listed : k.reserveIndices mesh with
  | error fault =>
      rw [meshShell_of_full x y listed, flatten_of_full listed]
      exact ⟨rfl, inUse⟩
  | ok _ =>
      obtain ⟨w', multiplied, inUse'⟩ := meshShell_of_room x y listed inUse
      rw [flatten_of_room listed stays, multiplied]
      exact ⟨rfl, inUse'⟩

/-- Beside a list of arrays the memory has the same list again, behind what it listed
`before`, with a field for each array. -/
def Listed (mesh : Mesh) (applied : σ → List (Field k)) (before : List (Field k)) (memory : σ)
    (p : σ × List (Array Float)) : Prop :=
  p.1 = memory ∧
    applied memory = before ++ p.2.map fun xs => ((Field.new mesh : Field k).copyFrom xs).2

theorem Listed.start (mesh : Mesh) (applied : σ → List (Field k)) (memory : σ) :
    Listed mesh applied (applied memory) memory (memory, []) :=
  ⟨rfl, (List.append_nil _).symm⟩

/-- Where the indices can be listed, the operator is applied to the fields of the arrays
that the flat operator multiplies. -/
theorem flatten_mirrors_recorded (stays : f.StaysOn mesh) (room : k.reserveIndices mesh = .ok ())
    {applied : σ → List (Field k)} (lists : f.Lists applied) (before : List (Field k)) :
    (f.flatten mesh).Mirrors (Listed mesh applied before) (f.flatten mesh).recorded := by
  rintro x y memory ⟨memory', asked⟩ ⟨rfl, held⟩
  have unpacked : ((Field.new mesh : Field k).copyFrom x.toArray).2 = Field.ofVector mesh x := by
    unfold Field.copyFrom
    rw [Field.withVector_toArray, Field.withVector_new, room]
  refine ⟨rfl, rfl, ?_⟩
  rw [flatten_of_room room stays]
  dsimp only [Action.recorded]
  rw [lists, held, List.map_append, List.append_assoc, List.map_singleton, unpacked]

/-- Only the list of the indices can want room. -/
theorem flatten_failsOnly (stays : f.StaysOn mesh) :
    (f.flatten mesh).FailsOnly fun e =>
      e = .fault .capacityOverflow ∧ k.reserveIndices mesh = .error .capacityOverflow := by
  intro x y memory e failed
  cases listed : k.reserveIndices mesh with
  | error fault =>
      obtain rfl := Kind.reserveIndices_error listed
      rw [flatten_of_full listed] at failed
      cases failed
      exact ⟨rfl, rfl⟩
  | ok _ =>
      obtain ⟨v, packed⟩ := Answer.pack_of_atHome (stays.atHome x memory)
      rw [flatten_of_room listed stays, packed] at failed
      cases failed

end Application

/-! ## Whole runs -/

/-- The solve of the flat system that settings choose. -/
def flatRun (f : FieldOperator k σ) (settings : Settings) {mesh : Mesh}
    (b guess : Vector Float (k.count mesh)) (memory : σ) :
    Report σ (Failure EngineError) Float (k.count mesh) :=
  runSolver settings (f.flatten mesh) b guess memory

/-- The fields that this solve applies the operator to, in order. -/
def appliedTo (f : FieldOperator k σ) (settings : Settings) {mesh : Mesh}
    (b guess : Vector Float (k.count mesh)) (memory : σ) : List (Field k) :=
  (runSolver settings (f.flatten mesh).recorded b guess (memory, [])).memory.2.map fun xs =>
    ((Field.new mesh : Field k).copyFrom xs).2

section Run

variable {f : FieldOperator k σ} {mesh : Mesh} {settings : Settings}
  {b guess : Vector Float (k.count mesh)} {memory : σ}

/-- A flat run with a record has listed the indices. -/
theorem room_of_flatRun_ok {stats : Stats Float}
    (ok : (f.flatRun settings b guess memory).result = .ok stats) :
    k.reserveIndices mesh = .ok () := by
  obtain ⟨y, image⟩ := runSolver_ok ok
  cases listed : k.reserveIndices mesh with
  | error fault =>
      rw [flatten_of_full listed] at image
      cases image
  | ok _ => rfl

theorem flatRun_error (stays : f.StaysOn mesh) {e : Failure EngineError}
    (failed : (f.flatRun settings b guess memory).result = .error e) :
    e = .fault .capacityOverflow :=
  runSolver_failsOnly (fun x y memory e failed => (flatten_failsOnly stays x y memory e failed).1)
    rfl failed

/-- A memory that lists the applications has, after a flat run, those of that run. -/
theorem Lists.flatRun (stays : f.StaysOn mesh) {applied : σ → List (Field k)}
    (lists : f.Lists applied) {stats : Stats Float}
    (ok : (f.flatRun settings b guess memory).result = .ok stats) :
    applied (f.flatRun settings b guess memory).memory =
      applied memory ++ f.appliedTo settings b guess memory := by
  have mirrors := flatten_mirrors_recorded stays (room_of_flatRun_ok ok) lists (applied memory)
  have start := Listed.start mesh applied memory
  exact (runSolver_mirrors mirrors settings b guess start).memory.2

end Run

end FieldOperator

namespace Session

variable {k : Kind} {σ : Type}

/-- What an inversion owes to the flat run. -/
structure Refines (f : FieldOperator k σ) (settings : Settings) {mesh : Mesh}
    (b guess : Vector Float (k.count mesh)) (memory : σ) (out : Outcome k σ (Field k)) : Prop where
  converged : ∀ stats, (f.flatRun settings b guess memory).result = .ok stats →
    stats.reason.isConverged = true →
      ∃ x, out.answer = .ok x ∧ x.mesh = mesh ∧
        x.toVector (k.count mesh) = .ok (f.flatRun settings b guess memory).solution ∧
        ∀ p (h : p < k.count mesh), x.get (Box.indexAt (k.extents mesh) p) =
          .ok (f.flatRun settings b guess memory).solution[p]
  unconverged : ∀ stats, (f.flatRun settings b guess memory).result = .ok stats →
    stats.reason.isConverged = false →
      out.answer = .error (.error (.notConverged stats.reason.code))
  /-- A run without a record lacked room, and the inversion lacks it too. -/
  failed : ∀ e, (f.flatRun settings b guess memory).result = .error e →
    e = .fault .capacityOverflow ∧ out.answer = .error (.fault .capacityOverflow)
  adapter : out.session.workspace.adapter =
    ⟨f, (f.flatRun settings b guess memory).memory⟩
  solution : ∃ r, out.session.stage = .ready r ∧
    r.solution.entries = (f.flatRun settings b guess memory).solution.toArray
  last : ∀ stats, (f.flatRun settings b guess memory).result = .ok stats →
    out.session.last? = some stats
  applications : ∀ stats, (f.flatRun settings b guess memory).result = .ok stats →
    ∀ applied, f.Lists applied → applied out.session.workspace.adapter.memory =
      applied memory ++ f.appliedTo settings b guess memory

/-- A run over the session's own operator, with `f` in use, is the flat run. -/
theorem Reports.refines {f : FieldOperator k σ} {mesh : Mesh} (stays : f.StaysOn mesh)
    {settings : Settings} {b guess : Vector Float (k.count mesh)} {memory : σ}
    {w : Workspace k σ} (inUse : w.adapter = ⟨f, memory⟩) {out : Outcome k σ (Field k)}
    (h : Reports mesh (runOver settings b guess w) out) :
    Refines f settings b guess memory out := by
  have mirrors : (runOver settings b guess w).Mirrors
      (fun (w : Workspace k σ) memory => w.adapter = ⟨f, memory⟩)
      (f.flatRun settings b guess memory) :=
    runSolver_mirrors (FieldOperator.shell_mirrors stays) settings b guess inUse
  have answer : out.answer = answerOf mesh (f.flatRun settings b guess memory) := by
    rw [h.answer]
    unfold answerOf
    rw [mirrors.result, mirrors.solution]
  have adapter := h.adapter.trans mirrors.memory
  refine ⟨?_, ?_, ?_, adapter, ?_, ?_, ?_⟩
  · intro stats ok converged
    have room := FieldOperator.room_of_flatRun_ok ok
    rw [answerOf_ok ok, if_pos converged, Field.withVector_new, room] at answer
    exact ⟨_, answer, rfl, Field.toVector_ofVector _ _, fun p hp => Field.get_ofVector _ hp⟩
  · intro stats ok diverged
    rw [answerOf_ok ok, diverged, if_neg Bool.false_ne_true] at answer
    exact answer
  · intro e failed
    have full := FieldOperator.flatRun_error stays failed
    rw [answerOf_error failed, full] at answer
    exact ⟨full, answer⟩
  · obtain ⟨r, ready, solution⟩ := h.solution
    exact ⟨r, ready, by rw [solution, mirrors.solution]⟩
  · intro stats ok
    exact h.last stats (mirrors.result.trans ok)
  · intro stats ok applied lists
    rw [adapter]
    exact lists.flatRun stays ok

theorem invert_refines_of_continues {t : Session k σ} {r : Ready k σ} (ready : t.stage = .ready r)
    {scope : String} {settings : Settings}
    (continued : (Ready.initial t.mesh scope settings).Continues r) {f : FieldOperator k σ}
    (stays : f.StaysOn t.mesh) (memory : σ) {rhs : Field k} (home : rhs.mesh = t.mesh)
    (allocated : rhs.isAllocated = true) :
    ∃ b previous, rhs.toVector (k.count t.mesh) = .ok b ∧ r.solution.entries = previous.toArray ∧
      Refines f settings b
        (if settings.keepGuess then previous else Vector.replicate (k.count t.mesh) 0.0) memory
        ((t.withFunction f memory).invert rhs) := by
  obtain ⟨b, packed⟩ := Field.exists_toVector home allocated
  obtain ⟨previous, entries⟩ := continued.previous
  have run := invert_run (s := t.withFunction f memory) ready continued home packed entries
  exact ⟨b, previous, packed, entries, run.refines stays rfl⟩

end Session

end MatrixFree
