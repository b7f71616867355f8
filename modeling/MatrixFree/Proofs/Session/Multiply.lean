import MatrixFree.Proofs.Grid.Fields
import MatrixFree.Proofs.Session.Setup

/-!
# One multiply of a session

A multiply of a session's shell operator unpacks a vector, applies the operator in use once, and
makes a vector of the answer (`meshShell_of_room`).  It succeeds exactly if the answer is at
home: a field with values on the session's mesh.  Otherwise it fails with what is wrong with
the answer (`Answer.pack_of_not_atHome`), which a session recovers unchanged from the engine
(`Session.ofSolveFailure_inMultiply`).
-/

namespace MatrixFree

open Grid Engine

variable {k : Kind} {σ : Type}

/-- What an operator function answers. -/
abbrev Answer (k : Kind) := Except Fault (Field k)

namespace Answer

/-- The answer is a field with values on the mesh. -/
def AtHome (mesh : Mesh) (a : Answer k) : Prop :=
  ∃ y, a = .ok y ∧ y.mesh = mesh ∧ y.isAllocated = true

/-- What is wrong with an answer that is not at home. -/
def stray (mesh : Mesh) : Answer k → Failure SessionError
  | .error fault => .fault fault
  | .ok y => if y.mesh ≠ mesh then .error .foreignResult else .error .unallocated

/-- The vector that a multiply makes of an answer. -/
def pack (mesh : Mesh) (a : Answer k) :
    Except (Failure EngineError) (Vector Float (k.count mesh)) :=
  match a with
  | .error fault => .error (.fault fault)
  | .ok y =>
    if y.mesh ≠ mesh then .error SessionError.foreignResult.asFailure
    else (y.toVector (k.count mesh)).mapError SessionError.asFailure

variable {mesh : Mesh} {a : Answer k} {y : Field k}

theorem not_atHome_of_foreign (away : y.mesh ≠ mesh) : ¬AtHome mesh (.ok y) := by
  rintro ⟨y', same, here, -⟩
  cases same
  exact away here

theorem not_atHome_of_unallocated (empty : y.isAllocated = false) : ¬AtHome mesh (.ok y) := by
  rintro ⟨y', same, -, allocated⟩
  cases same
  rw [empty] at allocated
  cases allocated

theorem not_atHome_of_fault (fault : Fault) : ¬AtHome mesh (.error fault : Answer k) := by
  rintro ⟨y, same, -⟩
  cases same

theorem stray_of_foreign (away : y.mesh ≠ mesh) : stray mesh (.ok y) = .error .foreignResult :=
  if_pos away

theorem stray_of_here (here : y.mesh = mesh) : stray mesh (.ok y) = .error .unallocated :=
  if_neg (not_not_intro here)

theorem stray_ne_notConverged (code : Int) : stray mesh a ≠ .error (.notConverged code) := by
  unfold stray
  split
  · exact nofun
  · split <;> exact nofun

theorem pack_of_atHome (home : AtHome mesh a) : ∃ v, pack mesh a = .ok v := by
  obtain ⟨y, rfl, here, allocated⟩ := home
  obtain ⟨v, packed⟩ := Field.exists_toVector here allocated
  refine ⟨v, ?_⟩
  simp only [pack, here, ne_eq, not_true_eq_false, if_false, packed]
  rfl

theorem pack_of_not_atHome (away : ¬AtHome mesh a) :
    pack mesh a = .error (stray mesh a).inMultiply := by
  cases a with
  | error fault => rfl
  | ok y =>
      by_cases here : y.mesh = mesh
      · have empty : y.isAllocated = false :=
          eq_false_of_ne_true fun allocated => away ⟨y, rfl, here, allocated⟩
        rw [stray_of_here here]
        simp only [pack, here, ne_eq, not_true_eq_false, if_false,
          Field.toVector_of_not_isAllocated empty]
        rfl
      · rw [stray_of_foreign here]
        exact if_pos here

end Answer

/-- A failure that a multiply hands to the engine comes back as it was. -/
theorem Session.ofSolveFailure_inMultiply (failure : Failure SessionError) :
    Session.ofSolveFailure failure.inMultiply = failure := by
  cases failure <;> rfl

section Multiply

variable {mesh : Mesh} (x y : Vector Float (k.count mesh))

/-- Without room for the indices nothing is unpacked, and the operator is not applied. -/
theorem meshShell_of_full {fault : Fault} (full : k.reserveIndices mesh = .error fault)
    (w : Workspace k σ) :
    (meshShell k σ mesh).apply x.toArray y w = (.error (.fault fault), w) := by
  rw [meshShell_apply]
  unfold fieldMultiply
  simp only [Field.withVector_new, full]
  rfl

/-- With room for the indices the operator in use is applied once, to the field of the vector, and
its answer is packed. -/
theorem meshShell_of_room (room : k.reserveIndices mesh = .ok ()) {w : Workspace k σ}
    {f : FieldOperator k σ} {memory : σ} (inUse : w.adapter = ⟨f, memory⟩) :
    ∃ w', (meshShell k σ mesh).apply x.toArray y w =
        (Answer.pack mesh (f (Field.ofVector mesh x) memory).1, w') ∧
      w'.adapter = ⟨f, (f (Field.ofVector mesh x) memory).2⟩ := by
  have applied : (w.measure .packing).apply (Field.ofVector mesh x) =
      ((f (Field.ofVector mesh x) memory).1, { w.measure .packing with
        adapter := ⟨f, (f (Field.ofVector mesh x) memory).2⟩ }) := by
    dsimp only [Workspace.measure, Workspace.apply, Adapter.apply]
    rw [inUse]
  rw [meshShell_apply]
  unfold fieldMultiply
  simp only [Field.withVector_new, room, applied]
  cases (f (Field.ofVector mesh x) memory).1 with
  | error fault => exact ⟨_, rfl, rfl⟩
  | ok output =>
      by_cases home : output.mesh = mesh
      · simp only [Answer.pack, home, ne_eq, not_true_eq_false, if_false]
        cases output.toVector (k.count mesh) with
        | error e => exact ⟨_, rfl, rfl⟩
        | ok v => exact ⟨_, rfl, rfl⟩
      · simp only [Answer.pack, home, ne_eq, not_false_eq_true, if_true]
        exact ⟨_, rfl, rfl⟩

end Multiply

end MatrixFree
