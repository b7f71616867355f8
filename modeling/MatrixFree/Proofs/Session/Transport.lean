import Mathlib.Control.Monad.Basic
import MatrixFree.Proofs.Session.Flattening
import MatrixFree.Proofs.Session.Multiply

/-!
# Answers that stray

An inversion applies the operator to fields, and an answer is at home if it is a field with
values on the session's mesh.  The first answer that is not at home ends the inversion: what
is wrong with it goes through the engine and comes out unchanged, and the operator is not
applied again.  While all answers are at home the inversion ends as its solve does, with a
field or with the negative code of the verdict (`Session.invert_transports`).

What an operator answered is found in its memory: `FieldOperator.remembering` is the operator
that keeps a list of its answers, and `FieldOperator.answers` is the list after the run of a
session's method.  The invariant of that run is that all answers so far are at home; a
failure of the run has its cause at the end of the list (`Strayed`).
-/

namespace MatrixFree

open Grid Engine Options Krylov

variable {k : Kind} {σ : Type}

/-! ## All answers of a run -/

namespace FieldOperator

/-- The operator, which now also lists what it answered. -/
def remembering (f : FieldOperator k σ) : FieldOperator k (σ × List (Answer k)) :=
  fun x (memory, told) => ((f x memory).1, ((f x memory).2, told ++ [(f x memory).1]))

/-- The memory holds a list of what the operator answered, in order. -/
def Tells (f : FieldOperator k σ) (told : σ → List (Answer k)) : Prop :=
  ∀ x memory, told (f x memory).2 = told memory ++ [(f x memory).1]

/-- What the operator answers in the run of a session's method, in order. -/
def answers (f : FieldOperator k σ) (settings : Settings) {mesh : Mesh}
    (b guess : Vector Float (k.count mesh)) (memory : σ) : List (Answer k) :=
  (Session.runOver settings b guess
    ⟨⟨f.remembering, memory, []⟩, []⟩).memory.adapter.memory.2

/-- There is no room for a list of the indices, or none for the basis of minimal residuals. -/
def Cramped (k : Kind) (mesh : Mesh) (settings : Settings) : Prop :=
  k.reserveIndices mesh = .error .capacityOverflow ∨
    settings.solver = .minimalResidual ∧
      ¬Storage.HasRoom (settings.restart + 1) Storage.vectorBytes

variable {f : FieldOperator k σ} {mesh : Mesh}

/-- The operator in use lists its answers, and all of them are at home. -/
def AllHome (f : FieldOperator k σ) (mesh : Mesh) (w : Workspace k (σ × List (Answer k))) :
    Prop :=
  ∃ memory told, w.adapter = ⟨f.remembering, memory, told⟩ ∧ ∀ a ∈ told, Answer.AtHome mesh a

/-- The last answer is the only one that is not at home, and `e` is what is wrong with it. -/
def Strayed (f : FieldOperator k σ) (mesh : Mesh) (e : Failure EngineError)
    (w : Workspace k (σ × List (Answer k))) : Prop :=
  ∃ memory before a, w.adapter = ⟨f.remembering, memory, before ++ [a]⟩ ∧
    (∀ a ∈ before, Answer.AtHome mesh a) ∧ ¬Answer.AtHome mesh a ∧
    e = (Answer.stray mesh a).inMultiply

/-- A failure by the last answer, or for want of room. -/
def Ended (f : FieldOperator k σ) (mesh : Mesh) (cramped : Prop) (e : Failure EngineError)
    (w : Workspace k (σ × List (Answer k))) : Prop :=
  Strayed f mesh e w ∨ AllHome f mesh w ∧ e = .fault .capacityOverflow ∧ cramped

theorem meshShell_leaves (f : FieldOperator k σ) (mesh : Mesh) (settings : Settings) :
    (meshShell k (σ × List (Answer k)) mesh).apply.Leaves (AllHome f mesh)
      (Ended f mesh (Cramped k mesh settings)) := by
  rintro (x : Vector Float (k.count mesh)) (y : Vector Float (k.count mesh)) w allHome
  cases listed : k.reserveIndices mesh with
  | error fault =>
      obtain rfl := Kind.reserveIndices_error listed
      rw [meshShell_of_full x y listed w]
      refine ⟨nofun, ?_⟩
      rintro _ ⟨⟩
      exact Or.inr ⟨allHome, rfl, Or.inl listed⟩
  | ok room =>
      obtain ⟨memory, told, inUse, home⟩ := allHome
      obtain ⟨w', multiplied, adapter⟩ := meshShell_of_room x y listed inUse
      rw [multiplied]
      by_cases here : Answer.AtHome mesh (f (Field.ofVector mesh x) memory).1
      · refine ⟨fun _ _ => ⟨_, _, adapter, ?_⟩, ?_⟩
        · intro a mem
          rcases List.mem_append.1 mem with earlier | last
          · exact home a earlier
          · rw [List.mem_singleton.1 last]
            exact here
        · intro e failed
          obtain ⟨v, packed⟩ := Answer.pack_of_atHome here
          cases packed.symm.trans failed
      · have packed := Answer.pack_of_not_atHome here
        refine ⟨?_, ?_⟩
        · intro v ok
          cases packed.symm.trans ok
        · intro e failed
          cases packed.symm.trans failed
          exact Or.inl ⟨_, told, _, adapter, home, here, rfl⟩

/-- A run over an operator that lists its answers, from an empty list. -/
theorem runOver_leaves (f : FieldOperator k σ) (settings : Settings)
    (b guess : Vector Float (k.count mesh)) (memory : σ) :
    (Session.runOver settings b guess ⟨⟨f.remembering, memory, []⟩, []⟩).Leaves (AllHome f mesh)
      (Ended f mesh (Cramped k mesh settings)) := by
  refine runSolver_leaves (meshShell_leaves f mesh settings) ?_ b guess
    ⟨memory, [], rfl, fun _ => nofun⟩
  intro choice full w allHome
  exact Or.inr ⟨allHome, rfl, Or.inr ⟨choice, full⟩⟩

/-! ## The list is what happened -/

/-- Beside the operator in use stands one that lists its answers, with the same memory, and
any list in that memory is that list behind what it held `before`. -/
def Beside (f : FieldOperator k σ) (before : σ) (w : Workspace k σ)
    (w' : Workspace k (σ × List (Answer k))) : Prop :=
  ∃ memory list, w.adapter = ⟨f, memory⟩ ∧ w'.adapter = ⟨f.remembering, memory, list⟩ ∧
    ∀ told, f.Tells told → told memory = told before ++ list

theorem Beside.start (f : FieldOperator k σ) {before : σ} {w : Workspace k σ}
    (inUse : w.adapter = ⟨f, before⟩) : Beside f before w ⟨⟨f.remembering, before, []⟩, []⟩ :=
  ⟨before, [], inUse, rfl, fun told _ => (List.append_nil (told before)).symm⟩

theorem meshShell_beside (f : FieldOperator k σ) (mesh : Mesh) (before : σ) :
    (meshShell k σ mesh).apply.Mirrors (Beside f before)
      (meshShell k (σ × List (Answer k)) mesh).apply := by
  intro (x : Vector Float (k.count mesh)) (y : Vector Float (k.count mesh)) w w' beside
  cases listed : k.reserveIndices mesh with
  | error fault =>
      rw [meshShell_of_full x y listed w, meshShell_of_full x y listed w']
      exact ⟨rfl, beside⟩
  | ok room =>
      obtain ⟨memory, list, inUse, inUse', held⟩ := beside
      obtain ⟨v, multiplied, adapter⟩ := meshShell_of_room x y listed inUse
      obtain ⟨v', multiplied', adapter'⟩ := meshShell_of_room x y listed inUse'
      rw [multiplied, multiplied']
      refine ⟨rfl, _, _, adapter, adapter', ?_⟩
      intro told tells
      rw [tells, held told tells, List.append_assoc]

end FieldOperator

namespace Session

/-! ## The inversion -/

/-- An inversion that ends as its solve does: with a field, or with the negative code of a
verdict.  Where there is not room for all that a solve may ask for, it may end with that fault
instead. -/
def Settled (settings : Settings) (mesh : Mesh) (out : Outcome k σ (Field k)) : Prop :=
  (∃ x, out.answer = .ok x) ∨
    (∃ stats, out.session.last? = some stats ∧ stats.reason.code < 0 ∧
      out.answer = .error (.error (.notConverged stats.reason.code))) ∨
    out.answer = .error (.fault .capacityOverflow) ∧ FieldOperator.Cramped k mesh settings

theorem reason_code_neg {reason : Reason} (ended : reason ≠ .iterating)
    (diverged : reason.isConverged = false) : reason.code < 0 := by
  revert ended diverged
  cases reason <;> decide

/-- A run with a record has unpacked its guess. -/
theorem room_of_runOver_ok {mesh : Mesh} {settings : Settings}
    {b guess : Vector Float (k.count mesh)} {w : Workspace k σ} {stats : Stats Float}
    (ok : (runOver settings b guess w).result = .ok stats) : k.reserveIndices mesh = .ok () := by
  obtain ⟨y, image⟩ := runSolver_ok ok
  cases listed : k.reserveIndices mesh with
  | ok room => rfl
  | error fault =>
      have full := meshShell_of_full guess (Flat.zero (k.count mesh)) listed w
      cases (congrArg Prod.fst full).symm.trans image

section Report

variable {f : FieldOperator k σ} {mesh : Mesh} {settings : Settings}
  {b guess : Vector Float (k.count mesh)} {memory : σ} {w : Workspace k σ}
  {out : Outcome k σ (Field k)}

/-- A run does what it does when the operator lists its answers. -/
theorem runOver_beside (settings : Settings) (b guess : Vector Float (k.count mesh))
    (inUse : w.adapter = ⟨f, memory⟩) :
    (runOver settings b guess w).Mirrors (FieldOperator.Beside f memory)
      (runOver settings b guess ⟨⟨f.remembering, memory, []⟩, []⟩) :=
  runSolver_mirrors (FieldOperator.meshShell_beside f mesh memory) settings b guess
    (FieldOperator.Beside.start f inUse)

/-- A run with a record settles the inversion. -/
theorem Reports.settled (h : Reports mesh (runOver settings b guess w) out) {stats : Stats Float}
    (ok : (runOver settings b guess w).result = .ok stats) : Settled settings mesh out := by
  have answer := h.answer.trans (answerOf_ok ok)
  by_cases converged : stats.reason.isConverged = true
  · rw [if_pos converged, Field.withVector_new, room_of_runOver_ok ok] at answer
    exact Or.inl ⟨_, answer⟩
  · rw [if_neg converged] at answer
    have negative := reason_code_neg (runSolver_ended ok) (eq_false_of_ne_true converged)
    exact Or.inr (Or.inl ⟨stats, h.last stats ok, negative, answer⟩)

/-- Either all answers are at home, or the last is not and its fault is the inversion's. -/
theorem Reports.home_or_stray (inUse : w.adapter = ⟨f, memory⟩)
    (h : Reports mesh (runOver settings b guess w) out) :
    (∀ a ∈ f.answers settings b guess memory, Answer.AtHome mesh a) ∧ Settled settings mesh out ∨
      ∃ before a, f.answers settings b guess memory = before ++ [a] ∧
        (∀ a ∈ before, Answer.AtHome mesh a) ∧ ¬Answer.AtHome mesh a ∧
        out.answer = .error (Answer.stray mesh a) := by
  have mirrors := runOver_beside settings b guess inUse
  obtain ⟨kept, lost⟩ := FieldOperator.runOver_leaves f settings b guess memory
  unfold FieldOperator.answers
  rw [← mirrors.result] at kept lost
  cases result : (runOver settings b guess w).result with
  | ok stats =>
      obtain ⟨memory', told, adapter, home⟩ := kept stats result
      rw [adapter]
      exact Or.inl ⟨home, h.settled result⟩
  | error e =>
      have answer := h.answer.trans (answerOf_error result)
      rcases lost e result with
        ⟨memory', before, a, adapter, home, away, rfl⟩ | ⟨⟨memory', told, adapter, home⟩, rfl, full⟩
      · rw [adapter]
        rw [ofSolveFailure_inMultiply] at answer
        exact Or.inr ⟨before, a, rfl, home, away, answer⟩
      · rw [adapter]
        exact Or.inl ⟨home, Or.inr (Or.inr ⟨answer, full⟩)⟩

end Report

/-- What becomes of the operator's answers in an inversion. -/
structure Transports (f : FieldOperator k σ) (settings : Settings) {mesh : Mesh}
    (b guess : Vector Float (k.count mesh)) (memory : σ) (out : Outcome k σ (Field k)) : Prop where
  /-- A memory that tells what the operator answered has these answers, and no others. -/
  answers : ∀ told, f.Tells told → told out.session.workspace.adapter.memory =
    told memory ++ f.answers settings b guess memory
  /-- A field on another mesh is the last answer. -/
  foreign : ∀ i y, (f.answers settings b guess memory)[i]? = some (.ok y) → y.mesh ≠ mesh →
    (f.answers settings b guess memory).length = i + 1 ∧
      out.answer = .error (.error .foreignResult)
  /-- A field without values is the last answer. -/
  unallocated : ∀ i y, (f.answers settings b guess memory)[i]? = some (.ok y) → y.mesh = mesh →
    y.isAllocated = false → (f.answers settings b guess memory).length = i + 1 ∧
      out.answer = .error (.error .unallocated)
  /-- A fault of the operator is the last answer. -/
  fault : ∀ i fault, (f.answers settings b guess memory)[i]? = some (.error fault) →
    (f.answers settings b guess memory).length = i + 1 ∧ out.answer = .error (.fault fault)
  settled : (∀ a ∈ f.answers settings b guess memory, Answer.AtHome mesh a) →
    Settled settings mesh out
  /-- There are no other errors. -/
  errors : ∀ e, out.answer = .error (.error e) →
    e = .unallocated ∨ e = .foreignResult ∨ ∃ code, code < 0 ∧ e = .notConverged code

theorem Settled.error_cases {settings : Settings} {mesh : Mesh} {out : Outcome k σ (Field k)}
    (settled : Settled settings mesh out) {e : SessionError} (failed : out.answer = .error (.error e)) :
    ∃ code, code < 0 ∧ e = .notConverged code := by
  rcases settled with ⟨x, ok⟩ | ⟨stats, -, negative, unconverged⟩ | ⟨full, -⟩
  · cases ok.symm.trans failed
  · cases unconverged.symm.trans failed
    exact ⟨_, negative, rfl⟩
  · cases full.symm.trans failed

/-- The only answer that is not at home is the last one. -/
theorem eq_last_of_not_atHome {mesh : Mesh} {before : List (Answer k)} {last : Answer k}
    (home : ∀ a ∈ before, Answer.AtHome mesh a) {i : Nat} {a : Answer k}
    (given : (before ++ [last])[i]? = some a) (away : ¬Answer.AtHome mesh a) :
    last = a ∧ (before ++ [last]).length = i + 1 := by
  rw [List.length_append, List.length_singleton]
  by_cases early : i < before.length
  · rw [List.getElem?_append_left early] at given
    exact absurd (home a (List.mem_of_getElem? given)) away
  · rw [List.getElem?_append_right (Nat.le_of_not_lt early), List.getElem?_singleton] at given
    split at given
    · exact ⟨Option.some.inj given, by omega⟩
    · cases given

/-- An inversion, by its run over the operator in use. -/
theorem Reports.transports {f : FieldOperator k σ} {settings : Settings} {mesh : Mesh}
    {b guess : Vector Float (k.count mesh)} {memory : σ} {w : Workspace k σ}
    {out : Outcome k σ (Field k)} (inUse : w.adapter = ⟨f, memory⟩)
    (h : Reports mesh (runOver settings b guess w) out) :
    Transports f settings b guess memory out := by
  have mirrors := runOver_beside settings b guess inUse
  have outcome := h.home_or_stray inUse
  have stray : ∀ i a, (f.answers settings b guess memory)[i]? = some a →
      ¬Answer.AtHome mesh a → (f.answers settings b guess memory).length = i + 1 ∧
        out.answer = .error (Answer.stray mesh a) := by
    intro i a given away
    rcases outcome with ⟨home, -⟩ | ⟨before, last, list, home, -, failed⟩
    · exact absurd (home a (List.mem_of_getElem? given)) away
    · rw [list] at given ⊢
      obtain ⟨rfl, length⟩ := eq_last_of_not_atHome home given away
      exact ⟨length, failed⟩
  refine ⟨?_, ?_, ?_, ?_, ?_, ?_⟩
  · intro told tells
    obtain ⟨memory', list, adapter, adapter', held⟩ := mirrors.memory
    unfold FieldOperator.answers
    rw [h.adapter, adapter, adapter']
    exact held told tells
  · intro i y given away
    have last := stray i _ given (Answer.not_atHome_of_foreign away)
    rwa [Answer.stray_of_foreign away] at last
  · intro i y given here empty
    have last := stray i _ given (Answer.not_atHome_of_unallocated empty)
    rwa [Answer.stray_of_here here] at last
  · intro i fault given
    exact stray i _ given (Answer.not_atHome_of_fault fault)
  · intro home
    rcases outcome with ⟨-, settled⟩ | ⟨before, last, list, -, away, -⟩
    · exact settled
    · refine absurd (home last ?_) away
      rw [list]
      exact List.mem_append_right before (List.mem_singleton_self last)
  · intro e failed
    rcases outcome with ⟨-, settled⟩ | ⟨before, last, -, -, -, strayed⟩
    · exact Or.inr (Or.inr (settled.error_cases failed))
    · have same := Except.error.inj (strayed.symm.trans failed)
      cases last with
      | error fault => cases same
      | ok y =>
          by_cases here : y.mesh = mesh
          · rw [Answer.stray_of_here here] at same
            exact Or.inl (Failure.error.inj same).symm
          · rw [Answer.stray_of_foreign here] at same
            exact Or.inr (Or.inl (Failure.error.inj same).symm)

/-- **Stray answers end an inversion.**  A session that is set up, whatever was called on it
since, refuses a field without values before it applies the operator.  Of any other field on
its mesh it makes a solve: the first answer that is not at home is the operator's last, and
what is wrong with it is what the inversion answers; if there is none, the answer is a field
or the negative code of the verdict, as long as there is room.  The session stays ready. -/
theorem invert_transports {s : Session k σ} {n : Nat} (setUp : s.setup.answer = .ok n)
    (calls : List (Call k σ)) {r : Ready k σ}
    (ready : (s.setup.session.afterAll calls).stage = .ready r) (f : FieldOperator k σ)
    (memory : σ) {rhs : Field k} (home : rhs.mesh = s.mesh) :
    let t := (s.setup.session.afterAll calls).withFunction f memory
    (∃ r', (t.invert rhs).session.stage = .ready r') ∧
      (rhs.isAllocated = false →
        (t.invert rhs).answer = .error (.error .unallocated) ∧
          (t.invert rhs).session = t.measure .invert) ∧
      (rhs.isAllocated = true → ∃ settings, ∃ b previous : Vector Float (k.count s.mesh),
        Settings.default.apply s.options s.scope = (.ok (), settings) ∧
        rhs.toVector (k.count s.mesh) = .ok b ∧ r.solution.entries = previous.toArray ∧
        Transports f settings b
          (if settings.keepGuess then previous else Vector.replicate (k.count s.mesh) 0.0) memory
          (t.invert rhs)) := by
  intro t
  obtain ⟨settings, read, continued⟩ := ready_afterAll setUp calls ready
  have mesh : t.mesh = s.mesh := by
    show (s.setup.session.afterAll calls).mesh = s.mesh
    rw [afterAll_mesh, setup_mesh]
  have ready' : t.stage = .ready r := ready
  have inUse : t.workspace.adapter = ⟨f, memory⟩ := rfl
  clear_value t
  generalize s.mesh = m at continued mesh home ⊢
  subst mesh
  refine ⟨?_, ?_, ?_⟩
  · obtain ⟨r', kept, -⟩ := invert_ready ready' rhs
    exact ⟨r', kept⟩
  · intro unallocated
    rw [invert_unallocated ready' home unallocated]
    exact ⟨rfl, rfl⟩
  · intro allocated
    obtain ⟨b, packed⟩ := Field.exists_toVector home allocated
    obtain ⟨previous, entries⟩ := continued.previous
    have run := invert_run ready' continued home packed entries
    have measured : (t.workspace.measure .packing).adapter = ⟨f, memory⟩ := inUse
    exact ⟨settings, b, previous, read, packed, entries, run.transports measured⟩

/-- The second answer is a field without values: the inversion ends with it. -/
theorem invert_transports_unallocated :
    let mesh := Mesh.serial 0 2 1 1
    let f : FieldOperator .volume Nat := fun x count =>
      (.ok (if count = 1 then .new x.mesh else x), count + 1)
    let s : Session .volume Nat := create mesh none 0
    let rhs : Field .volume := .ofVector mesh #v[2.0, 4.0]
    let t := s.setup.session.withFunction f 0
    (s.setup.answer = .ok 2 ∧ rhs.mesh = s.mesh ∧ rhs.isAllocated = true) ∧
      (t.invert rhs).answer = .error (.error .unallocated) ∧
      (t.invert rhs).session.workspace.adapter.memory = 2 ∧
      (∃ r', (t.invert rhs).session.stage = .ready r') ∧
      ∃ r, s.setup.session.stage = .ready r ∧
        ∃ settings, ∃ b previous : Vector Float (Kind.count .volume mesh),
          Settings.default.apply s.options s.scope = (.ok (), settings) ∧
          rhs.toVector (Kind.count .volume mesh) = .ok b ∧
          r.solution.entries = previous.toArray ∧
          Transports f settings b
            (if settings.keepGuess then previous else Vector.replicate _ 0.0) 0 (t.invert rhs) := by
  intro mesh f s rhs t
  have run : s.setup.answer.toOption.any (· == 2) = true := by decide +kernel
  obtain ⟨n, setUp, two⟩ := exists_ok_of_any run
  obtain rfl : n = 2 := beq_iff_eq.1 two
  obtain ⟨-, r, log, -, -, made⟩ := setup_ok setUp
  have ready : s.setup.session.stage = .ready r := by
    rw [made]
    rfl
  have failed : (t.invert rhs).answer.map (fun _ => ()) = .error (.error .unallocated) := by
    decide +kernel
  have twice : (t.invert rhs).session.workspace.adapter.memory = 2 := by decide +kernel
  have home : rhs.mesh = s.mesh := rfl
  obtain ⟨kept, -, transports⟩ := invert_transports setUp [] ready f 0 home
  exact ⟨⟨setUp, home, rfl⟩, error_of_map failed, twice, kept, r, ready, transports rfl⟩

/-- Without room for a basis of the length that the options ask for, an inversion is a fault,
although the operator answers all it is asked. -/
theorem invert_of_full :
    let mesh := Mesh.serial 0 2 1 1
    let s : Session .volume Nat := (create mesh none 0).withOptions
      (Database.ofTokens ["-invert_ksp_gmres_restart", "384307168202282325"])
    let f : FieldOperator .volume Nat := fun x count => (.ok x, count + 1)
    let rhs : Field .volume := .ofVector mesh #v[2.0, 4.0]
    let out := (s.setup.session.withFunction f 0).invert rhs
    (s.setup.answer = .ok 2 ∧ rhs.mesh = s.mesh ∧ rhs.isAllocated = true ∧ f.StaysOn mesh) ∧
      out.answer = .error (.fault .capacityOverflow) ∧
      ¬((∃ x, out.answer = .ok x) ∨ ∃ code, out.answer = .error (.error (.notConverged code))) := by
  intro mesh s f rhs out
  have run : s.setup.answer.toOption.any (· == 2) = true := by decide +kernel
  obtain ⟨n, setUp, two⟩ := exists_ok_of_any run
  obtain rfl : n = 2 := beq_iff_eq.1 two
  have stays : f.StaysOn mesh := fun x memory home allocated => ⟨x, rfl, home, allocated⟩
  have failed : out.answer.map (fun _ => ()) = .error (.fault .capacityOverflow) := by
    decide +kernel
  have full := error_of_map failed
  refine ⟨⟨setUp, rfl, rfl, stays⟩, full, ?_⟩
  rintro (⟨x, ok⟩ | ⟨code, unconverged⟩)
  · cases full.symm.trans ok
  · cases full.symm.trans unconverged

end Session

end MatrixFree
