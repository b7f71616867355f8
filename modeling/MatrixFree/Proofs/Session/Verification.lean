import MatrixFree.Proofs.Krylov.Failures
import MatrixFree.Proofs.Scalar.Comparison
import MatrixFree.Proofs.Session.Invert
import MatrixFree.Proofs.Session.Multiply

/-!
# Verifications

A verification inverts, applies the operator in use once more, and compares.  What it
compares is one number, the largest magnitude of a difference; `maxAbs_lt_iff` says that this
number lies below a tolerance exactly if each magnitude does, whatever NaNs and infinities are
among them.  So the answer is a statement about the entries (`Reproduces`), and the one warning
that is ever logged goes with the answer that they differ.
-/

namespace MatrixFree

open Grid Engine Options Krylov

theorem Communicator.max_eq (c : Communicator) (x : Float) : c.max x = x := by
  cases c
  rfl

variable {k : Kind} {σ : Type}

namespace Session

/-! ## The largest magnitude -/

/-- The larger of a magnitude and the next number's, or NaN after a NaN. -/
def larger (acc x : Float) : Float :=
  if acc.isNaN || x.isNaN then 0.0 / 0.0 else if acc < x.abs then x.abs else acc

theorem maxAbs_eq_foldl (xs : List Float) : maxAbs xs = xs.foldl larger 0.0 := rfl

theorem larger_lt_iff {acc x t : Float} : larger acc x < t ↔ acc < t ∧ x.abs < t := by
  have nan : (0.0 / 0.0 : Float).isNaN = true := by decide +kernel
  have sticks : ¬(0.0 / 0.0 : Float) < t := Binary64.not_lt_of_isNaN nan t
  have habs : x.abs.isNaN = x.isNaN := Binary64.isNaN_abs x
  unfold larger
  cases hacc : acc.isNaN with
  | true =>
      have unordered : ¬acc < t := Binary64.not_lt_of_isNaN hacc t
      rw [Bool.true_or, if_pos rfl]
      exact ⟨fun h => absurd h sticks, fun h => absurd h.1 unordered⟩
  | false =>
      cases hx : x.isNaN with
      | true =>
          have unordered : ¬x.abs < t := Binary64.not_lt_of_isNaN (habs.trans hx) t
          rw [Bool.or_true, if_pos rfl]
          exact ⟨fun h => absurd h sticks, fun h => absurd h.2 unordered⟩
      | false =>
          rw [Bool.or_false, if_neg Bool.false_ne_true]
          by_cases below : acc < x.abs
          · rw [if_pos below]
            exact ⟨fun h => ⟨Binary64.lt_trans below h, h⟩, And.right⟩
          · rw [if_neg below]
            exact ⟨fun h => ⟨h, Binary64.lt_of_not_lt hacc (habs.trans hx) below h⟩, And.left⟩

theorem foldl_larger_lt_iff {t : Float} (xs : List Float) (acc : Float) :
    xs.foldl larger acc < t ↔ acc < t ∧ ∀ x ∈ xs, x.abs < t := by
  induction xs generalizing acc with
  | nil => simp
  | cons x xs ih => rw [List.foldl_cons, ih, larger_lt_iff, List.forall_mem_cons, and_assoc]

/-- The largest magnitude lies below a bound exactly if zero and all magnitudes do; a NaN on
any side is not below. -/
theorem maxAbs_lt_iff {xs : List Float} {t : Float} :
    maxAbs xs < t ↔ 0.0 < t ∧ ∀ x ∈ xs, x.abs.isNaN = false ∧ x.abs < t := by
  rw [maxAbs_eq_foldl, foldl_larger_lt_iff]
  have number {x : Float} : x.abs < t ↔ x.abs.isNaN = false ∧ x.abs < t :=
    ⟨fun below => ⟨(Binary64.lt_iff.mp below).1, below⟩, And.right⟩
  simp only [← number]

/-! ## Entries -/

/-- Entry by entry, `y` is closer to `rhs` than the tolerance, which is positive. -/
def Reproduces (rhs y : Field k) (tolerance : Float) : Prop :=
  0.0 < tolerance ∧ ∀ index a b, y.get index = .ok a → rhs.get index = .ok b →
    (a - b).abs.isNaN = false ∧ (a - b).abs < tolerance

/-- A value that can be read is the stored one at the position of its index. -/
theorem exists_position_of_get {m : Mesh} {yIndex : Nat} {xs : Vector Float (k.count m)}
    {index : Box.Index} {a : Float} (read : (⟨m, yIndex, some xs⟩ : Field k).get index = .ok a) :
    ∃ h : k.position m index < k.count m, a = xs[k.position m index] := by
  unfold Field.get at read
  split at read
  · dsimp only at read
    split at read
    · rename_i h
      exact ⟨h, (Except.ok.inj read).symm⟩
    · cases read
  · cases read

/-- The differences that a verification looks at are those of the entries. -/
theorem maxAbs_zipWith_lt_iff {m : Mesh} (i j : Nat) (ys rs : Vector Float (k.count m))
    (tolerance : Float) :
    maxAbs (List.zipWith (· - ·) ys.toList rs.toList) < tolerance ↔
      Reproduces (⟨m, i, some rs⟩ : Field k) ⟨m, j, some ys⟩ tolerance := by
  rw [maxAbs_lt_iff]
  refine and_congr_right fun _ => ?_
  constructor
  · intro all index a b ya rb
    obtain ⟨h, rfl⟩ := exists_position_of_get ya
    obtain ⟨-, rfl⟩ := exists_position_of_get rb
    apply all
    refine List.mem_iff_getElem.mpr ⟨k.position m index, ?_, ?_⟩
    · simpa using h
    · simp
  · intro all d member
    obtain ⟨p, inside, rfl⟩ := List.mem_iff_getElem.mp member
    have h : p < k.count m := by simpa using inside
    have entry := all _ _ _ (Field.get_indexAt j ys h) (Field.get_indexAt i rs h)
    simpa using entry

/-- On a mesh whose indices can be counted, a field with values can be read everywhere. -/
theorem exists_get {f : Field k} (allocated : f.isAllocated = true) (countable : k.Countable f.mesh)
    {index : Box.Index} (within : Box.Within index f.extents) : ∃ a, f.get index = .ok a := by
  obtain ⟨m, y, xs, rfl⟩ := Field.exists_eq_some allocated
  have stored : k.position m index < k.count m := Kind.position_lt countable within
  refine ⟨xs[k.position m index], ?_⟩
  unfold Field.get
  exact (if_pos within).trans (dif_pos stored)

/-! ## Warnings -/

/-- The warnings in a log. -/
def warnings (log : List Event) : List Event := log.filter (·.level = "WARN")

@[simp] theorem warnings_append (log log' : List Event) :
    warnings (log ++ log') = warnings log ++ warnings log' := List.filter_append log log'

theorem warnings_ofHistory (history : Array (Nat × Float)) :
    warnings (Event.ofHistory history) = [] := by
  rw [warnings, List.filter_eq_nil_iff]
  intro event member
  obtain ⟨entry, -, rfl⟩ := List.mem_map.mp member
  simp [Event.level]

theorem warnings_setUp {γ τ : Type} (h : Handle γ τ) : warnings h.setUp.2.2 = [] := by
  unfold Handle.setUp
  split <;> rfl

theorem warnings_solveReady {γ τ : Type} (h : Handle γ τ) (b x : Slice) (memory : τ) :
    warnings (h.solveReady b x memory).log = [] := by
  have monitored (history : Array (Nat × Float)) :
      warnings (if h.settings.monitor then Event.ofHistory history else []) = [] := by
    split
    · exact warnings_ofHistory history
    · rfl
  unfold Handle.solveReady
  split
  · rfl
  · split
    · split
      · unfold Handle.run
        dsimp only
        split
        · exact monitored _
        · rw [warnings_append, monitored]
          rfl
      · rfl
    · rfl

/-- A handle warns of nothing. -/
theorem warnings_solve {γ τ : Type} (h : Handle γ τ) (b x : Slice) (memory : τ) :
    warnings (h.solve b x memory).log = [] := by
  have quiet := warnings_setUp h
  unfold Handle.solve
  split
  · exact warnings_solveReady h b x memory
  · rcases made : h.setUp with ⟨_ | _, h', log⟩
    · rw [made] at quiet
      exact quiet
    · rw [made] at quiet
      dsimp only at quiet ⊢
      rw [warnings_append, quiet, warnings_solveReady]
      rfl

theorem warnings_invert (s : Session k σ) (rhs : Field k) : warnings (s.invert rhs).log = [] := by
  unfold invert
  split
  · rfl
  · rename_i r _
    rw [Outcome.log_measure]
    unfold solve
    split
    · rfl
    · dsimp only
      split
      · exact warnings_solve ..
      · unfold unpack
        split
        · split
          · exact warnings_solve ..
          · exact warnings_solve ..
        · exact warnings_solve ..

/-! ## The operator in use -/

/-- What every application to an unpacked field keeps of the adapter, a run keeps. -/
theorem runOver_keeps {mesh : Mesh} {P : Adapter k σ → Prop}
    (keeps : ∀ (x : Vector Float (k.count mesh)) a, P a → P (a.apply (Field.ofVector mesh x)).2)
    (settings : Settings) (b guess : Vector Float (k.count mesh)) {w : Workspace k σ}
    (holds : P w.adapter) : P (runOver settings b guess w).memory.adapter := by
  have ops : (meshShell k σ mesh).apply.Leaves (fun w => P w.adapter) (fun _ w => P w.adapter) := by
    intro x y before holds
    have kept : P ((meshShell k σ mesh).apply x.toArray y before).2.adapter := by
      cases room : k.reserveIndices mesh with
      | error fault =>
          rw [meshShell_of_full x y room]
          exact holds
      | ok _ =>
          obtain ⟨after, applied, adapter⟩ := meshShell_of_room x y room (w := before) rfl
          rw [applied]
          show P after.adapter
          rw [adapter]
          exact keeps x before.adapter holds
    exact ⟨fun _ _ => kept, fun _ _ => kept⟩
  obtain ⟨answered, failed⟩ := runSolver_leaves (s := settings) ops
    (fun _ _ _ holds => holds) b guess holds
  cases result : (runOver settings b guess w).result with
  | ok stats => exact answered stats result
  | error e => exact failed e result

/-- An inversion keeps it too, in a session that has been ready since its setup. -/
theorem invert_keeps {s : Session k σ} {r : Ready k σ} (ready : s.stage = .ready r)
    {scope : String} {settings : Settings}
    (continued : (Ready.initial s.mesh scope settings).Continues r) {P : Adapter k σ → Prop}
    (keeps : ∀ (x : Vector Float (k.count s.mesh)) a, P a →
      P (a.apply (Field.ofVector s.mesh x)).2)
    (holds : P s.workspace.adapter) (rhs : Field k) :
    P (s.invert rhs).session.workspace.adapter := by
  by_cases home : rhs.mesh = s.mesh
  · by_cases allocated : rhs.isAllocated = true
    · obtain ⟨b, packed⟩ := Field.exists_toVector home allocated
      obtain ⟨previous, entries⟩ := continued.previous
      rw [(invert_run ready continued home packed entries).adapter]
      exact runOver_keeps keeps settings b _ holds
    · rw [invert_unallocated ready home (eq_false_of_ne_true allocated)]
      exact holds
  · rw [invert_foreign ready home]
    exact holds

/-- So the operator in use stays in use. -/
theorem invert_function {s : Session k σ} {r : Ready k σ} (ready : s.stage = .ready r)
    {scope : String} {settings : Settings}
    (continued : (Ready.initial s.mesh scope settings).Continues r) (rhs : Field k) :
    (s.invert rhs).session.workspace.adapter.function = s.workspace.adapter.function :=
  invert_keeps ready continued (P := fun a => a.function = s.workspace.adapter.function)
    (fun _ _ same => same) rfl rhs

/-- Only a field that the session takes can be inverted. -/
theorem takes_of_invert_ok {s : Session k σ} {r : Ready k σ} (ready : s.stage = .ready r)
    {rhs x : Field k} (ok : (s.invert rhs).answer = .ok x) :
    rhs.mesh = s.mesh ∧ rhs.isAllocated = true := by
  by_cases home : rhs.mesh = s.mesh
  · by_cases allocated : rhs.isAllocated = true
    · exact ⟨home, allocated⟩
    · rw [invert_unallocated ready home (eq_false_of_ne_true allocated)] at ok
      cases ok
  · rw [invert_foreign ready home] at ok
    cases ok

/-! ## The answer -/

/-- What a verification answers to the image of its solution. -/
inductive Verdict (mesh : Mesh) (rhs : Field k) (tolerance : Float) :
    Except Fault (Field k) → Except (Failure SessionError) Bool → Prop where
  | fault {fault : Fault} : Verdict mesh rhs tolerance (.error fault) (.error (.fault fault))
  | foreign {y : Field k} (away : y.mesh ≠ mesh) :
      Verdict mesh rhs tolerance (.ok y) (.error (.error .foreignResult))
  | unallocated {y : Field k} (home : y.mesh = mesh) (empty : y.isAllocated = false) :
      Verdict mesh rhs tolerance (.ok y) (.error (.error .unallocated))
  /-- Two fields with values on one mesh are compared, at every index that can be counted. -/
  | compared {y : Field k} {passed : Bool} (home : y.mesh = mesh) (full : y.isAllocated = true)
      (everywhere : k.Countable mesh → ∀ index, Box.Within index (k.extents mesh) →
        ∃ a b, y.get index = .ok a ∧ rhs.get index = .ok b)
      (decides : passed = true ↔ Reproduces rhs y tolerance) :
      Verdict mesh rhs tolerance (.ok y) (.ok passed)

theorem verify_of_error {s : Session k σ} {rhs : Field k} {e : Failure SessionError}
    (failed : (s.invert rhs).answer = .error e) (tolerance : Float) :
    s.verify rhs tolerance = ⟨.error e, (s.invert rhs).session, (s.invert rhs).log⟩ := by
  unfold verify
  rcases hinv : s.invert rhs with ⟨answer, s', log⟩
  rw [hinv] at failed
  obtain rfl : answer = .error e := failed
  rfl

/-- One warning goes with the answer that the entries differ, and none with any other. -/
def WarnsFor (answer : Except (Failure SessionError) Bool) (log : List Event) : Prop :=
  (answer = .ok false → (warnings log).length = 1) ∧ (answer ≠ .ok false → warnings log = [])

theorem WarnsFor.of_quiet {answer : Except (Failure SessionError) Bool} {log : List Event}
    (other : answer ≠ .ok false) (quiet : warnings log = []) : WarnsFor answer log :=
  ⟨fun same => absurd same other, fun _ => quiet⟩

theorem WarnsFor.after {answer : Except (Failure SessionError) Bool} {log log' : List Event}
    (h : WarnsFor answer log') (quiet : warnings log = []) : WarnsFor answer (log ++ log') := by
  unfold WarnsFor
  rwa [warnings_append, quiet, List.nil_append]

/-- A comparison of two fields with values warns exactly if it does not pass. -/
theorem compare_of_values (s : Session k σ) {m : Mesh} (i j : Nat)
    (ys rs : Vector Float (k.count m)) (x : Field k) (tolerance : Float) :
    let out := s.compare (⟨m, i, some rs⟩ : Field k) x ⟨m, j, some ys⟩ tolerance
    (out.1 = true ↔ Reproduces (⟨m, i, some rs⟩ : Field k) ⟨m, j, some ys⟩ tolerance) ∧
      WarnsFor (.ok out.1) out.2 := by
  have decides := maxAbs_zipWith_lt_iff i j ys rs tolerance
  unfold compare
  simp only [Communicator.max_eq]
  split
  · rename_i below
    exact ⟨⟨fun _ => decides.mp below, fun _ => rfl⟩, .of_quiet nofun rfl⟩
  · rename_i above
    exact ⟨⟨nofun, fun close => absurd (decides.mpr close) above⟩, fun _ => rfl,
      fun passed => absurd rfl passed⟩

/-- After an inversion the operator in use is applied once more, and its answer decides. -/
theorem verify_of_ok {s : Session k σ} {r : Ready k σ} (ready : s.stage = .ready r)
    {rhs x : Field k} (ok : (s.invert rhs).answer = .ok x) (tolerance : Float) :
    let a := (s.invert rhs).session.workspace.adapter
    let out := s.verify rhs tolerance
    out.session.workspace.adapter = ⟨a.function, (a.function x a.memory).2⟩ ∧
      Verdict s.mesh rhs tolerance (a.function x a.memory).1 out.answer ∧
      WarnsFor out.answer out.log := by
  obtain ⟨taken, allocated⟩ := takes_of_invert_ok ready ok
  have quiet := warnings_invert s rhs
  have mesh := s.invert_mesh rhs
  unfold verify
  rcases hinv : s.invert rhs with ⟨answer, s', log⟩
  rw [hinv] at ok quiet mesh
  obtain rfl : answer = .ok x := ok
  dsimp only [apply, Workspace.apply, Adapter.apply] at quiet mesh ⊢
  cases image : (s'.workspace.adapter.function x s'.workspace.adapter.memory).1 with
  | error fault => exact ⟨rfl, .fault, .of_quiet nofun quiet⟩
  | ok y =>
      dsimp only
      by_cases away : y.mesh ≠ s'.mesh
      · rw [if_pos away]
        exact ⟨rfl, .foreign (mesh ▸ away), .of_quiet nofun quiet⟩
      · rw [if_neg away]
        have home : y.mesh = s.mesh := (not_not.mp away).trans mesh
        cases full : y.isAllocated with
        | false => exact ⟨rfl, .unallocated home full, .of_quiet nofun quiet⟩
        | true =>
            have everywhere : k.Countable s.mesh → ∀ index, Box.Within index (k.extents s.mesh) →
                ∃ a b, y.get index = .ok a ∧ rhs.get index = .ok b := by
              intro countable index within
              obtain ⟨a, ya⟩ := exists_get full (home ▸ countable) (home ▸ within)
              obtain ⟨b, rb⟩ := exists_get allocated (taken ▸ countable) (taken ▸ within)
              exact ⟨a, b, ya, rb⟩
            obtain ⟨m, j, ys, rfl⟩ := Field.exists_eq_some full
            obtain ⟨m', i, rs, rfl⟩ := Field.exists_eq_some allocated
            obtain rfl : m' = m := taken.trans home.symm
            rw [if_neg nofun]
            obtain ⟨decides, warns⟩ := compare_of_values { s' with workspace := _ } i j ys rs x
              tolerance
            exact ⟨rfl, .compared home full everywhere decides, warns.after quiet⟩

/-- **What a verification decides.**  A session that is ready after a setup and any calls
answers the error of its inversion.  After an inversion it applies the operator in use once
more, and the verdict on the image is entry by entry: no difference is NaN, and each is smaller
than the tolerance.  A warning is logged with a negative answer only. -/
theorem verify_decides {s : Session k σ} {n : Nat} (setUp : s.setup.answer = .ok n)
    (calls : List (Call k σ)) {r : Ready k σ}
    (ready : (s.setup.session.afterAll calls).stage = .ready r) (rhs : Field k)
    (tolerance : Float) :
    let t := s.setup.session.afterAll calls
    let inverted := t.invert rhs
    let out := t.verify rhs tolerance
    (∀ e, inverted.answer = .error e →
        out = ⟨.error e, inverted.session, inverted.log⟩) ∧
      (∀ x, inverted.answer = .ok x →
        let f := t.workspace.adapter.function
        let memory := inverted.session.workspace.adapter.memory
        inverted.session.workspace.adapter = ⟨f, memory⟩ ∧
          out.session.workspace.adapter = ⟨f, (f x memory).2⟩ ∧
          Verdict s.mesh rhs tolerance (f x memory).1 out.answer) ∧
      WarnsFor out.answer out.log := by
  intro t inverted out
  obtain ⟨settings, read, continued⟩ := ready_afterAll setUp calls ready
  have mesh : t.mesh = s.mesh := by
    show (s.setup.session.afterAll calls).mesh = s.mesh
    rw [afterAll_mesh, setup_mesh]
  have ready' : t.stage = .ready r := ready
  have same : inverted.session.workspace.adapter.function = t.workspace.adapter.function :=
    invert_function ready' (mesh ▸ continued) rhs
  refine ⟨fun e failed => verify_of_error failed tolerance, ?_, ?_⟩
  · intro x ok
    obtain ⟨once, verdict, -⟩ := verify_of_ok ready' ok tolerance
    rw [same] at once verdict
    rw [mesh] at verdict
    exact ⟨by rw [← same], once, verdict⟩
  · cases answer : inverted.answer with
    | error e =>
        have quiet : warnings inverted.log = [] := warnings_invert t rhs
        have failed : out = ⟨.error e, inverted.session, inverted.log⟩ :=
          verify_of_error answer tolerance
        rw [failed]
        exact .of_quiet nofun quiet
    | ok x => exact (verify_of_ok ready' answer tolerance).2.2

/-- An operator that has answered its input until the solution is found, and then answers a
NaN in front of an entry that agrees. -/
theorem verify_decides_nan :
    let mesh := Mesh.serial 0 2 1 1
    let f : FieldOperator .volume Nat := fun x count =>
      (.ok (if count < 3 then x
        else { x with values := x.values.map (·.map fun v => if v < 3.0 then 0.0 / 0.0 else v) }),
        count + 1)
    let s : Session .volume Nat := ofFunction mesh f 0 .empty
    let rhs : Field .volume := .ofVector mesh #v[2.0, 4.0]
    let inverted := s.setup.session.invert rhs
    let out := s.setup.session.verify rhs 1e-5
    (s.setup.answer = .ok 2 ∧ inverted.session.workspace.adapter.memory = 3 ∧
        out.answer = .ok false) ∧
      ∃ x, inverted.answer = .ok x ∧ out.session.workspace.adapter.memory = 4 ∧
        Verdict mesh rhs 1e-5 (f x 3).1 (.ok false) ∧ (warnings out.log).length = 1 := by
  intro mesh f s rhs inverted out
  have run : s.setup.answer.toOption.any (· == 2) = true := by decide +kernel
  obtain ⟨n, setUp, two⟩ := exists_ok_of_any run
  obtain rfl : n = 2 := beq_iff_eq.1 two
  obtain ⟨-, r, log, -, -, made⟩ := setup_ok setUp
  have ready : s.setup.session.stage = .ready r := by
    rw [made]
    rfl
  have found : inverted.answer.toOption.any (fun _ => true) = true := by decide +kernel
  obtain ⟨x, ok, -⟩ := exists_ok_of_any found
  have applied : inverted.session.workspace.adapter.memory = 3 := by decide +kernel
  have negative : out.answer = .ok false := by decide +kernel
  obtain ⟨-, decides, warns, -⟩ := verify_decides setUp [] ready rhs 1e-5
  obtain ⟨-, once, verdict⟩ := decides x ok
  have inUse : (s.setup.session.afterAll []).workspace.adapter.function = f := by
    show s.setup.session.workspace.adapter.function = f
    rw [made]
    rfl
  have three : ((s.setup.session.afterAll []).invert rhs).session.workspace.adapter.memory = 3 :=
    applied
  rw [inUse, three] at once verdict
  refine ⟨⟨setUp, applied, negative⟩, x, ok, congrArg Adapter.memory once, ?_, warns negative⟩
  rw [← negative]
  exact verdict

end Session

end MatrixFree
