import MatrixFree.Proofs.Krylov.Singular
import MatrixFree.Proofs.Session.Transport

/-!
# Sessions of the zero operator

A field operator that answers zeros makes a flat system that no method solves
(`Krylov.Action.Annihilates`), so that an inversion ends with the negative code of a verdict
(`Session.invert_of_zeros`).  Whatever the guess was, it leaves no trace.

Where there is no room for what a solve allocates there is no verdict: the inversion is then a
fault, whatever its operator answers (`Session.invert_of_zeros_full`).
-/

namespace MatrixFree

open Grid Engine Options Krylov Flat

namespace Engine

/-- None of the methods converges on zeros. -/
theorem runSolver_of_annihilates {σ ε : Type} {n : Nat} {A : Action σ (Failure ε) Float n}
    (annihilates : A.Annihilates) {s : Settings} {b x : Vector Float n} (finite : AllFinite b)
    (unmet : (s.criteria.check (norm b) (norm b) 0).isConverged = false) {memory : σ}
    {stats : Stats Float} (ok : (runSolver s A b x memory).result = .ok stats) :
    stats.reason.isConverged = false := by
  unfold runSolver at ok
  cases choice : s.solver with
  | minimalResidual =>
      rw [choice] at ok
      exact MinimalResidual.not_converged_of_annihilates finite unmet annihilates ok
  | conjugateGradient =>
      rw [choice] at ok
      exact ConjugateGradient.not_converged_of_annihilates finite unmet annihilates ok
  | biconjugateGradient =>
      rw [choice] at ok
      exact BiconjugateGradient.not_converged_of_annihilates finite unmet annihilates ok

end Engine

variable {k : Kind} {σ : Type}

namespace FieldOperator

/-- Every field with values on the mesh is answered by one of zeros. -/
def AnswersZeros (f : FieldOperator k σ) (mesh : Mesh) : Prop :=
  ∀ (x : Field k) memory, x.mesh = mesh → x.isAllocated = true →
    ∃ y, (f x memory).1 = .ok y ∧ y.mesh = mesh ∧ y.isAllocated = true ∧
      ∀ v ∈ y.toList, Binary64.IsZero v

variable {f : FieldOperator k σ} {mesh : Mesh} {settings : Settings}
  {b guess : Vector Float (k.count mesh)} {memory : σ}

theorem AnswersZeros.staysOn (zeros : f.AnswersZeros mesh) : f.StaysOn mesh := by
  intro x memory home allocated
  obtain ⟨y, answer, here, full, -⟩ := zeros x memory home allocated
  exact ⟨y, answer, here, full⟩

theorem AnswersZeros.annihilates (zeros : f.AnswersZeros mesh) :
    (f.flatten mesh).Annihilates := by
  intro x y v memory image
  cases listed : k.reserveIndices mesh with
  | error fault =>
      rw [flatten_of_full listed] at image
      cases image
  | ok _ =>
      obtain ⟨output, answer, home, full, values⟩ := zeros (Field.ofVector mesh x) memory rfl rfl
      obtain ⟨w, packed⟩ := Field.exists_toVector home full
      rw [flatten_of_room listed zeros.staysOn, answer] at image
      simp only [Answer.pack, home, ne_eq, not_true_eq_false, if_false, packed] at image
      obtain rfl : w = v := Except.ok.inj image
      intro z mem
      refine values z ?_
      rw [← Field.toList_of_toVector packed]
      exact Vector.mem_toList_iff.mpr mem

/-- A flat run without a record lacks room. -/
theorem cramped_of_flatRun_error (stays : f.StaysOn mesh) {e : Failure EngineError}
    (failed : (f.flatRun settings b guess memory).result = .error e) :
    Cramped k mesh settings := by
  have ops : (f.flatten mesh).FailsOnly fun _ => Cramped k mesh settings :=
    fun x y memory e failed => Or.inl (flatten_failsOnly stays x y memory e failed).2
  exact (runSolver_leaves ops.leaves (fun choice full _ _ => Or.inr ⟨choice, full⟩) b guess
    trivial).2 e failed

end FieldOperator

namespace Session

/-- An inversion that ends with the negative code of a verdict, which is the record's, or that lacks
room. -/
def Unsolved (settings : Settings) (mesh : Mesh) (out : Outcome k σ (Field k)) : Prop :=
  (∃ stats, out.session.last? = some stats ∧ stats.reason.code < 0 ∧
      out.answer = .error (.error (.notConverged stats.reason.code))) ∨
    out.answer = .error (.fault .capacityOverflow) ∧ FieldOperator.Cramped k mesh settings

theorem invert_unsolved_of_continues {t : Session k σ} {r : Ready k σ} (ready : t.stage = .ready r)
    {scope : String} {settings : Settings}
    (continued : (Ready.initial t.mesh scope settings).Continues r) {f : FieldOperator k σ}
    (zeros : f.AnswersZeros t.mesh) (memory : σ) {rhs : Field k} (home : rhs.mesh = t.mesh)
    {b : Vector Float (k.count t.mesh)} (packed : rhs.toVector (k.count t.mesh) = .ok b)
    (finite : AllFinite b)
    (unmet : (settings.criteria.check (norm b) (norm b) 0).isConverged = false) :
    Unsolved settings t.mesh ((t.withFunction f memory).invert rhs) := by
  have allocated : rhs.isAllocated = true := by
    refine eq_true_of_ne_false fun empty => ?_
    cases (Field.toVector_of_not_isAllocated empty _).symm.trans packed
  obtain ⟨b', previous, packed', -, refines⟩ :=
    invert_refines_of_continues ready continued zeros.staysOn memory home allocated
  obtain rfl : b' = b := Except.ok.inj (packed'.symm.trans packed)
  generalize (if settings.keepGuess then previous else _) = guess at refines
  cases result : (f.flatRun settings b' guess memory).result with
  | ok stats =>
      have diverged := runSolver_of_annihilates zeros.annihilates finite unmet result
      have negative := reason_code_neg (runSolver_ended result) diverged
      exact Or.inl ⟨stats, refines.last stats result, negative,
        refines.unconverged stats result diverged⟩
  | error e =>
      have cramped := FieldOperator.cramped_of_flatRun_error zeros.staysOn result
      exact Or.inr ⟨(refines.failed e result).2, cramped⟩

/-- **The zero operator is never inverted.**  A session that is set up, whatever was called on it
since, and whose operator answers zeros, does not invert a finite field that does not pass the test
of its options against itself: the answer is the negative code of a verdict, and the last record has
the same verdict.  The one other end is a fault, where there is no room for what the solve
allocates.  The guess does not matter. -/
theorem invert_of_zeros {s : Session k σ} {n : Nat} (setUp : s.setup.answer = .ok n)
    (calls : List (Call k σ)) {r : Ready k σ}
    (ready : (s.setup.session.afterAll calls).stage = .ready r) {f : FieldOperator k σ}
    (zeros : f.AnswersZeros s.mesh) (memory : σ) {rhs : Field k} (home : rhs.mesh = s.mesh)
    {b : Vector Float (k.count s.mesh)} (packed : rhs.toVector (k.count s.mesh) = .ok b)
    (finite : AllFinite b) {settings : Settings}
    (read : Settings.default.apply s.options s.scope = (.ok (), settings))
    (unmet : (settings.criteria.check (norm b) (norm b) 0).isConverged = false) :
    Unsolved settings s.mesh
      (((s.setup.session.afterAll calls).withFunction f memory).invert rhs) := by
  obtain ⟨settings', read', continued⟩ := ready_afterAll setUp calls ready
  obtain rfl : settings' = settings := congrArg Prod.snd (read'.symm.trans read)
  have mesh : (s.setup.session.afterAll calls).mesh = s.mesh := by
    rw [afterAll_mesh, setup_mesh]
  generalize s.setup.session.afterAll calls = t at ready mesh ⊢
  generalize s.mesh = m at *
  subst mesh
  exact invert_unsolved_of_continues ready continued zeros memory home packed finite unmet

/-- Zeros with a sign, after an inversion of the identity whose solution is kept for a guess. -/
theorem invert_of_zeros_guessed :
    let mesh := Mesh.serial 0 2 1 1
    let s : Session .volume Nat := (create mesh none 0).withOptions
      (Database.ofTokens ["-invert_ksp_type", "cg", "-invert_ksp_initial_guess_nonzero"])
    let f : FieldOperator .volume Nat := fun x count =>
      (.ok ⟨x.mesh, 0, some (Vector.replicate _ (-0.0))⟩, count + 1)
    let b : Vector Float (Kind.count .volume mesh) := #v[2.0, 4.0]
    let rhs : Field .volume := .ofVector mesh b
    let t := s.setup.session.afterAll [.invert rhs]
    let settings := (Settings.default.apply s.options s.scope).2
    let out := (t.withFunction f 0).invert rhs
    (s.setup.answer = .ok 2 ∧ f.AnswersZeros s.mesh ∧ AllFinite b ∧
        Settings.default.apply s.options s.scope = (.ok (), settings) ∧
        settings.keepGuess = true ∧ t.last?.any (·.converged) = true ∧
        (settings.criteria.check (norm b) (norm b) 0).isConverged = false) ∧
      out.answer.map (fun _ => ()) = .error (.error (.notConverged (-5))) ∧
      Unsolved settings s.mesh out := by
  intro mesh s f b rhs t settings out
  have run : s.setup.answer.toOption.any (· == 2) = true := by decide +kernel
  obtain ⟨n, setUp, two⟩ := exists_ok_of_any run
  obtain rfl : n = 2 := beq_iff_eq.1 two
  obtain ⟨-, r₀, log, -, -, made⟩ := setup_ok setUp
  have ready₀ : s.setup.session.stage = .ready r₀ := by
    rw [made]
    rfl
  obtain ⟨r, ready, -⟩ := invert_ready ready₀ rhs
  have zeros : f.AnswersZeros s.mesh := by
    intro x count home allocated
    refine ⟨_, rfl, home, rfl, fun v mem => ?_⟩
    rw [Vector.eq_of_mem_replicate (Vector.mem_toList_iff.mp mem)]
    exact ⟨.negative, rfl⟩
  have finite : AllFinite b := by
    show AllFinite (#v[2.0, 4.0] : Vector Float 2)
    decide +kernel
  have read : Settings.default.apply s.options s.scope = (.ok (), settings) :=
    Prod.ext (by decide +kernel) rfl
  have unmet : (settings.criteria.check (norm b) (norm b) 0).isConverged = false := by
    decide +kernel
  refine ⟨⟨setUp, zeros, finite, read, by decide +kernel, by decide +kernel, unmet⟩,
    by decide +kernel, ?_⟩
  exact invert_of_zeros setUp [.invert rhs] ready zeros 0 rfl (Field.toVector_ofVector mesh b)
    finite read unmet

/-- Without room for a basis of the length that the options ask for, an inversion of the zero
operator is a fault and tells of no verdict. -/
theorem invert_of_zeros_full :
    let mesh := Mesh.serial 0 2 1 1
    let s : Session .volume Nat := (create mesh none 0).withOptions
      (Database.ofTokens ["-invert_ksp_gmres_restart", "384307168202282325"])
    let f : FieldOperator .volume Nat := fun x count =>
      (.ok ⟨x.mesh, 0, some (Vector.replicate _ 0.0)⟩, count + 1)
    let b : Vector Float (Kind.count .volume mesh) := #v[2.0, 4.0]
    let rhs : Field .volume := .ofVector mesh b
    let settings := (Settings.default.apply s.options s.scope).2
    let out := (s.setup.session.withFunction f 0).invert rhs
    (s.setup.answer = .ok 2 ∧ f.AnswersZeros s.mesh ∧ AllFinite b ∧
        Settings.default.apply s.options s.scope = (.ok (), settings) ∧
        (settings.criteria.check (norm b) (norm b) 0).isConverged = false) ∧
      out.answer = .error (.fault .capacityOverflow) ∧
      ¬∃ code, code < 0 ∧ out.answer = .error (.error (.notConverged code)) := by
  intro mesh s f b rhs settings out
  have run : s.setup.answer.toOption.any (· == 2) = true := by decide +kernel
  obtain ⟨n, setUp, two⟩ := exists_ok_of_any run
  obtain rfl : n = 2 := beq_iff_eq.1 two
  have zeros : f.AnswersZeros s.mesh := by
    intro x count home allocated
    refine ⟨_, rfl, home, rfl, fun v mem => ?_⟩
    rw [Vector.eq_of_mem_replicate (Vector.mem_toList_iff.mp mem)]
    exact ⟨.positive, rfl⟩
  have finite : AllFinite b := by
    show AllFinite (#v[2.0, 4.0] : Vector Float 2)
    decide +kernel
  have read : Settings.default.apply s.options s.scope = (.ok (), settings) :=
    Prod.ext (by decide +kernel) rfl
  have full : out.answer.map (fun _ => ()) = .error (.fault .capacityOverflow) := by
    decide +kernel
  have full := error_of_map full
  refine ⟨⟨setUp, zeros, finite, read, by decide +kernel⟩, full, ?_⟩
  rintro ⟨code, -, unconverged⟩
  cases full.symm.trans unconverged

end Session

end MatrixFree
