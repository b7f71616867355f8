import MatrixFree.Proofs.Options.Reading
import MatrixFree.Proofs.Session.Setup

/-!
# When a setup succeeds

Setup is a sequence of engine calls, and `Session.build_eq` leaves three questions of them: whether
there is room for the entries, whether the scope may stand in front of keys, and whether the options
behind it can be applied.  They are asked in this order, so each failure says what was fine before
it (`Session.SetupRefusal`), and there is no other failure.

A setup that fails leaves the session as it was.  What it would build depends on the mesh, the scope
and the options alone: not on the operator function, which is not applied, and not on setups
that have failed before.
-/

namespace MatrixFree

open Grid Engine Options Text

namespace Engine.Handle

/-- A text that may stand in front of keys: without blanks, and without a dash at its start. -/
structure Admissible (scope : String) : Prop where
  undashed : scope.toList.head? ≠ some '-'
  unbroken : ∀ c ∈ scope.toList, isBlank c = false

theorem admitsScope_iff {scope : String} : admitsScope scope = true ↔ Admissible scope := by
  unfold admitsScope
  rw [Bool.and_eq_true, Bool.not_eq_true', List.any_eq_false, decide_eq_true_iff]
  simp only [Bool.not_eq_true]
  exact ⟨fun h => ⟨h.1, h.2⟩, fun h => ⟨h.undashed, h.unbroken⟩⟩

end Engine.Handle

namespace Options.Settings

/-- Options that are refused are invalid arguments to the engine, whatever is wrong with them. -/
theorem code_of_apply {s : Settings} {db : Database} {scope : String} {e : EngineError}
    (refused : (s.apply db scope).1 = .error e) : e.code = 62 := by
  by_cases readable : ∀ entry ∈ Setting.kinds, db.Readable scope entry
  · rw [apply_of_readable readable] at refused
    obtain ⟨what, rfl⟩ := validate_eq_error refused
    rfl
  · push Not at readable
    obtain ⟨place, name, kind, raw, -, -, -, -, stopped⟩ := apply_of_unreadable readable s
    rw [stopped] at refused
    rw [← Except.error.inj refused]
    rfl

end Options.Settings

variable {k : Kind} {σ : Type}

namespace Session

/-! ## What is asked -/

/-- There is room for the entries of a field on the mesh of the session. -/
def HasRoom (s : Session k σ) : Prop := Storage.HasRoom (k.count s.mesh) Storage.numberBytes

/-- The session was given a scope and options that a solver can be configured with. -/
structure Configured (s : Session k σ) : Prop where
  scope : Handle.Admissible s.scope
  options : (Settings.default.apply s.options s.scope).1 = .ok ()

/-- The failures of a setup, in the order in which they are looked for. -/
inductive SetupRefusal (s : Session k σ) : Failure SessionError → Prop where
  | room (full : ¬s.HasRoom) : SetupRefusal s (.fault .capacityOverflow)
  | scope (room : s.HasRoom) (bad : ¬Handle.Admissible s.scope) :
    SetupRefusal s (.error (.engineCall "KSPSetOptionsPrefix"
      (.invalidArgument ("invalid options prefix " ++ quote s.scope))))
  | options (room : s.HasRoom) (scope : Handle.Admissible s.scope) {e : EngineError}
    (bad : (Settings.default.apply s.options s.scope).1 = .error e) :
    SetupRefusal s (.error (.engineCall "KSPSetFromOptions" e))

/-- Setup does the same to both sessions. -/
structure SetsUpAs (s t : Session k σ) : Prop where
  answer : s.setup.answer = t.setup.answer
  log : s.setup.log = t.setup.log
  stage : s.setup.session.stage = t.setup.session.stage

/-! ## What is answered -/

/-- A setup either builds for the mesh of the session or is refused. -/
theorem build_cases (s : Session k σ) :
    (s.HasRoom ∧ s.Configured ∧ ∃ r log, s.build = .ok (r, log) ∧ r.size = k.count s.mesh) ∨
      ∃ failure, s.SetupRefusal failure ∧ s.build = .error failure := by
  rw [build_eq]
  by_cases room : Storage.HasRoom (k.count s.mesh) Storage.numberBytes
  · rw [if_pos room]
    by_cases scope : Handle.Admissible s.scope
    · rw [if_pos (Handle.admitsScope_iff.mpr scope)]
      rcases read : Settings.default.apply s.options s.scope with ⟨e | ⟨⟩, settings⟩
      · exact Or.inr ⟨_, .options room scope (congrArg Prod.fst read), rfl⟩
      · exact Or.inl ⟨room, ⟨scope, congrArg Prod.fst read⟩, _, _, rfl, rfl⟩
    · rw [if_neg (mt Handle.admitsScope_iff.mp scope)]
      exact Or.inr ⟨_, .scope room scope, rfl⟩
  · rw [if_neg room]
    exact Or.inr ⟨_, .room room, rfl⟩

theorem setup_cases {s : Session k σ} (fresh : s.stage = .fresh) :
    (s.HasRoom ∧ s.Configured ∧ s.setup.answer = .ok (k.count s.mesh)) ∨
      ∃ failure, s.SetupRefusal failure ∧ s.setup = ⟨.error failure, s, []⟩ := by
  rcases s.build_cases with ⟨room, configured, r, log, built, size⟩ | ⟨failure, refusal, refused⟩
  · rw [setup_of_build fresh built, ← size]
    exact Or.inl ⟨room, configured, rfl⟩
  · exact Or.inr ⟨failure, refusal, setup_of_build_error fresh refused⟩

/-- A session that is refused is not configured, or there is no room. -/
theorem SetupRefusal.not_configured {s : Session k σ} {failure : Failure SessionError}
    (refused : s.SetupRefusal failure) (room : s.HasRoom) : ¬s.Configured := by
  intro configured
  cases refused with
  | room full => exact full room
  | scope _ bad => exact bad configured.scope
  | options _ _ bad =>
      rw [configured.options] at bad
      cases bad

/-- The failures exclude each other. -/
theorem SetupRefusal.unique {s : Session k σ} {one other : Failure SessionError}
    (first : s.SetupRefusal one) (second : s.SetupRefusal other) : one = other := by
  cases first with
  | room full =>
      cases second with
      | room => rfl
      | scope room => exact absurd room full
      | options room => exact absurd room full
  | scope room bad =>
      cases second with
      | room full => exact absurd room full
      | scope => rfl
      | options _ scope => exact absurd scope bad
  | options room scope bad =>
      cases second with
      | room full => exact absurd room full
      | scope _ refused => exact absurd scope refused
      | options _ _ refused => rw [Except.error.inj (bad.symm.trans refused)]

/-- A failed engine call is told with the number of its error. -/
theorem SetupRefusal.code {s : Session k σ} {e : SessionError}
    (refused : s.SetupRefusal (.error e)) :
    ∃ call source, e = .engineCall call source ∧ source.code = 62 ∧
      e.message = call ++ " failed with status 62" := by
  have told {call : String} {source : EngineError} (code : source.code = 62) :
      (SessionError.engineCall call source).message = call ++ " failed with status 62" := by
    show call ++ " failed with status " ++ toString source.code = _
    rw [code, String.append_assoc]
    rfl
  cases refused with
  | scope => exact ⟨_, _, rfl, rfl, told rfl⟩
  | options _ _ bad =>
      have code := Settings.code_of_apply bad
      exact ⟨_, _, rfl, code, told code⟩

/-- Sessions that were never set up are set up alike if mesh, scope and options are the same. -/
theorem SetsUpAs.of_fresh {s t : Session k σ} (fresh : s.stage = .fresh) (fresh' : t.stage = .fresh)
    (mesh : t.mesh = s.mesh) (scope : t.scope = s.scope) (options : t.options = s.options) :
    s.SetsUpAs t := by
  have same : t.build = s.build := build_congr mesh scope options
  rcases s.build_cases with ⟨-, -, r, log, built, -⟩ | ⟨failure, -, refused⟩
  · have first := setup_of_build fresh built
    have second := setup_of_build fresh' (same.trans built)
    exact ⟨by rw [first, second], by rw [first, second], by rw [first, second]; rfl⟩
  · have first := setup_of_build_error fresh refused
    have second := setup_of_build_error fresh' (same.trans refused)
    refine ⟨by rw [first, second], by rw [first, second], ?_⟩
    rw [first, second]
    exact fresh.trans fresh'.symm

/-- Setup does not look at the operator function. -/
theorem setup_withFunction {s : Session k σ} (fresh : s.stage = .fresh)
    (function : FieldOperator k σ) (memory : σ) :
    (s.withFunction function memory).setup =
      ⟨s.setup.answer, s.setup.session.withFunction function memory, s.setup.log⟩ := by
  have same : (s.withFunction function memory).build = s.build := build_congr rfl rfl rfl
  have fresh' : (s.withFunction function memory).stage = .fresh := fresh
  rcases s.build_cases with ⟨-, -, r, log, built, -⟩ | ⟨failure, -, refused⟩
  · rw [setup_of_build fresh built, setup_of_build fresh' (same.trans built)]
    rfl
  · rw [setup_of_build_error fresh refused, setup_of_build_error fresh' (same.trans refused)]

/-- **A setup succeeds exactly if the session is configured correctly, and one that fails does
nothing.**  It answers the number of entries exactly if there is room for them, the scope is
admissible and the options can be applied behind it.  It fails exactly for the first of these
that is not so, and then the session is what it was, down to the operator and its memory; set up
again with another scope and other options, it does what a session does that is made with those.
The operator function is never asked: with another one installed the answer is the same. -/
theorem setup_decides {s : Session k σ} (fresh : s.stage = .fresh) :
    (∀ n, s.setup.answer = .ok n ↔ s.HasRoom ∧ s.Configured ∧ n = k.count s.mesh) ∧
      (k.Countable s.mesh → ∀ n, s.setup.answer = .ok n → n = (k.indices s.mesh).length) ∧
      (∀ failure, s.setup.answer = .error failure ↔ s.SetupRefusal failure) ∧
      (∀ e, s.setup.answer = .error (.error e) → ∃ call source, e = .engineCall call source ∧
        source.code = 62 ∧ e.message = call ++ " failed with status 62") ∧
      (∀ failure, s.setup.answer = .error failure → s.setup = ⟨.error failure, s, []⟩ ∧
        ∀ scope options function memory,
          ((s.setup.session.withScope scope).withOptions options).SetsUpAs
            ((ofFunction s.mesh function memory options).withScope scope)) ∧
      ∀ function memory, (s.withFunction function memory).setup =
        ⟨s.setup.answer, s.setup.session.withFunction function memory, s.setup.log⟩ := by
  have succeeds (n : Nat) :
      s.setup.answer = .ok n ↔ s.HasRoom ∧ s.Configured ∧ n = k.count s.mesh := by
    rcases setup_cases fresh with ⟨room, configured, ok⟩ | ⟨other, refusal, refused⟩
    · rw [ok]
      exact ⟨fun same => ⟨room, configured, (Except.ok.inj same).symm⟩,
        fun same => congrArg _ same.2.2.symm⟩
    · rw [refused]
      exact ⟨nofun, fun fine => absurd fine.2.1 (refusal.not_configured fine.1)⟩
  have fails (failure : Failure SessionError) :
      s.setup.answer = .error failure ↔ s.SetupRefusal failure := by
    rcases setup_cases fresh with ⟨room, configured, ok⟩ | ⟨other, refusal, refused⟩
    · rw [ok]
      exact ⟨nofun, fun refused => absurd configured (refused.not_configured room)⟩
    · rw [refused]
      refine ⟨?_, fun same => congrArg _ (refusal.unique same)⟩
      intro same
      exact Except.error.inj same ▸ refusal
  refine ⟨succeeds, ?_, fails, fun e failed => ((fails _).mp failed).code, ?_,
    setup_withFunction fresh⟩
  · intro countable n ok
    rw [((succeeds n).mp ok).2.2, Kind.length_indices countable]
  · intro failure failed
    have unchanged : s.setup = ⟨.error failure, s, []⟩ := by
      rcases setup_cases fresh with ⟨-, -, ok⟩ | ⟨other, -, refused⟩
      · cases ok.symm.trans failed
      · rw [refused] at failed ⊢
        rw [Except.error.inj failed]
    refine ⟨unchanged, fun scope options function memory => ?_⟩
    rw [unchanged]
    exact .of_fresh fresh rfl rfl rfl rfl

/-- A negative tolerance is refused when it is validated, and the operator, which would fault, is
not applied.  With another tolerance the same session is ready. -/
theorem setup_decides_negative :
    let mesh := Mesh.serial 0 2 1 1
    let faulty : FieldOperator .volume Nat := fun _ calls => (.error .durationOverflow, calls + 1)
    let s : Session .volume Nat :=
      (ofFunction mesh faulty 0 (.ofTokens ["-lap_ksp_rtol", "-1"])).withScope "lap_"
    let corrected := Database.ofTokens ["-lap_ksp_rtol", "1"]
    s.stage = .fresh ∧
      (∃ source, s.setup = ⟨.error (.error (.engineCall "KSPSetFromOptions" source)), s, []⟩ ∧
        source.code = 62) ∧
      s.setup.session.workspace.adapter.memory = 0 ∧
      (s.setup.session.withOptions corrected).setup.answer = .ok 2 := by
  intro mesh faulty s corrected
  have room : s.HasRoom := by
    unfold HasRoom
    decide +kernel
  have scope : Handle.Admissible s.scope := Handle.admitsScope_iff.mp (by decide +kernel)
  have bad : (Settings.default.apply s.options s.scope).1 ≠ .ok () := by decide +kernel
  obtain ⟨-, -, fails, -, nothing, -⟩ := setup_decides (s := s) rfl
  cases read : (Settings.default.apply s.options s.scope).1 with
  | ok u => exact absurd read bad
  | error source =>
      have failed := (fails _).mpr (.options room scope read)
      obtain ⟨unchanged, -⟩ := nothing _ failed
      rw [unchanged]
      refine ⟨rfl, ⟨source, rfl, Settings.code_of_apply read⟩, rfl, ?_⟩
      obtain ⟨succeeds, -⟩ := setup_decides (s := s.withOptions corrected) rfl
      exact (succeeds 2).mpr ⟨room, ⟨scope, by decide +kernel⟩, by decide +kernel⟩

/-- There are meshes whose entries can be counted and not stored.  Setup fails there, whatever the
scope and the options. -/
theorem setup_of_no_room :
    let mesh := Mesh.serial 0 1 (2 ^ 60) 1
    let s : Session .sheet Unit :=
      (ofFunction mesh (fun f memory => (.ok f, memory)) () .empty).withScope "invert_"
    Kind.Countable .sheet mesh ∧ s.stage = .fresh ∧ s.Configured ∧
      s.setup.answer = .error (.fault .capacityOverflow) ∧ ¬∃ n, s.setup.answer = .ok n := by
  intro mesh s
  have countable : Kind.Countable .sheet mesh := by
    unfold Kind.Countable
    decide
  have full : ¬Storage.HasRoom (Kind.count .sheet s.mesh) Storage.numberBytes := by decide
  have refused : s.setup.answer = .error (.fault .capacityOverflow) := by
    rw [setup_of_build_error rfl ((build_eq s).trans (if_neg full))]
  have scope : Handle.Admissible s.scope := Handle.admitsScope_iff.mp (by decide +kernel)
  refine ⟨countable, rfl, ⟨scope, by decide +kernel⟩, refused, ?_⟩
  rintro ⟨n, ok⟩
  cases refused.symm.trans ok

end Session

end MatrixFree
