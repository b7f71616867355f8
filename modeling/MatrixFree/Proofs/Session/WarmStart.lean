import MatrixFree.Operators.OnField
import MatrixFree.Proofs.Krylov.NotFinite
import MatrixFree.Proofs.Session.Flattening
import MatrixFree.Proofs.Session.Verification

/-!
# What an inversion starts from

Unless its settings keep the guess, every inversion of a session starts from zeros.  If they do
keep it, an inversion starts from the vector that the run before it returned, and whether that run
converged is not asked.  The invariant of a session between two calls is its next start
(`Session.StartsFrom`): an inversion replaces it by what its run returns, and no other call
touches it.

A run may return a vector with a NaN; under minimal residuals its record tells
(`Session.StartsFrom.afterAll_gaveUp`).  From then on the session is of no use: an operator that
spreads NaNs stops every run from there before its first iteration, so that the run returns its
start, and the next one starts from there again (`Session.Lost`).
-/

namespace MatrixFree

open Grid Engine Options Krylov Flat

variable {k : Kind} {σ : Type}

/-! ## The operator in use -/

namespace FieldOperator

/-- The vector that a multiply makes of the answer to a field with a NaN has one too. -/
def SpreadsNaN (f : FieldOperator k σ) (mesh : Mesh) : Prop :=
  ∀ (x v : Vector Float (k.count mesh)) memory, HasNaN x →
    Answer.pack mesh (f (Field.ofVector mesh x) memory).1 = .ok v → HasNaN v

/-- The multiply of a session while the operator is in use. -/
def multiply (f : FieldOperator k σ) (mesh : Mesh) :
    Action σ (Failure EngineError) Float (k.count mesh) := fun x y memory =>
  let (answer, w) := (meshShell k σ mesh).apply x y ⟨⟨f, memory⟩, []⟩
  (answer, w.adapter.memory)

variable {f : FieldOperator k σ} {mesh : Mesh}

theorem multiply_of_full {fault : Fault} (full : k.reserveIndices mesh = .error fault)
    (x y : Vector Float (k.count mesh)) (memory : σ) :
    f.multiply mesh x.toArray y memory = (.error (.fault fault), memory) := by
  unfold multiply
  rw [meshShell_of_full x y full]
  rfl

theorem multiply_of_room (room : k.reserveIndices mesh = .ok ())
    (x y : Vector Float (k.count mesh)) (memory : σ) :
    f.multiply mesh x.toArray y memory = (Answer.pack mesh (f (Field.ofVector mesh x) memory).1,
      (f (Field.ofVector mesh x) memory).2) := by
  obtain ⟨w, applied, adapter⟩ :=
    meshShell_of_room x y room (w := ⟨⟨f, memory⟩, []⟩) rfl
  unfold multiply
  rw [applied]
  dsimp only
  rw [adapter]

/-- A session multiplies like this, whatever it has measured. -/
theorem meshShell_mirrors_multiply (f : FieldOperator k σ) (mesh : Mesh) :
    (meshShell k σ mesh).apply.Mirrors
      (fun (w : Workspace k σ) memory => w.adapter = ⟨f, memory⟩) (f.multiply mesh) := by
  intro (x : Vector Float (k.count mesh)) (y : Vector Float (k.count mesh)) w memory inUse
  show ((meshShell k σ mesh).apply x.toArray y w).1 = (f.multiply mesh x.toArray y memory).1 ∧
    ((meshShell k σ mesh).apply x.toArray y w).2.adapter =
      ⟨f, (f.multiply mesh x.toArray y memory).2⟩
  cases listed : k.reserveIndices mesh with
  | error fault =>
      rw [meshShell_of_full x y listed, multiply_of_full listed]
      exact ⟨rfl, inUse⟩
  | ok _ =>
      obtain ⟨w', applied, adapter⟩ := meshShell_of_room x y listed inUse
      rw [applied, multiply_of_room listed]
      exact ⟨rfl, adapter⟩

theorem SpreadsNaN.multiply (spreads : f.SpreadsNaN mesh) : (f.multiply mesh).SpreadsNaN := by
  intro x y v memory nan image
  cases listed : k.reserveIndices mesh with
  | error fault =>
      rw [multiply_of_full listed] at image
      cases image
  | ok _ =>
      rw [multiply_of_room listed] at image
      exact spreads x v memory nan image

end FieldOperator

/-! ## Runs from a start with a NaN -/

section Run

variable {mesh : Mesh} {settings : Settings} {b start : Vector Float (k.count mesh)}
  {w : Workspace k σ}

/-- Whatever method the settings choose. -/
theorem Engine.runSolver_of_hasNaN {τ ε : Type} {n : Nat} {A : Action τ (Failure ε) Float n}
    (spreads : A.SpreadsNaN) (settings : Settings) (b : Vector Float n) {x : Vector Float n}
    (nan : HasNaN x) (memory : τ) :
    (runSolver settings A b x memory).solution = x ∧
      ((∃ e, (runSolver settings A b x memory).result = .error e ∧
          (A x.toArray (zero n) memory).1 = .error e) ∨
        ∃ stats, (runSolver settings A b x memory).result = .ok stats ∧
          stats.reason = .notFinite) := by
  obtain ⟨S, M, run⟩ := exists_runSolver_eq settings A b x memory
  rw [run]
  exact M.solve_of_hasNaN spreads nan memory

namespace Session

/-- A run is one of the operator in use. -/
theorem runOver_mirrors {f : FieldOperator k σ} {memory : σ} (inUse : w.adapter = ⟨f, memory⟩)
    (settings : Settings) (b start : Vector Float (k.count mesh)) :
    (runOver settings b start w).Mirrors
      (fun (w : Workspace k σ) memory => w.adapter = ⟨f, memory⟩)
      (runSolver settings (f.multiply mesh) b start memory) :=
  runSolver_mirrors (FieldOperator.meshShell_mirrors_multiply f mesh) settings b start inUse

/-- A run from a start with a NaN returns the start, under an error or without convergence. -/
theorem runOver_of_hasNaN (spreads : w.adapter.function.SpreadsNaN mesh) (settings : Settings)
    (b : Vector Float (k.count mesh)) (nan : HasNaN start) :
    (runOver settings b start w).solution = start ∧
      ((∃ e, (runOver settings b start w).result = .error e ∧
          (w.adapter.function.multiply mesh start.toArray (zero _) w.adapter.memory).1 =
            .error e) ∨
        ∃ stats, (runOver settings b start w).result = .ok stats ∧
          stats.reason = .notFinite) := by
  have mirrors := runOver_mirrors (w := w) rfl settings b start
  rw [mirrors.result, mirrors.solution]
  exact runSolver_of_hasNaN spreads.multiply settings b nan _

/-- What a session on a mesh answers to a run from a start with a NaN. -/
theorem answerOf_of_hasNaN (spreads : w.adapter.function.SpreadsNaN mesh) (settings : Settings)
    (b : Vector Float (k.count mesh)) (nan : HasNaN start) :
    (∃ e, (answerOf mesh (runOver settings b start w) : Except _ (Field k)) = .error e) ∧
      (k.reserveIndices mesh = .ok () → w.adapter.function.StaysOn mesh →
        (answerOf mesh (runOver settings b start w) : Except _ (Field k)) =
          .error (.error (.notConverged Reason.notFinite.code))) := by
  rcases (runOver_of_hasNaN spreads settings b nan).2 with ⟨e, failed, image⟩ | ⟨stats, ok, reason⟩
  · refine ⟨⟨_, answerOf_error failed⟩, fun room stays => ?_⟩
    -- An operator that stays on the mesh does not fail.
    obtain ⟨v, packed⟩ := Answer.pack_of_atHome (stays.atHome start w.adapter.memory)
    rw [FieldOperator.multiply_of_room room, packed] at image
    cases image
  · have unconverged : stats.reason.isConverged = false := by
      rw [reason]
      rfl
    have answer : (answerOf mesh (runOver settings b start w) : Except _ (Field k)) =
        .error (.error (.notConverged stats.reason.code)) := by
      rw [answerOf_ok ok, unconverged]
      rfl
    rw [reason] at answer
    exact ⟨⟨_, answer⟩, fun _ _ => answer⟩

/-- Minimal residuals return a NaN under one reason only. -/
theorem runOver_notFinite (chosen : settings.solver = .minimalResidual)
    (spreads : w.adapter.function.SpreadsNaN mesh) {stats : Stats Float}
    (ok : (runOver settings b start w).result = .ok stats)
    (nan : HasNaN (runOver settings b start w).solution) : stats.reason = .notFinite := by
  have mirrors := runOver_mirrors (w := w) rfl settings b start
  rw [mirrors.result] at ok
  rw [mirrors.solution] at nan
  unfold runSolver at ok nan
  rw [chosen] at ok nan
  exact MinimalResidual.solve_notFinite spreads.multiply ok nan

end Session

end Run

/-! ## The start of a session -/

namespace Session

/-- What the next inversion of a ready session starts from. -/
def start? (s : Session k σ) : Option (Array Float) :=
  match s.stage with
  | .ready r => some (r.handle.guess ⟨r.solution.entries, rfl⟩).toArray
  | _ => none

/-- A session on a mesh that is ready, with settings, and the vector its next run starts from. -/
structure StartsFrom (t : Session k σ) {mesh : Mesh} (settings : Settings)
    (start : Vector Float (k.count mesh)) : Prop where
  home : t.mesh = mesh
  ready : ∃ r scope, t.stage = .ready r ∧ (Ready.initial mesh scope settings).Continues r ∧
    ∃ previous : Vector Float (k.count mesh), r.solution.entries = previous.toArray ∧
      start = if settings.keepGuess then previous else Vector.replicate _ 0.0

section Start

variable {t u : Session k σ} {mesh : Mesh} {settings : Settings}
  {start : Vector Float (k.count mesh)}

theorem exists_startsFrom {r : Ready k σ} (home : t.mesh = mesh) (ready : t.stage = .ready r)
    {scope : String} (continued : (Ready.initial mesh scope settings).Continues r) :
    ∃ start : Vector Float (k.count mesh), t.StartsFrom settings start := by
  obtain ⟨previous, entries⟩ := continued.previous
  exact ⟨_, home, r, scope, ready, continued, previous, entries, rfl⟩

theorem StartsFrom.start? (h : t.StartsFrom settings start) :
    t.start? = some start.toArray := by
  obtain ⟨-, r, scope, ready, continued, previous, entries, rfl⟩ := h
  have kept : r.handle.settings = settings := by rw [continued.handle_eq]; rfl
  unfold Session.start? Handle.guess
  rw [ready]
  dsimp only
  rw [kept]
  split
  · exact congrArg some entries
  · have size : r.solution.entries.size = k.count mesh := by rw [entries, previous.size_toArray]
    rw [Vector.toArray_replicate, Vector.toArray_replicate, size]

/-- Zeros, if the guess is not kept. -/
theorem StartsFrom.not_hasNaN (h : t.StartsFrom settings start) (off : settings.keepGuess = false) :
    ¬HasNaN start := by
  obtain ⟨-, r, scope, ready, continued, previous, entries, rfl⟩ := h
  rw [off]
  exact not_hasNaN_zeros

/-- A call that leaves mesh and stage alone leaves the start. -/
theorem StartsFrom.of_eq (h : t.StartsFrom settings start) (mesh : u.mesh = t.mesh)
    (stage : u.stage = t.stage) : u.StartsFrom settings start :=
  ⟨mesh.trans h.home, stage ▸ h.ready⟩

theorem StartsFrom.reports (h : t.StartsFrom settings start) {rhs : Field k}
    (here : rhs.mesh = mesh) {b : Vector Float (k.count mesh)}
    (packed : rhs.toVector (k.count mesh) = .ok b) :
    Reports mesh (runOver settings b start (t.workspace.measure .packing)) (t.invert rhs) := by
  obtain ⟨rfl, r, scope, ready, continued, previous, entries, rfl⟩ := h
  exact invert_run ready continued here packed entries

/-- An inversion leaves the vector that its run returned. -/
theorem StartsFrom.invert (h : t.StartsFrom settings start) {rhs : Field k}
    (here : rhs.mesh = mesh) {b : Vector Float (k.count mesh)}
    (packed : rhs.toVector (k.count mesh) = .ok b) :
    (t.invert rhs).session.StartsFrom settings
      (if settings.keepGuess then
        (runOver settings b start (t.workspace.measure .packing)).solution
      else start) := by
  obtain ⟨r', ready', solution⟩ := (h.reports here packed).solution
  obtain ⟨home, r, scope, ready, continued, previous, entries, rfl⟩ := h
  obtain ⟨r'', ready'', continued'⟩ := invert_ready ready rhs
  obtain rfl : r'' = r' := Stage.ready.inj (ready''.symm.trans ready')
  refine ⟨(t.invert_mesh rhs).trans home, r'', scope, ready', continued.trans continued', _,
    solution, ?_⟩
  split <;> rfl

/-- A field that the session does not take leaves the start, and is refused. -/
theorem StartsFrom.invert_of_not_taken (h : t.StartsFrom settings start) {rhs : Field k}
    (other : ¬(rhs.mesh = mesh ∧ rhs.isAllocated = true)) :
    (t.invert rhs).session.StartsFrom settings start ∧ ∃ e, (t.invert rhs).answer = .error e := by
  obtain ⟨home, r, scope, ready, -⟩ := id h
  by_cases here : rhs.mesh = t.mesh
  · have unallocated : rhs.isAllocated = false :=
      eq_false_of_ne_true fun allocated => other ⟨here.trans home, allocated⟩
    rw [invert_unallocated ready here unallocated]
    exact ⟨h.of_eq rfl rfl, _, rfl⟩
  · rw [invert_foreign ready here]
    exact ⟨h, _, rfl⟩

end Start

/-! ## One call -/

/-- The field that a call inverts. -/
def Call.inverted? : Call k σ → Option (Field k)
  | .invert rhs => some rhs
  | .verify rhs _ => some rhs
  | _ => none

/-- The call neither ends the session nor installs an operator that loses a NaN. -/
def Call.KeepsNaN (mesh : Mesh) : Call k σ → Prop
  | .withFunction function _ => function.SpreadsNaN mesh
  | .destroy => False
  | _ => True

theorem Call.KeepsNaN.ne_destroy {mesh : Mesh} {call : Call k σ} (h : call.KeepsNaN mesh) :
    call ≠ .destroy := by
  rintro rfl
  exact h

section Calls

variable {t : Session k σ} {mesh : Mesh} {settings : Settings} {start : Vector Float (k.count mesh)}
  {call : Call k σ}

/-- A call that inverts is to mesh and stage what the inversion is. -/
theorem after_inverted (t : Session k σ) {rhs : Field k} (inverts : call.inverted? = some rhs) :
    (t.after call).mesh = (t.invert rhs).session.mesh ∧
      (t.after call).stage = (t.invert rhs).session.stage := by
  cases call with
  | invert f =>
      cases inverts
      exact ⟨rfl, rfl⟩
  | verify f tolerance =>
      cases inverts
      exact t.verify_frame _ tolerance
  | _ => cases inverts

/-- Any other call but the last leaves them alone. -/
theorem after_idle {r : Ready k σ} (ready : t.stage = .ready r) (idle : call.inverted? = none)
    (lives : call ≠ .destroy) : (t.after call).mesh = t.mesh ∧ (t.after call).stage = t.stage := by
  cases call with
  | setup =>
      unfold after
      rw [setup_of_ready ready]
      exact ⟨rfl, rfl⟩
  | invert f => cases idle
  | verify f tolerance => cases idle
  | destroy => exact absurd rfl lives
  | _ => exact ⟨rfl, rfl⟩

theorem StartsFrom.after_idle (h : t.StartsFrom settings start) (idle : call.inverted? = none)
    (lives : call ≠ .destroy) : (t.after call).StartsFrom settings start := by
  obtain ⟨r, -, ready, -⟩ := h.ready
  obtain ⟨mesh, stage⟩ := Session.after_idle ready idle lives
  exact h.of_eq mesh stage

/-- The operator in use keeps spreading NaNs. -/
theorem StartsFrom.after_spreads (h : t.StartsFrom settings start)
    (spreads : t.workspace.adapter.function.SpreadsNaN mesh) (keeps : call.KeepsNaN mesh) :
    (t.after call).workspace.adapter.function.SpreadsNaN mesh := by
  obtain ⟨home, r, scope, ready, continued, -⟩ := h
  have inverted (rhs : Field k) :
      (t.invert rhs).session.workspace.adapter.function.SpreadsNaN mesh := by
    rw [invert_function ready (home ▸ continued) rhs]
    exact spreads
  cases call with
  | withFunction function memory => exact keeps
  | setup =>
      unfold after
      rw [setup_of_ready ready]
      exact spreads
  | invert rhs => exact inverted rhs
  | verify rhs tolerance =>
      show (t.verify rhs tolerance).session.workspace.adapter.function.SpreadsNaN mesh
      cases answer : (t.invert rhs).answer with
      | error e =>
          rw [verify_of_error answer tolerance]
          exact inverted rhs
      | ok x =>
          rw [(verify_of_ok ready answer tolerance).1]
          exact inverted rhs
  | destroy => exact keeps.elim
  | _ => exact spreads

end Calls

/-! ## Sessions that cannot recover -/

/-- The session starts from a vector with a NaN, and its operator spreads it. -/
structure Lost (t : Session k σ) {mesh : Mesh} (settings : Settings)
    (start : Vector Float (k.count mesh)) : Prop where
  starts : t.StartsFrom settings start
  nan : HasNaN start
  spreads : t.workspace.adapter.function.SpreadsNaN mesh

section Lost

variable {t : Session k σ} {mesh : Mesh} {settings : Settings} {start : Vector Float (k.count mesh)}

/-- An inversion fails, and the next one starts where it did. -/
theorem Lost.invert (h : t.Lost settings start) (rhs : Field k) :
    (t.invert rhs).session.StartsFrom settings start ∧ ∃ e, (t.invert rhs).answer = .error e := by
  by_cases taken : rhs.mesh = mesh ∧ rhs.isAllocated = true
  · obtain ⟨b, packed⟩ := Field.exists_toVector taken.1 taken.2
    have spreads : (t.workspace.measure .packing).adapter.function.SpreadsNaN mesh := h.spreads
    have next := h.starts.invert taken.1 packed
    obtain ⟨same, -⟩ := runOver_of_hasNaN spreads settings b h.nan
    rw [same, ite_self] at next
    rw [(h.starts.reports taken.1 packed).answer]
    exact ⟨next, (answerOf_of_hasNaN spreads settings b h.nan).1⟩
  · exact h.starts.invert_of_not_taken taken

/-- What the inversion of a field that the session takes answers, if the operator stays on the
mesh. -/
theorem Lost.notConverged (h : t.Lost settings start) (room : k.reserveIndices mesh = .ok ())
    (stays : t.workspace.adapter.function.StaysOn mesh) {rhs : Field k} (here : rhs.mesh = mesh)
    (allocated : rhs.isAllocated = true) :
    (t.invert rhs).answer = .error (.error (.notConverged Reason.notFinite.code)) := by
  obtain ⟨b, packed⟩ := Field.exists_toVector here allocated
  have spreads : (t.workspace.measure .packing).adapter.function.SpreadsNaN mesh := h.spreads
  rw [(h.starts.reports here packed).answer]
  exact (answerOf_of_hasNaN spreads settings b h.nan).2 room stays

theorem Lost.after (h : t.Lost settings start) {call : Call k σ} (keeps : call.KeepsNaN mesh) :
    (t.after call).Lost settings start := by
  refine ⟨?_, h.nan, h.starts.after_spreads h.spreads keeps⟩
  cases inverts : call.inverted? with
  | none => exact h.starts.after_idle inverts keeps.ne_destroy
  | some rhs =>
      obtain ⟨same, stage⟩ := t.after_inverted inverts
      exact (h.invert rhs).1.of_eq same stage

theorem Lost.afterAll (calls : List (Call k σ)) (keeps : ∀ call ∈ calls, call.KeepsNaN mesh)
    (h : t.Lost settings start) : (t.afterAll calls).Lost settings start := by
  induction calls generalizing t with
  | nil => exact h
  | cons call calls ih =>
      obtain ⟨first, later⟩ := List.forall_mem_cons.mp keeps
      exact ih later (h.after first)

end Lost

/-! ## Where a NaN comes from -/

/-- The last solve with a record stopped because something was not finite. -/
def GaveUp (t : Session k σ) : Prop := ∃ stats, t.last? = some stats ∧ stats.reason = .notFinite

section Origin

variable {t : Session k σ} {mesh : Mesh} {settings : Settings} {start : Vector Float (k.count mesh)}

/-- Under minimal residuals an inversion that loses the start gives up. -/
theorem StartsFrom.invert_gaveUp (h : t.StartsFrom settings start)
    (chosen : settings.solver = .minimalResidual)
    (spreads : t.workspace.adapter.function.SpreadsNaN mesh) (rhs : Field k) :
    ∃ next : Vector Float (k.count mesh), (t.invert rhs).session.StartsFrom settings next ∧
      (HasNaN next → HasNaN start ∨ (t.invert rhs).session.GaveUp) := by
  by_cases taken : rhs.mesh = mesh ∧ rhs.isAllocated = true
  · obtain ⟨b, packed⟩ := Field.exists_toVector taken.1 taken.2
    have spreads' : (t.workspace.measure .packing).adapter.function.SpreadsNaN mesh := spreads
    refine ⟨_, h.invert taken.1 packed, ?_⟩
    split
    · intro nan
      cases result : (runOver settings b start (t.workspace.measure .packing)).result with
      | error e =>
          have same : (runOver settings b start (t.workspace.measure .packing)).solution = start :=
            runSolver_error result
          rw [same] at nan
          exact Or.inl nan
      | ok stats =>
          exact Or.inr ⟨stats, (h.reports taken.1 packed).last stats result,
            runOver_notFinite chosen spreads' result nan⟩
    · exact Or.inl
  · exact ⟨start, (h.invert_of_not_taken taken).1, Or.inl⟩

theorem StartsFrom.after_gaveUp (h : t.StartsFrom settings start)
    (chosen : settings.solver = .minimalResidual)
    (spreads : t.workspace.adapter.function.SpreadsNaN mesh) {call : Call k σ}
    (lives : call ≠ .destroy) :
    ∃ next : Vector Float (k.count mesh), (t.after call).StartsFrom settings next ∧
      (HasNaN next → HasNaN start ∨ (t.after call).GaveUp) := by
  cases inverts : call.inverted? with
  | none => exact ⟨start, h.after_idle inverts lives, Or.inl⟩
  | some rhs =>
      obtain ⟨same, stage⟩ := t.after_inverted inverts
      obtain ⟨next, starts, origin⟩ := h.invert_gaveUp chosen spreads rhs
      refine ⟨next, starts.of_eq same stage, fun nan => (origin nan).imp_right ?_⟩
      rintro ⟨stats, last, reason⟩
      exact ⟨stats, (last?_congr stage).trans last, reason⟩

/-- A start with a NaN goes back to a start with a NaN, or to a call after which the session had
given up. -/
theorem StartsFrom.afterAll_gaveUp (calls : List (Call k σ)) (h : t.StartsFrom settings start)
    (chosen : settings.solver = .minimalResidual)
    (spreads : t.workspace.adapter.function.SpreadsNaN mesh)
    (keeps : ∀ call ∈ calls, call.KeepsNaN mesh) :
    ∃ next : Vector Float (k.count mesh), (t.afterAll calls).StartsFrom settings next ∧
      (HasNaN next → HasNaN start ∨ ∃ before, before <+: calls ∧ (t.afterAll before).GaveUp) := by
  induction calls generalizing t start with
  | nil => exact ⟨start, h, Or.inl⟩
  | cons call calls ih =>
      obtain ⟨first, later⟩ := List.forall_mem_cons.mp keeps
      obtain ⟨middle, starts, origin⟩ := h.after_gaveUp chosen spreads first.ne_destroy
      obtain ⟨next, ends, origin'⟩ := ih starts (h.after_spreads spreads first) later
      refine ⟨next, ends, fun nan => ?_⟩
      rcases origin' nan with nan | ⟨before, isPrefix, gaveUp⟩
      · refine (origin nan).imp_right fun gaveUp => ⟨[call], ?_, gaveUp⟩
        exact (List.cons_prefix_cons).mpr ⟨rfl, List.nil_prefix⟩
      · exact Or.inr ⟨call :: before, List.cons_prefix_cons.mpr ⟨rfl, isPrefix⟩, gaveUp⟩

end Origin

/-! ## The start through all calls -/

/-- The start of a session between two calls, and what the next call makes of it. -/
structure Carries (t : Session k σ) {mesh : Mesh} (settings : Settings)
    (start : Vector Float (k.count mesh)) : Prop where
  here : t.start? = some start.toArray
  /-- The inversion of a field that the session takes is a run from the start. If the guess is kept,
  the next start is what this run returns, which is the old one if it has no record. -/
  runs : ∀ rhs b, rhs.mesh = mesh → rhs.toVector (k.count mesh) = .ok b →
    let report := runOver settings b start (t.workspace.measure .packing)
    Reports mesh report (t.invert rhs) ∧
      (settings.keepGuess = true →
        (t.invert rhs).session.start? = some report.solution.toArray) ∧
      ∀ e, report.result = .error e → report.solution = start
  refuses : ∀ rhs, ¬(rhs.mesh = mesh ∧ rhs.isAllocated = true) →
    (t.invert rhs).session.start? = t.start?
  /-- A verification leaves the start that its inversion leaves. -/
  inverts : ∀ call rhs, call.inverted? = some rhs →
    (t.after call).start? = (t.invert rhs).session.start?
  /-- Calls that invert nothing leave the start. -/
  idles : ∀ call, call.inverted? = none → call ≠ .destroy → (t.after call).start? = t.start?

theorem StartsFrom.carries {t : Session k σ} {mesh : Mesh} {settings : Settings}
    {start : Vector Float (k.count mesh)} (h : t.StartsFrom settings start) :
    t.Carries settings start := by
  refine ⟨h.start?, ?_, ?_, ?_, ?_⟩
  · intro rhs b here packed report
    refine ⟨h.reports here packed, ?_, fun e failed => runSolver_error failed⟩
    intro on
    have next := (h.invert here packed).start?
    rw [on, if_pos rfl] at next
    exact next
  · intro rhs other
    rw [(h.invert_of_not_taken other).1.start?, h.start?]
  · intro call rhs inverts
    unfold Session.start?
    rw [(t.after_inverted inverts).2]
  · intro call idle lives
    rw [(h.after_idle idle lives).start?, h.start?]

/-- A setup leaves zeros to start from. -/
theorem setup_startsFrom {s : Session k σ} {n : Nat} (setUp : s.setup.answer = .ok n)
    {settings : Settings} (read : Settings.default.apply s.options s.scope = (.ok (), settings)) :
    s.setup.session.StartsFrom settings (Vector.replicate (k.count s.mesh) 0.0) := by
  obtain ⟨-, r, log, built, -, made⟩ := setup_ok setUp
  obtain ⟨settings', read', rfl, -⟩ := build_ok built
  obtain rfl : settings = settings' := congrArg Prod.snd (read.symm.trans read')
  have stage : s.setup.session.stage = .ready (Ready.initial s.mesh s.scope settings) := by
    rw [made]
    rfl
  exact ⟨s.setup_mesh, _, s.scope, stage, .refl _, Vector.replicate (k.count s.mesh) 0.0,
    (Vector.toArray_replicate ..).symm, (ite_self _).symm⟩

/-- **Where inversions start.**  A session starts from zeros, or, if the settings keep the guess,
from what its last run returned, whatever verdict that run came to.  Under minimal residuals, with
operators that spread NaNs, a start with a NaN goes back to a solve that gave up.  And it is for
good: as long as the operators spread it, the start stays what it is, and no field is ever inverted
again. -/
theorem warm_starts {s : Session k σ} {n : Nat} (setUp : s.setup.answer = .ok n)
    (calls : List (Call k σ)) {r : Ready k σ}
    (ready : (s.setup.session.afterAll calls).stage = .ready r) :
    let t := s.setup.session.afterAll calls
    ∃ settings, ∃ start : Vector Float (k.count s.mesh),
      Settings.default.apply s.options s.scope = (.ok (), settings) ∧
      s.setup.session.start? = some (Array.replicate (k.count s.mesh) 0.0) ∧
      t.Carries settings start ∧
      (settings.keepGuess = false → ¬HasNaN start) ∧
      (settings.solver = .minimalResidual → s.workspace.adapter.function.SpreadsNaN s.mesh →
        (∀ call ∈ calls, call.KeepsNaN s.mesh) → HasNaN start →
        ∃ before, before <+: calls ∧ (s.setup.session.afterAll before).GaveUp) ∧
      (t.workspace.adapter.function.SpreadsNaN s.mesh → HasNaN start →
        ∀ later : List (Call k σ), (∀ call ∈ later, call.KeepsNaN s.mesh) →
          let u := t.afterAll later
          u.start? = some start.toArray ∧ ∀ rhs,
            (∃ e, (u.invert rhs).answer = .error e) ∧
            (k.reserveIndices s.mesh = .ok () → u.workspace.adapter.function.StaysOn s.mesh →
              rhs.mesh = s.mesh → rhs.isAllocated = true → (u.invert rhs).answer =
                .error (.error (.notConverged Reason.notFinite.code)))) := by
  intro t
  obtain ⟨settings, read, continued⟩ := ready_afterAll setUp calls ready
  have home : t.mesh = s.mesh := by
    show (s.setup.session.afterAll calls).mesh = s.mesh
    rw [afterAll_mesh, setup_mesh]
  have zeros := setup_startsFrom setUp read
  obtain ⟨start, starts⟩ := exists_startsFrom home ready continued
  refine ⟨settings, start, read, ?_, starts.carries, starts.not_hasNaN, ?_, ?_⟩
  · rw [zeros.start?, Vector.toArray_replicate]
  · intro chosen spreads keeps nan
    have same : s.setup.session.workspace.adapter.function = s.workspace.adapter.function := by
      obtain ⟨-, _, _, -, -, made⟩ := setup_ok setUp
      rw [made]
      rfl
    obtain ⟨next, ends, origin⟩ := zeros.afterAll_gaveUp calls chosen (same ▸ spreads) keeps
    have last : start = next := by
      have shown := starts.start?.symm.trans ends.start?
      exact Vector.toArray_inj.mp (Option.some.inj shown)
    exact (origin (last ▸ nan)).resolve_left not_hasNaN_zeros
  · intro spreads nan later keeps u
    have lost : u.Lost settings start := Lost.afterAll later keeps ⟨starts, nan, spreads⟩
    exact ⟨lost.starts.start?, fun rhs => ⟨(lost.invert rhs).2, fun room stays here allocated =>
      lost.notConverged room stays here allocated⟩⟩

/-- Conjugate gradients on a small multiple of the identity.  The first inversion overflows and
leaves a NaN, after which the session inverts nothing more. -/
theorem warm_starts_lost :
    let mesh := Mesh.serial 0 2 1 1
    let f : FieldOperator .volume Nat := fun x count =>
      (.ok { x with values := x.values.map fun xs => xs.map (1e-310 * ·) }, count + 1)
    let s : Session .volume Nat := ofFunction mesh f 0 (.ofTokens
      ["-invert_ksp_type", "cg", "-invert_ksp_initial_guess_nonzero"])
    let rhs : Field .volume := .ofVector mesh #v[1.0, 0.0]
    let t := s.setup.session.afterAll [.invert rhs]
    (s.setup.answer = .ok 2 ∧ f.SpreadsNaN mesh ∧ f.StaysOn mesh) ∧
      ∃ start : Vector Float (Kind.count .volume mesh),
        t.start? = some start.toArray ∧ HasNaN start ∧
          ∀ later : List (Call .volume Nat), (∀ call ∈ later, call.KeepsNaN mesh) →
            (t.afterAll later).start? = some start.toArray ∧
              ∃ e, ((t.afterAll later).invert rhs).answer = .error e := by
  intro mesh f s rhs t
  have spreads : f.SpreadsNaN mesh := by
    intro x v count nan packed
    obtain rfl : x.map (1e-310 * ·) = v := Except.ok.inj packed
    obtain ⟨value, mem, nan⟩ := nan
    exact ⟨1e-310 * value, Vector.mem_map_of_mem mem, Binary64.isNaN_mul_right nan _⟩
  have stays : f.StaysOn mesh := by
    intro x count home allocated
    refine ⟨{ x with values := x.values.map fun xs => xs.map (1e-310 * ·) }, rfl, home, ?_⟩
    exact (Option.isSome_map ..).trans allocated
  have run : s.setup.answer.toOption.any (· == 2) = true := by decide +kernel
  obtain ⟨n, setUp, two⟩ := exists_ok_of_any run
  obtain rfl : n = 2 := beq_iff_eq.1 two
  obtain ⟨-, r₀, log, -, -, made⟩ := setup_ok setUp
  have ready₀ : s.setup.session.stage = .ready r₀ := by
    rw [made]
    rfl
  obtain ⟨r, ready, -⟩ := invert_ready ready₀ rhs
  obtain ⟨settings, start, -, -, carries, -, -, lost⟩ := warm_starts setUp [.invert rhs] ready
  have held : t.start?.any (·.any Float.isNaN) = true := by decide +kernel
  have inUse : t.workspace.adapter.function = f := by
    obtain ⟨settings, -, continued⟩ := ready_afterAll setUp [] ready₀
    have home : s.mesh = s.setup.session.mesh := s.setup_mesh.symm
    refine (invert_function ready₀ (home ▸ continued) rhs).trans ?_
    rw [made]
    rfl
  have nan : HasNaN start := by
    have here : t.start? = some start.toArray := carries.here
    rw [here] at held
    obtain ⟨value, mem, nan⟩ := Array.any_eq_true'.mp held
    exact ⟨value, ⟨mem⟩, nan⟩
  refine ⟨⟨setUp, spreads, stays⟩, start, carries.here, nan, fun later keeps => ?_⟩
  obtain ⟨same, failed⟩ := lost (inUse ▸ spreads) nan later keeps
  exact ⟨same, (failed rhs).1⟩

/-- Stabilized biconjugate gradients on an invertible matrix.  The first inversion overflows, and
then the session fails on a right-hand side that it would have inverted before. -/
theorem start_with_nan :
    let s : Session .volume Nat := ofFunction (Mesh.serial 0 2 1 1)
      (Operators.OnField.function (.always (.rule (.dense #[[1.0, 0.0], [1.0, 1e10]])))) 0
      (.ofTokens ["-invert_ksp_type", "bcgs", "-invert_ksp_initial_guess_nonzero"])
    let large : Field .volume := .ofVector (Mesh.serial 0 2 1 1) #v[1e150, 0.0]
    let rhs : Field .volume := .ofVector (Mesh.serial 0 2 1 1) #v[1.0, 0.0]
    let t := s.setup.session.after (.invert large)
    s.setup.answer.toOption = some 2 ∧
      (t.start?.map fun start => start.any Float.isNaN) = some true ∧
      ((t.invert rhs).answer.map fun _ => ()) = .error (.error (.notConverged (-9))) ∧
      ((s.setup.session.invert rhs).answer.map fun _ => ()) = .ok () := by
  decide +kernel

end Session

end MatrixFree
