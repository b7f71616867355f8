import MatrixFree.Proofs.Engine.Configuration

/-!
# Which solve a record is of

A handle takes the record of a solve when its method ends with one, and at no other time.  So
after any calls the record is that of the last solve that ended with a verdict
(`Handle.last_afterAll`).  A solve that fails, in its set-up step, on a vector that does not
fit or in the operator, leaves the record of an earlier one in place.

`Handle.Remembers` says what this comes to for a reader of the record.  What is told is true
of the last solve with a verdict, and every later solve has failed.  It is true of the last
solve that was made if that solve had a verdict, or if none has had one.
-/

namespace MatrixFree.Engine

open Options Krylov

/-! ## The last entry that counts -/

section Last

variable {X Y : Type}

theorem getLast?_filterMap_append (f : X → Option Y) (o : Option X) (l : List X)
    (first : Option Y) :
    ((o.toList ++ l).filterMap f).getLast?.or first =
      (l.filterMap f).getLast?.or ((o.bind f).or first) := by
  cases o with
  | none => rfl
  | some a =>
      show ((a :: l).filterMap f).getLast?.or first = (l.filterMap f).getLast?.or ((f a).or first)
      cases value : f a with
      | none => rw [List.filterMap_cons_none value, Option.none_or]
      | some y =>
          rw [List.filterMap_cons_some value, List.getLast?_cons]
          cases (l.filterMap f).getLast? <;> rfl

theorem exists_of_getLast?_filterMap {f : X → Option Y} {l : List X} {y : Y}
    (h : (l.filterMap f).getLast? = some y) :
    ∃ before a after, l = before ++ a :: after ∧ f a = some y ∧ ∀ b ∈ after, f b = none := by
  induction l with
  | nil => cases h
  | cons a l ih =>
      have split := getLast?_filterMap_append f (some a) l none
      rw [Option.or_none, Option.or_none] at split
      have split : some y = (l.filterMap f).getLast?.or (f a) := h.symm.trans split
      cases last : (l.filterMap f).getLast? with
      | none =>
          rw [last, Option.none_or] at split
          have later : ∀ b ∈ l, f b = none :=
            List.filterMap_eq_nil_iff.mp (List.getLast?_eq_none_iff.mp last)
          exact ⟨[], a, l, rfl, split.symm, later⟩
      | some z =>
          rw [last, Option.some_or] at split
          obtain ⟨before, c, after, rfl, value, later⟩ := ih (last.trans split.symm)
          exact ⟨a :: before, c, after, rfl, value, later⟩

end Last

namespace Handle

variable {γ σ : Type}

/-! ## One solve -/

/-- How a solve with any handle can end: refused, or with what its method reports. -/
theorem solve_cases (h : Handle γ σ) (b x : Slice) (memory : σ) :
    (∃ ready e log, h.solve b x memory = refuse { h with isSetUp := ready } e x memory log) ∨
      ∃ (op : Shell γ σ) (hb : b.size = op.size) (hx : x.size = op.size) (log : List Event),
        h.operator = some op ∧ h.solve b x memory =
          { Outcome.ofReport { h with isSetUp := true } x.globalSize
              (runSolver h.settings op.apply ⟨b.entries, hb⟩ (h.guess ⟨x.entries, hx⟩) memory) with
            log } := by
  by_cases ready : h.isSetUp = true ∨ ∃ op, h.checkReady = .ok op
  · obtain ⟨log, hsolve⟩ := solve_of_ready ready b x memory
    by_cases fits : ∃ op, h.operator = some op ∧ b.size = op.size ∧ x.size = op.size
    · obtain ⟨op, bound, hb, hx⟩ := fits
      rw [hsolve, solveReady_of_fits (h := { h with isSetUp := true }) bound hb hx, run_eq]
      exact Or.inr ⟨op, hb, hx, log, bound, rfl⟩
    · obtain ⟨e, refused⟩ :=
        solveReady_of_not_fits fun op bound hb hx => fits ⟨op, bound, hb, hx⟩
      rw [hsolve, refused { h with isSetUp := true } x memory rfl rfl]
      exact Or.inl ⟨true, e, log, rfl⟩
  · have off : h.isSetUp = false := eq_false_of_ne_true fun on => ready (Or.inl on)
    cases check : h.checkReady with
    | ok op => exact absurd (Or.inr ⟨op, check⟩) ready
    | error e => exact Or.inl ⟨h.isSetUp, e, [], solve_of_not_ready off check b x memory⟩

/-- A solve among the calls on a handle: the handle before it, and what it is called with. -/
structure Attempt (γ σ : Type) where
  handle : Handle γ σ
  request : Request σ

namespace Attempt

def outcome (a : Attempt γ σ) : Outcome γ σ :=
  a.handle.solve a.request.rhs a.request.solution a.request.memory

/-- The solve ended without a verdict. -/
def Fails (a : Attempt γ σ) : Prop := ∃ e, a.outcome.result = .error e

/-- The record that the solve leaves, if it leaves one of its own. -/
def record? (a : Attempt γ σ) : Option (Stats Float) :=
  match a.outcome.result with
  | .ok _ => a.outcome.handle.last
  | .error _ => none

/-- What a solve puts on record: with a verdict, the record of its method's run, and nothing
without one. -/
structure Recorded (a : Attempt γ σ) : Prop where
  ended : ∀ reason, a.outcome.result = .ok reason →
    ∃ (op : Shell γ σ) (hb : a.request.rhs.size = op.size) (hx : a.request.solution.size = op.size)
      (stats : Stats Float),
      a.handle.operator = some op ∧
        (runSolver a.handle.settings op.apply ⟨a.request.rhs.entries, hb⟩
          (a.handle.guess ⟨a.request.solution.entries, hx⟩) a.request.memory).result = .ok stats ∧
        stats.reason = reason ∧ a.record? = some stats
  failed : a.Fails → a.record? = none
  last : a.outcome.handle.last = a.record?.or a.handle.last

theorem recorded (a : Attempt γ σ) : a.Recorded := by
  rcases a.handle.solve_cases a.request.rhs a.request.solution a.request.memory with
    ⟨ready, e, log, refused⟩ | ⟨op, hb, hx, log, bound, ran⟩
  · have outcome : a.outcome = _ := refused
    have record : a.record? = none := by
      unfold record?
      rw [outcome]
      rfl
    refine ⟨?_, fun _ => record, ?_⟩
    · intro reason result
      rw [outcome] at result
      cases result
    · rw [record, outcome]
      rfl
  · have outcome : a.outcome = _ := ran
    have result := congrArg Outcome.result outcome
    have last := congrArg (fun out => out.handle.last) outcome
    dsimp only at result last
    rw [Outcome.ofReport_result] at result
    rw [Outcome.ofReport_handle] at last
    cases answer : (runSolver a.handle.settings op.apply ⟨a.request.rhs.entries, hb⟩
        (a.handle.guess ⟨a.request.solution.entries, hx⟩) a.request.memory).result with
    | error e =>
        rw [answer] at result last
        have record : a.record? = none := by
          unfold record?
          rw [result]
          rfl
        refine ⟨?_, fun _ => record, ?_⟩
        · intro reason ok
          rw [result] at ok
          cases ok
        · rw [record, last]
          rfl
    | ok stats =>
        rw [answer] at result last
        have record : a.record? = some stats := by
          unfold record?
          rw [result, last]
          rfl
        refine ⟨?_, ?_, ?_⟩
        · intro reason ok
          rw [result] at ok
          exact ⟨op, hb, hx, stats, bound, answer, Except.ok.inj ok, record⟩
        · rintro ⟨e, failed⟩
          rw [result] at failed
          cases failed
        · rw [record, last]
          rfl

theorem record?_eq_none_iff (a : Attempt γ σ) : a.record? = none ↔ a.Fails := by
  refine ⟨?_, a.recorded.failed⟩
  intro none
  cases result : a.outcome.result with
  | error e => exact ⟨e, result⟩
  | ok reason =>
      obtain ⟨_, _, _, stats, -, -, -, record⟩ := a.recorded.ended reason result
      rw [record] at none
      cases none

theorem result_of_record? {a : Attempt γ σ} {stats : Stats Float} (record : a.record? = some stats) :
    a.outcome.result = .ok stats.reason := by
  cases result : a.outcome.result with
  | error e =>
      rw [a.recorded.failed ⟨e, result⟩] at record
      cases record
  | ok reason =>
      obtain ⟨_, _, _, stats', -, -, rfl, record'⟩ := a.recorded.ended reason result
      rw [Option.some.inj (record.symm.trans record')]

end Attempt

/-! ## Solves among calls -/

/-- The solve that a call makes. -/
def attempt? (h : Handle γ σ) : Call γ σ → Option (Attempt γ σ)
  | .solve q => some ⟨h, q⟩
  | _ => none

/-- The solves among some calls, first to last. -/
def attempts : Handle γ σ → List (Call γ σ) → List (Attempt γ σ)
  | _, [] => []
  | h, call :: calls => (h.attempt? call).toList ++ (h.after call).attempts calls

/-- What a record that is read after some solves tells about them. -/
structure Remembers (last : Option (Stats Float)) (solves : List (Attempt γ σ)) : Prop where
  recorded : ∀ a ∈ solves, a.Recorded
  /-- The record is that of a solve with a verdict, and all solves after that one failed. -/
  held : ∀ stats, last = some stats → ∃ before a after, solves = before ++ a :: after ∧
    a.outcome.result = .ok stats.reason ∧ a.record? = some stats ∧ ∀ a' ∈ after, a'.Fails
  /-- There is no record as long as all solves fail. -/
  empty : last = none ↔ ∀ a ∈ solves, a.Fails
  /-- When the record is that of the last solve, whether that has one or not. -/
  current : ∀ before a, solves = before ++ [a] →
    (last = a.record? ↔ ¬a.Fails ∨ ∀ a' ∈ before, a'.Fails)

theorem filterMap_record?_eq_nil_iff (solves : List (Attempt γ σ)) :
    solves.filterMap Attempt.record? = [] ↔ ∀ a ∈ solves, a.Fails := by
  simp only [List.filterMap_eq_nil_iff, Attempt.record?_eq_none_iff]

theorem Remembers.of_last {last : Option (Stats Float)} {solves : List (Attempt γ σ)}
    (h : last = (solves.filterMap Attempt.record?).getLast?) : Remembers last solves := by
  refine ⟨fun a _ => a.recorded, ?_, ?_, ?_⟩
  · rintro stats rfl
    obtain ⟨before, a, after, rfl, record, later⟩ := exists_of_getLast?_filterMap h.symm
    exact ⟨before, a, after, rfl, Attempt.result_of_record? record, record,
      fun a' mem => a'.record?_eq_none_iff.mp (later a' mem)⟩
  · rw [h, List.getLast?_eq_none_iff, filterMap_record?_eq_nil_iff]
  · rintro before a rfl
    rw [List.filterMap_append] at h
    by_cases failed : a.Fails
    · have record : a.record? = none := a.recorded.failed failed
      have alone : [a].filterMap Attempt.record? = [] := by simp [record]
      rw [alone, List.append_nil] at h
      rw [h, record, List.getLast?_eq_none_iff, filterMap_record?_eq_nil_iff]
      simp [failed]
    · obtain ⟨stats, record⟩ : ∃ stats, a.record? = some stats :=
        Option.ne_none_iff_exists'.mp fun none => failed (a.record?_eq_none_iff.mp none)
      have alone : [a].filterMap Attempt.record? = [stats] := by simp [record]
      rw [alone, List.getLast?_concat] at h
      simp [h, record, failed]

/-- A call that is no solve keeps the record. -/
theorem last_after (h : Handle γ σ) (call : Call γ σ) :
    (h.after call).last = ((h.attempt? call).bind Attempt.record?).or h.last := by
  cases call with
  | setOperator op => rfl
  | setScope scope =>
      change (h.setScope scope).2.last = h.last
      unfold setScope
      split <;> rfl
  | setFromOptions db =>
      change (h.setFromOptions db).2.last = h.last
      unfold setFromOptions
      split <;> rfl
  | setSolver solver => rfl
  | setTolerances relative absolute growth limit => rfl
  | setUp =>
      change h.setUp.2.1.last = h.last
      unfold setUp
      split <;> rfl
  | solve q => exact (Attempt.recorded ⟨h, q⟩).last

/-- The record is that of the last solve with a verdict. -/
theorem last_afterAll (calls : List (Call γ σ)) (h : Handle γ σ) :
    (h.afterAll calls).last =
      ((h.attempts calls).filterMap Attempt.record?).getLast?.or h.last := by
  induction calls generalizing h with
  | nil => rfl
  | cons call calls ih =>
      show ((h.after call).afterAll calls).last = _
      rw [ih (h.after call), h.last_after call]
      exact (getLast?_filterMap_append _ _ _ _).symm

theorem remembers_create (comm : Communicator) (calls : List (Call γ σ)) :
    Remembers ((create comm : Handle γ σ).afterAll calls).last ((create comm).attempts calls) :=
  .of_last ((last_afterAll calls (create comm)).trans Option.or_none)

end Handle

end MatrixFree.Engine
