import MatrixFree.Options.Settings
import MatrixFree.Proofs.Scalar.Comparison

/-!
# Settings that a solve can start with

`Settings.validate` accepts the admissible settings and no others.  `Settings.apply` is not
atomic: after an error its answer holds what was taken over before the setting that cannot be
read (`Settings.apply_error`).  Whoever wants all or nothing has to keep the old settings.
-/

namespace MatrixFree.Options

/-! ## Admissible settings -/

namespace Settings

/-- Tolerances that a residual can be compared with, and a basis that has a vector. -/
structure Admissible (s : Settings) : Prop where
  relative : 0 ≤ s.relative
  absolute : 0 ≤ s.absolute
  growth : 0 < s.growth
  numbers : s.relative.isNaN = false ∧ s.absolute.isNaN = false ∧ s.growth.isNaN = false
  restart : 1 ≤ s.restart

theorem tolerable_iff {s : Settings} :
    s.tolerable = true ↔ 0 ≤ s.relative ∧ 0 ≤ s.absolute ∧ 0 < s.growth := by
  simp only [tolerable, Scalar.le, Scalar.lt, Bool.and_eq_true, decide_eq_true_eq, and_assoc]

theorem admissible_iff {s : Settings} : s.Admissible ↔ s.tolerable = true ∧ s.restart ≠ 0 := by
  rw [tolerable_iff]
  constructor
  · intro h
    exact ⟨⟨h.relative, h.absolute, h.growth⟩, Nat.one_le_iff_ne_zero.mp h.restart⟩
  · rintro ⟨⟨relative, absolute, growth⟩, restart⟩
    -- A NaN fails every comparison.
    have numbers : s.relative.isNaN = false ∧ s.absolute.isNaN = false ∧ s.growth.isNaN = false :=
      ⟨(Binary64.le_iff.mp relative).2.1, (Binary64.le_iff.mp absolute).2.1,
        (Binary64.lt_iff.mp growth).2.1⟩
    exact ⟨relative, absolute, growth, numbers, Nat.one_le_iff_ne_zero.mpr restart⟩

theorem validate_eq_ok_iff {s : Settings} : s.validate = .ok () ↔ s.Admissible := by
  rw [admissible_iff]
  unfold validate
  cases s.tolerable with
  | false => simp
  | true => by_cases h : s.restart = 0 <;> simp [h]

end Settings

/-! ## Taking over what a database has -/

section TakeOver

variable {db : Database} {scope : String} {s t : Settings} {e : EngineError}

/-- The settings with the value that the database has for one of them, if it can be read. -/
def Setting.takeOver (setting : Setting) (db : Database) (scope : String) (s : Settings) :
    Settings :=
  match db.get? (scope ++ setting.key) with
  | some raw => (setting.read raw s).getD s
  | none => s

/-- The database has a value for the setting, and the value cannot be read. -/
def Setting.Unreadable (setting : Setting) (db : Database) (scope : String) (s : Settings) : Prop :=
  ∃ raw, db.get? (scope ++ setting.key) = some raw ∧ setting.read raw s = none

namespace Settings

/-- The settings with the values that the database has for the listed ones. -/
def takeOver (s : Settings) (db : Database) (scope : String) (list : List Setting) : Settings :=
  list.foldl (fun s setting => setting.takeOver db scope s) s

theorem readAll_cons_of_unreadable {setting : Setting} (h : setting.Unreadable db scope s)
    (rest : List Setting) :
    ∃ raw, db.get? (scope ++ setting.key) = some raw ∧
      readAll db scope (setting :: rest) s =
        (.error (.badOption (scope ++ setting.key) (raw.getD "")), s) := by
  obtain ⟨raw, found, value⟩ := h
  refine ⟨raw, found, ?_⟩
  simp only [readAll, found, value]

theorem readAll_cons_of_readable {setting : Setting} (h : ¬setting.Unreadable db scope s)
    (rest : List Setting) :
    readAll db scope (setting :: rest) s = readAll db scope rest (setting.takeOver db scope s) := by
  cases found : db.get? (scope ++ setting.key) with
  | none => simp only [readAll, Setting.takeOver, found]
  | some raw =>
      cases value : setting.read raw s with
      | none => exact absurd ⟨raw, found, value⟩ h
      | some s' => simp only [readAll, Setting.takeOver, found, value, Option.getD_some]

theorem readAll_ok {list : List Setting} (h : readAll db scope list s = (.ok (), t)) :
    t = s.takeOver db scope list := by
  induction list generalizing s with
  | nil =>
      cases h
      rfl
  | cons setting rest ih =>
      by_cases bad : setting.Unreadable db scope s
      · obtain ⟨raw, -, refused⟩ := readAll_cons_of_unreadable bad rest
        rw [refused] at h
        cases h
      · rw [readAll_cons_of_readable bad] at h
        exact ih h

/-- Reading stops at the first value that cannot be read, with what came before taken over. -/
theorem readAll_error {list : List Setting} (h : readAll db scope list s = (.error e, t)) :
    ∃ before bad after, list = before ++ bad :: after ∧ t = s.takeOver db scope before ∧
      bad.Unreadable db scope t := by
  induction list generalizing s with
  | nil => cases h
  | cons setting rest ih =>
      by_cases bad : setting.Unreadable db scope s
      · obtain ⟨raw, -, refused⟩ := readAll_cons_of_unreadable bad rest
        rw [refused] at h
        cases h
        exact ⟨[], setting, rest, rfl, rfl, bad⟩
      · rw [readAll_cons_of_readable bad] at h
        obtain ⟨before, bad, after, rfl, taken, unreadable⟩ := ih h
        exact ⟨setting :: before, bad, after, rfl, taken, unreadable⟩

/-- Settings that cannot all be taken over: those before the first that cannot be read are, or
all are and are then not admissible. -/
theorem apply_error (h : s.apply db scope = (.error e, t)) :
    (∃ before bad after, Setting.all = before ++ bad :: after ∧
        t = s.takeOver db scope before ∧ bad.Unreadable db scope t) ∨
      t = s.takeOver db scope Setting.all ∧ ¬t.Admissible := by
  unfold apply at h
  rcases hread : readAll db scope Setting.all s with ⟨_ | _, u⟩
  · rw [hread] at h
    cases h
    exact Or.inl (readAll_error hread)
  · rw [hread] at h
    obtain ⟨refused, rfl⟩ := Prod.mk.inj h
    refine Or.inr ⟨readAll_ok hread, ?_⟩
    intro admissible
    rw [validate_eq_ok_iff.mpr admissible] at refused
    cases refused

end Settings

end TakeOver

end MatrixFree.Options
