import MatrixFree.Proofs.Options.Grammar
import MatrixFree.Proofs.Options.Settings

/-!
# Scopes

Solvers share one database, and each looks its settings up behind a scope of its own.  What
is read behind a scope depends on eight entries and on nothing else (`Settings.apply_congr`).

The eight entries of two scopes never meet, though one scope may end like the other or be
empty: a key is a scope and a name, and no name is the end of another name, so the key says
which is which (`Recognised.scope_unique`).  A new name that ended in an old one would break
just that, and with it the isolation of scopes (`Settings.scopes_isolate`).
-/

namespace MatrixFree.Options

/-! ## Names and keys -/

namespace Setting

/-- The names of the settings, as they stand behind a scope. -/
def names : List String := all.map key

theorem key_mem_names {setting : Setting} (h : setting ∈ all) : setting.key ∈ names :=
  List.mem_map_of_mem h

theorem nodup_names : names.Nodup := by decide +kernel

/-- No name is the end of another. -/
theorem eq_of_suffix : ∀ n ∈ names, ∀ m ∈ names, m.toList <:+ n.toList → m = n := by
  decide +kernel

end Setting

/-- The key is one under which settings are looked up behind the scope. -/
def Recognised (scope key : String) : Prop := ∃ name ∈ Setting.names, key = scope ++ name

/-- A key says its scope and its name. -/
theorem eq_of_append_eq {p q n m : String} (hn : n ∈ Setting.names) (hm : m ∈ Setting.names)
    (h : p ++ n = q ++ m) : p = q ∧ n = m := by
  have same : n = m := by
    rw [← String.toList_inj, String.toList_append, String.toList_append] at h
    -- The shorter of the two names is an end of the longer.
    rcases List.append_eq_append_iff.mp h with ⟨between, -, longer⟩ | ⟨between, -, longer⟩
    · exact (Setting.eq_of_suffix n hn m hm ⟨between, longer.symm⟩).symm
    · exact Setting.eq_of_suffix m hm n hn ⟨between, longer.symm⟩
  subst same
  exact ⟨(String.append_left_inj n).mp h, rfl⟩

theorem Recognised.scope_unique {p q key : String} (hp : Recognised p key)
    (hq : Recognised q key) : p = q := by
  obtain ⟨n, hn, rfl⟩ := hp
  obtain ⟨m, hm, same⟩ := hq
  exact (eq_of_append_eq hn hm same).1

/-! ## What is read behind a scope -/

namespace Settings

variable {db db' : Database} {scope : String}

theorem readAll_congr {list : List Setting}
    (agree : ∀ setting ∈ list, db.get? (scope ++ setting.key) = db'.get? (scope ++ setting.key))
    (s : Settings) : readAll db scope list s = readAll db' scope list s := by
  induction list generalizing s with
  | nil => rfl
  | cons setting rest ih =>
      have here := agree setting List.mem_cons_self
      have later := ih fun other mem => agree other (List.mem_cons_of_mem _ mem)
      rw [readAll, readAll, here]
      cases db'.get? (scope ++ setting.key) with
      | none => exact later s
      | some raw =>
          dsimp only
          cases setting.read raw s with
          | none => rfl
          | some t => exact later t

/-- Databases that agree on the eight entries of a scope give the same settings behind it, and
the same error. -/
theorem apply_congr
    (agree : ∀ name ∈ Setting.names, db.get? (scope ++ name) = db'.get? (scope ++ name))
    (s : Settings) : s.apply db scope = s.apply db' scope := by
  have read : readAll db scope Setting.all s = readAll db' scope Setting.all s :=
    readAll_congr (fun setting mem => agree setting.key (Setting.key_mem_names mem)) s
  unfold apply
  rw [read]

/-- **Scopes isolate solvers.**  What is read behind a scope is decided by the eight entries of
that scope.  No key belongs to two scopes, so databases that differ in the entries of another
scope only, in whatever way, give the same settings and the same error. -/
theorem scopes_isolate (scope : String) :
    (∀ db db' : Database,
      (∀ name ∈ Setting.names, db.get? (scope ++ name) = db'.get? (scope ++ name)) →
      ∀ s : Settings, s.apply db scope = s.apply db' scope) ∧
    ∀ other, other ≠ scope →
      (∀ key, Recognised other key → ¬Recognised scope key) ∧
      ∀ db db' : Database, (∀ key, ¬Recognised other key → db.get? key = db'.get? key) →
        ∀ s : Settings, s.apply db scope = s.apply db' scope := by
  refine ⟨fun _ _ => apply_congr, ?_⟩
  intro other distinct
  have apart : ∀ key, Recognised other key → ¬Recognised scope key := fun key there here =>
    distinct (there.scope_unique here)
  refine ⟨apart, ?_⟩
  intro db db' agree s
  refine apply_congr ?_ s
  intro name mem
  exact agree _ fun there => apart _ there ⟨name, mem, rfl⟩

/-- A scope that is the end of another, whose entries are overwritten, corrupted and added to. -/
theorem scopes_isolate_ending :
    let db := Database.ofTokens ["-b_ksp_type", "cg", "-ab_ksp_rtol", "1e-8"]
    let db' := (db.insert "ab_ksp_rtol" (some "small")).insert "ab_ksp_max_it" none
    ("ab_" ≠ "b_" ∧ ∀ key, ¬Recognised "ab_" key → db.get? key = db'.get? key) ∧
      (∀ name ∈ Setting.names, db.get? ("b_" ++ name) = db'.get? ("b_" ++ name)) ∧
      default.apply db "b_" = default.apply db' "b_" ∧
      (default.apply db' "ab_").1 = .error (.badOption "ab_ksp_rtol" "small") := by
  intro db db'
  have agree : ∀ key, ¬Recognised "ab_" key → db.get? key = db'.get? key := by
    intro key elsewhere
    have rtol : key ≠ "ab_ksp_rtol" := by
      rintro rfl
      exact elsewhere ⟨"ksp_rtol", by decide +kernel, by decide +kernel⟩
    have limit : key ≠ "ab_ksp_max_it" := by
      rintro rfl
      exact elsewhere ⟨"ksp_max_it", by decide +kernel, by decide +kernel⟩
    rw [Database.get?_insert, if_neg limit, Database.get?_insert, if_neg rtol]
  have eight : ∀ name ∈ Setting.names, db.get? ("b_" ++ name) = db'.get? ("b_" ++ name) := by
    decide +kernel
  have distinct : "ab_" ≠ "b_" := by decide
  obtain ⟨-, isolated⟩ := scopes_isolate "b_"
  refine ⟨⟨distinct, agree⟩, eight, (isolated "ab_" distinct).2 db db' agree default, ?_⟩
  decide +kernel

end Settings

end MatrixFree.Options
