import MatrixFree.Engine.Handle
import MatrixFree.Proofs.Options.Scopes

/-!
# Options of a handle on a command line

Two rules decide whether an option reaches a handle.  The handle admits a scope that has no
blanks and does not start with a dash.  A command line takes a token for an option only if a
letter or an underscore follows its dashes.  The rules agree on the empty scope and on scopes
that start like a name (`Spellable`): there each option that is given is read, alone or among
others.

They do not agree on all scopes that are admitted.  Behind any other, no token spells a key,
so no command line has an option for the handle; what was meant for it is passed over or taken
for the value of another option, and no error tells (`Handle.command_line`).
-/

namespace MatrixFree.Options

/-! ## Keys that can be spelled -/

/-- Keys behind the scope start like names. -/
def Spellable (scope : String) : Prop := scope = "" ∨ Nameable scope

theorem Setting.nameable_of_mem_names {name : String} (mem : name ∈ names) : Nameable name := by
  have spelled : ∀ n ∈ names, name? n.toList = some n := by decide +kernel
  exact (name?_eq_some_iff.mp (spelled name mem)).2

theorem nameable_append_iff {scope name : String} (named : Nameable name) :
    Nameable (scope ++ name) ↔ Spellable scope := by
  constructor
  · rintro ⟨c, cs, start, letter⟩
    rw [String.toList_append] at start
    cases chars : scope.toList with
    | nil => exact Or.inl (String.toList_eq_nil_iff.mp chars)
    | cons d ds =>
        rw [chars] at start
        obtain ⟨rfl, -⟩ := List.cons.inj start
        exact Or.inr ⟨d, ds, chars, letter⟩
  · rintro (rfl | ⟨c, cs, start, letter⟩)
    · rwa [String.empty_append]
    · refine ⟨c, cs ++ name.toList, ?_, letter⟩
      rw [String.toList_append, start, List.cons_append]

/-- No token spells a key that does not start like a name, unless its own dashes do. -/
theorem not_spells_of_not_nameable {key : String} (unnamed : ¬Nameable key)
    (start : key.toList.head? ≠ some '-') (other : String) : ¬Spells ("-" ++ key) other := by
  rintro ⟨named, one | two⟩
  · exact unnamed ((String.append_right_inj "-").mp one ▸ named)
  · rw [← String.toList_inj, String.toList_append, String.toList_append] at two
    have second : key.toList = '-' :: other.toList := (List.cons.inj two).2
    exact start (by rw [second, List.head?_cons])

/-! ## One option -/

namespace Database

/-- A command line with one option gives one entry. -/
theorem ofTokens_single {key : String} (named : Nameable key) (value : Option String)
    (plain : ∀ v, value = some v → ∀ other, ¬Spells v other) :
    ofTokens (("-" ++ key) :: value.toList) = empty.insert key value := by
  have print : [(key, value)].flatMap (fun (key, value) => ("-" ++ key) :: value.toList) =
      ("-" ++ key) :: value.toList := List.flatMap_singleton _ _
  rw [ofTokens, ← print, readTokens_print]
  · rfl
  · intro e mem
    obtain rfl := List.mem_singleton.mp mem
    exact ⟨named, plain⟩

/-- An option that is given is there, and is no other option's value. -/
theorem taken_of_spells {tokens : List String} {token key : String} (mem : token ∈ tokens)
    (spelled : Spells token key) :
    (ofTokens tokens).contains key = true ∧ ∀ k, (ofTokens tokens).get? k ≠ some (some token) := by
  constructor
  · rw [contains, get?_ofTokens, ← Option.ne_none_iff_isSome]
    intro absent
    exact lastValue?_eq_none_iff.mp absent token mem spelled
  · intro k value
    exact (printable_ofTokens tokens k _ value).2 token rfl key spelled

/-- A key that does not start like a name is on no command line. -/
theorem get?_ofTokens_of_not_nameable {key : String} (unnamed : ¬Nameable key)
    (tokens : List String) : (ofTokens tokens).get? key = none := by
  cases found : (ofTokens tokens).get? key with
  | none => rfl
  | some value => exact absurd (printable_ofTokens tokens key value found).1 unnamed

end Database

namespace Settings

variable {db : Database} {scope : String}

/-- What becomes of settings behind a scope when one of them is given and nothing else. -/
def given (s : Settings) (setting : Setting) (scope : String) (raw : Option String) :
    Except EngineError Unit × Settings :=
  match setting.read raw s with
  | none => (.error (.badOption (scope ++ setting.key) (raw.getD "")), s)
  | some t => (t.validate, t)

theorem readAll_absent {list : List Setting}
    (absent : ∀ setting ∈ list, db.get? (scope ++ setting.key) = none) (s : Settings) :
    readAll db scope list s = (.ok (), s) := by
  induction list with
  | nil => rfl
  | cons setting rest ih =>
      rw [readAll, absent setting List.mem_cons_self]
      exact ih fun other mem => absent other (List.mem_cons_of_mem _ mem)

theorem readAll_single {list : List Setting} {setting : Setting} {raw : Option String}
    (once : (list.map Setting.key).Nodup) (mem : setting ∈ list)
    (only : ∀ key, db.get? key = if key = scope ++ setting.key then some raw else none)
    (s : Settings) :
    readAll db scope list s =
      match setting.read raw s with
      | none => (.error (.badOption (scope ++ setting.key) (raw.getD "")), s)
      | some t => (.ok (), t) := by
  have other : ∀ key, key ≠ setting.key → db.get? (scope ++ key) = none := by
    intro key different
    rw [only, if_neg fun same => different ((String.append_right_inj scope).mp same)]
  induction list with
  | nil => cases mem
  | cons first rest ih =>
      obtain ⟨fresh, once⟩ := List.nodup_cons.mp once
      rw [readAll]
      rcases List.mem_cons.mp mem with rfl | later
      · -- The one that is given comes first, and none of the rest has its key.
        have absent : ∀ t ∈ rest, db.get? (scope ++ t.key) = none := fun t ht =>
          other t.key fun same => fresh (same ▸ List.mem_map_of_mem ht)
        rw [only, if_pos rfl]
        dsimp only
        cases setting.read raw s with
        | none => rfl
        | some t => exact readAll_absent absent t
      · have different : first.key ≠ setting.key := fun same =>
          fresh (same ▸ List.mem_map_of_mem later)
        rw [other first.key different]
        exact ih once later

theorem apply_single {setting : Setting} (mem : setting ∈ Setting.all) (scope : String)
    (raw : Option String) (s : Settings) :
    s.apply (Database.empty.insert (scope ++ setting.key) raw) scope =
      s.given setting scope raw := by
  have only : ∀ key, (Database.empty.insert (scope ++ setting.key) raw).get? key =
      if key = scope ++ setting.key then some raw else none :=
    Database.get?_insert Database.empty (scope ++ setting.key) raw
  unfold apply given
  rw [readAll_single Setting.nodup_names mem only]
  cases setting.read raw s <;> rfl

/-- Behind a scope that can be spelled, an option that is given alone is read. -/
theorem apply_ofTokens_single {setting : Setting} (mem : setting ∈ Setting.all)
    (spellable : Spellable scope) {raw : Option String}
    (plain : ∀ v, raw = some v → ∀ other, ¬Spells v other) (s : Settings) :
    let db := Database.ofTokens (("-" ++ (scope ++ setting.key)) :: raw.toList)
    db.entries = [(scope ++ setting.key, raw)] ∧ s.apply db scope = s.given setting scope raw := by
  intro db
  have named : Nameable (scope ++ setting.key) :=
    (nameable_append_iff (Setting.nameable_of_mem_names (Setting.key_mem_names mem))).mpr spellable
  have entry : db = Database.empty.insert (scope ++ setting.key) raw :=
    Database.ofTokens_single named raw plain
  rw [entry, apply_single mem]
  exact ⟨rfl, rfl⟩

/-- Behind one that cannot, a command line has no option. -/
theorem apply_ofTokens_of_not_spellable (unspellable : ¬Spellable scope) (tokens : List String)
    (s : Settings) :
    (∀ name ∈ Setting.names, (Database.ofTokens tokens).get? (scope ++ name) = none) ∧
      s.apply (.ofTokens tokens) scope = (s.validate, s) := by
  have absent : ∀ name ∈ Setting.names, (Database.ofTokens tokens).get? (scope ++ name) = none := by
    intro name mem
    refine Database.get?_ofTokens_of_not_nameable ?_ tokens
    exact mt (nameable_append_iff (Setting.nameable_of_mem_names mem)).mp unspellable
  refine ⟨absent, ?_⟩
  unfold apply
  rw [readAll_absent fun setting mem => absent _ (Setting.key_mem_names mem)]

end Settings

end MatrixFree.Options

namespace MatrixFree.Engine.Handle

open Options

variable {γ σ : Type}

/-- The handle with settings that were accepted, or as it was. -/
def take (h : Handle γ σ) :
    Except EngineError Unit × Settings → Except EngineError Unit × Handle γ σ
  | (.ok (), settings) => (.ok (), { h with settings, isSetUp := false })
  | (.error e, _) => (.error e, h)

theorem setFromOptions_eq (h : Handle γ σ) (db : Database) :
    h.setFromOptions db = h.take (h.settings.apply db h.scope) := by
  unfold setFromOptions
  rcases h.settings.apply db h.scope with ⟨_ | _, _⟩ <;> rfl

theorem setScope_of_admitsScope {scope : String} (admitted : admitsScope scope = true)
    (h : Handle γ σ) : h.setScope scope = (.ok (), { h with scope }) := if_pos admitted

theorem head?_ne_dash_of_admitsScope {scope : String} (admitted : admitsScope scope = true) :
    scope.toList.head? ≠ some '-' := by
  unfold admitsScope at admitted
  rw [Bool.and_eq_true, decide_eq_true_eq] at admitted
  exact admitted.1

/-- **Options of an admitted scope on a command line.**  If the scope starts like a name, or is
empty, then an option that is given alone is the one entry of its database and is read, a flag
without a value is switched on, and an option among any others is there and is no value of
another.  Behind any other scope that is admitted there is no option at all, whatever the
tokens say: none spells a key of the handle, and the settings stay. -/
theorem command_line (h : Handle γ σ) {scope : String} (admitted : admitsScope scope = true) :
    let g := (h.setScope scope).2
    (Spellable scope →
      (∀ setting ∈ Setting.all, ∀ raw : Option String,
        (∀ v, raw = some v → ∀ other, ¬Spells v other) →
        let db := Database.ofTokens (("-" ++ (scope ++ setting.key)) :: raw.toList)
        db.entries = [(scope ++ setting.key, raw)] ∧
          g.setFromOptions db = g.take (g.settings.given setting scope raw)) ∧
      (∀ key put, Setting.flag key put ∈ Setting.all →
        g.setFromOptions (.ofTokens ["-" ++ (scope ++ key)]) =
          g.take ((put g.settings true).validate, put g.settings true)) ∧
      ∀ tokens : List String, ∀ name ∈ Setting.names, ∀ token ∈ tokens,
        token = "-" ++ (scope ++ name) ∨ token = "--" ++ (scope ++ name) →
        (Database.ofTokens tokens).contains (scope ++ name) = true ∧
          ∀ key, (Database.ofTokens tokens).get? key ≠ some (some token)) ∧
    (¬Spellable scope →
      (∀ name ∈ Setting.names, ∀ other, ¬Spells ("-" ++ (scope ++ name)) other) ∧
      ∀ tokens : List String,
        (∀ name ∈ Setting.names, (Database.ofTokens tokens).get? (scope ++ name) = none) ∧
        g.setFromOptions (.ofTokens tokens) = g.take (g.settings.validate, g.settings)) := by
  intro g
  have reads : ∀ db, g.setFromOptions db = g.take (g.settings.apply db scope) := by
    intro db
    have own : g.scope = scope :=
      congrArg (fun answer => answer.2.scope) (setScope_of_admitsScope admitted h)
    rw [setFromOptions_eq, own]
  constructor
  · intro spellable
    have single : ∀ setting ∈ Setting.all, ∀ raw : Option String,
        (∀ v, raw = some v → ∀ other, ¬Spells v other) →
        let db := Database.ofTokens (("-" ++ (scope ++ setting.key)) :: raw.toList)
        db.entries = [(scope ++ setting.key, raw)] ∧
          g.setFromOptions db = g.take (g.settings.given setting scope raw) := by
      intro setting mem raw plain db
      obtain ⟨entry, read⟩ := Settings.apply_ofTokens_single mem spellable plain g.settings
      exact ⟨entry, (reads db).trans (congrArg g.take read)⟩
    refine ⟨single, fun key put mem => (single _ mem none nofun).2, ?_⟩
    intro tokens name mem token given spelled
    have named := (nameable_append_iff (Setting.nameable_of_mem_names mem)).mpr spellable
    exact Database.taken_of_spells given ⟨named, spelled⟩
  · intro unspellable
    refine ⟨?_, ?_⟩
    · intro name mem
      have unnamed := mt (nameable_append_iff (Setting.nameable_of_mem_names mem)).mp unspellable
      have nonempty : scope.toList ≠ [] := fun none =>
        unspellable (Or.inl (String.toList_eq_nil_iff.mp none))
      refine not_spells_of_not_nameable unnamed ?_
      rw [String.toList_append, List.head?_append_of_ne_nil _ nonempty]
      exact head?_ne_dash_of_admitsScope admitted
    · intro tokens
      obtain ⟨absent, read⟩ :=
        Settings.apply_ofTokens_of_not_spellable unspellable tokens g.settings
      exact ⟨absent, (reads _).trans (congrArg g.take read)⟩

/-- A tolerance behind the scope `lap_` is read. -/
theorem command_line_named :
    let h : Handle Unit Unit := ((create Communicator.serial).setScope "lap_").2
    let db := Database.ofTokens ["-lap_ksp_rtol", "1e-8"]
    admitsScope "lap_" = true ∧ Spellable "lap_" ∧ (∀ other, ¬Spells "1e-8" other) ∧
      db.entries = [("lap_ksp_rtol", some "1e-8")] ∧ (h.setFromOptions db).1 = .ok () ∧
      (h.setFromOptions db).2.settings.relative.toBits = (1e-8 : Float).toBits := by
  intro h db
  have admitted : admitsScope "lap_" = true := by decide +kernel
  have spellable : Spellable "lap_" := Or.inr ⟨'l', "ap_".toList, by decide, by decide⟩
  have plain : ∀ other, ¬Spells "1e-8" other := optionKey?_eq_none_iff.mp (by decide +kernel)
  have rtol := List.mem_of_getElem? (l := Setting.all) (i := 1) rfl
  obtain ⟨one, read⟩ := ((command_line (create Communicator.serial) admitted).1 spellable).1
    _ rtol (some "1e-8") (by
      rintro _ ⟨⟩
      exact plain)
  have taken : h.setFromOptions db = h.take (h.settings.given _ "lap_" (some "1e-8")) := read
  refine ⟨admitted, spellable, plain, one, ?_⟩
  rw [taken]
  decide +kernel

/-- Behind the scope `é_`, which is admitted, a tolerance is passed over, and it is taken for the
value of a flag in front of it. -/
theorem command_line_dropped :
    let h : Handle Unit Unit := ((create Communicator.serial).setScope "é_").2
    let db := Database.ofTokens ["-é_ksp_rtol", "1e-8"]
    admitsScope "é_" = true ∧ optionKey? "1e-8" = none ∧ db.entries = [] ∧
      (h.setFromOptions db).1 = .ok () ∧
      (h.setFromOptions db).2.settings.relative.toBits = h.settings.relative.toBits ∧
      (Database.ofTokens ["-ksp_monitor", "-é_ksp_rtol", "1e-8"]).entries =
        [("ksp_monitor", some "-é_ksp_rtol")] := by
  decide +kernel

end MatrixFree.Engine.Handle
