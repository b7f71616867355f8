import MatrixFree.Proofs.Options.Grammar
import MatrixFree.Proofs.Options.Reading

/-!
# Options from several sources

A later source of options overrides an earlier one, and there are three ways to have two
sources: to put one command line behind the other, to lay one database over the other, and to
read the settings from the one and then from the other.  All three agree.

* `Database.ofTokens_append`: two lines that are read as one give the merged database.  Only
  where the lines meet can something else come out, because an option at the end of the first
  line takes its value from the second (`Seamless`).
* `Settings.apply_merge`: settings that are read from one database and then from another are
  those that the merged database gives.  What is read of the first only has to be readable; it
  need not be valid before the second is read.

Both are about single keys: `Database.get?_merge` says which entry a key has in a merged
database, and `Database.valueOr_merge` which value a setting takes from there.
-/

namespace MatrixFree.Options

/-! ## Merged databases -/

namespace Database

/-- Databases that answer every key alike are equal. -/
theorem ext_of_get? {db db' : Database} (same : ∀ key, db.get? key = db'.get? key) : db = db' :=
  ext_get? fun key value => by rw [same key]

/-- Entries that are entered one after the other, each key once. -/
theorem get?_foldl_insert {es : List Entry} (ascending : Ascending es) (db : Database)
    (key : String) :
    (es.foldl (fun db e => db.insert e.1 e.2) db).get? key = (es.lookup key).or (db.get? key) := by
  induction es generalizing db with
  | nil => rfl
  | cons e es ih =>
      obtain ⟨first, rest⟩ := List.pairwise_cons.mp ascending
      rw [List.foldl_cons, ih rest, get?_insert, lookup_cons]
      by_cases same : key = e.1
      · -- The key of the first entry is not overwritten by what comes behind it.
        have once : es.lookup key = none := by
          rw [Option.eq_none_iff_forall_ne_some]
          intro value again
          have later := first _ ((Ascending.lookup_eq_some_iff rest).mp again)
          exact String.lt_irrefl _ (same ▸ later)
        rw [if_pos same, if_pos same, once, Option.none_or, Option.some_or]
      · rw [if_neg same, if_neg same]

/-- A key has the entry of the overlay, and without one the entry below. -/
theorem get?_merge (db overlay : Database) (key : String) :
    (db.merge overlay).get? key = (overlay.get? key).or (db.get? key) :=
  get?_foldl_insert overlay.ascending db key

theorem merge_assoc (a b c : Database) : (a.merge b).merge c = a.merge (b.merge c) := by
  refine ext_of_get? fun key => ?_
  rw [get?_merge, get?_merge, get?_merge, get?_merge, Option.or_assoc]

theorem merge_self (db : Database) : db.merge db = db := by
  refine ext_of_get? fun key => ?_
  rw [get?_merge]
  cases db.get? key <;> rfl

end Database

/-! ## One line behind the other -/

/-- Where the lines meet, no option gets a value: the first line does not end with an option
token, or the second does not start with anything else. -/
def Seamless (front back : List String) : Prop :=
  ∀ token, front.getLast? = some token → (∃ key, Spells token key) →
    ∀ next, back.head? = some next → ∃ key, Spells next key

variable {front back : List String} {token key : String}

theorem Seamless.tail (seamless : Seamless (token :: front) back) : Seamless front back := by
  intro last ends
  refine seamless last ?_
  rw [List.getLast?_cons, ends]
  rfl

/-- An option of the first line finds no value in the second. -/
theorem Seamless.next?_append (seamless : Seamless (token :: front) back)
    (option : optionKey? token = some key) : next? (front ++ back) = next? front := by
  cases front with
  | cons next front => rfl
  | nil =>
      cases back with
      | nil => rfl
      | cons next back =>
          obtain ⟨other, spelled⟩ :=
            seamless token rfl ⟨key, optionKey?_eq_some_iff.mp option⟩ next rfl
          exact next?_cons_of_spells spelled

theorem lastValue?_append (seamless : Seamless front back) (key : String) :
    lastValue? key (front ++ back) = (lastValue? key back).or (lastValue? key front) := by
  induction front with
  | nil => exact (Option.or_none).symm
  | cons token front ih =>
      rw [List.cons_append, lastValue?, lastValue?, ih seamless.tail, Option.or_assoc]
      by_cases option : optionKey? token = some key
      · rw [if_pos option, if_pos option, seamless.next?_append option]
      · rw [if_neg option, if_neg option]

/-- Two lines that are read as one: the options of the second are laid over those of the first. -/
theorem Database.ofTokens_append (seamless : Seamless front back) :
    ofTokens (front ++ back) = (ofTokens front).merge (ofTokens back) := by
  refine ext_of_get? fun key => ?_
  rw [get?_merge, get?_ofTokens, get?_ofTokens, get?_ofTokens, lastValue?_append seamless]

/-- At a seam the option at the end of the first line takes its value from the second. -/
example : Database.ofTokens (["-k"] ++ ["v"]) ≠
    (Database.ofTokens ["-k"]).merge (Database.ofTokens ["v"]) := by
  decide +kernel

/-! ## One reading after the other -/

section Readings

variable {below overlay : Database} {scope : String} {s t u : Settings}

/-- A merged database gives a setting the value of the overlay, and without one the value below,
as long as the overlay has none that cannot be read. -/
theorem Database.valueOr_merge (below : Database) {β : Type} {name : String}
    (parse : Option String → Option β)
    (readable : ∀ raw, overlay.get? (scope ++ name) = some raw → (parse raw).isSome = true)
    (old : β) :
    (below.merge overlay).valueOr scope name parse old =
      overlay.valueOr scope name parse (below.valueOr scope name parse old) := by
  unfold valueOr
  rw [get?_merge]
  cases found : overlay.get? (scope ++ name) with
  | none => rfl
  | some raw =>
      obtain ⟨value, parsed⟩ := Option.isSome_iff_exists.mp (readable raw found)
      rw [Option.some_or, Option.bind_some, parsed]
      rfl

theorem Database.Readable.merge {entry : String × Setting.Kind}
    (first : below.Readable scope entry) (second : overlay.Readable scope entry) :
    (below.merge overlay).Readable scope entry := by
  intro raw found
  rw [get?_merge, Option.or_eq_some_iff] at found
  rcases found with above | ⟨-, under⟩
  · exact second raw above
  · exact first raw under

namespace Settings

/-- Taking over what two databases have, one after the other, is taking over what they have
together. -/
theorem taken_merge (readable : ∀ entry ∈ Setting.kinds, overlay.Readable scope entry)
    (s : Settings) :
    s.taken (below.merge overlay) scope Setting.kinds.length =
      (s.taken below scope Setting.kinds.length).taken overlay scope Setting.kinds.length := by
  have solver {name : String} (mem : (name, Setting.Kind.solver) ∈ Setting.kinds) :=
    Database.valueOr_merge below Value.solver? fun raw found =>
      Value.isSome_solver?.mpr (readable _ mem raw found)
  have real {name : String} (mem : (name, Setting.Kind.real) ∈ Setting.kinds) :=
    Database.valueOr_merge below Value.real? fun raw found =>
      Value.isSome_bind.mpr (readable _ mem raw found)
  have natural {name : String} (mem : (name, Setting.Kind.natural) ∈ Setting.kinds) :=
    Database.valueOr_merge below Value.natural? fun raw found =>
      Value.isSome_bind.mpr (readable _ mem raw found)
  have flag {name : String} (mem : (name, Setting.Kind.flag) ∈ Setting.kinds) :=
    Database.valueOr_merge below Value.flag? fun raw found =>
      Value.isSome_flag?.mpr (readable _ mem raw found)
  -- Which names have values of which kind is read off the list.
  simp only [Setting.kinds, List.mem_cons, Prod.mk.injEq, List.not_mem_nil]
    at solver real natural flag
  simp [taken, Setting.kinds, solver, real, natural, flag]

/-- A database from which a reading comes through has nothing that cannot be read. -/
theorem readable_of_apply {db : Database} (ok : (s.apply db scope).1 = .ok ()) :
    ∀ entry ∈ Setting.kinds, db.Readable scope entry := by
  by_contra unreadable
  push Not at unreadable
  obtain ⟨place, name, kind, raw, -, -, -, -, refused⟩ := apply_of_unreadable unreadable s
  rw [refused] at ok
  cases ok

/-- The settings that come out of a first reading need not be valid for a second one to give what
the merged database gives. -/
theorem apply_merge (first : ∀ entry ∈ Setting.kinds, below.Readable scope entry)
    (second : (s.taken below scope Setting.kinds.length).apply overlay scope = (.ok (), u)) :
    s.apply (below.merge overlay) scope = (.ok (), u) := by
  have readable := readable_of_apply (congrArg Prod.fst second)
  rw [apply_of_readable readable] at second
  have merged : ∀ entry ∈ Setting.kinds, (below.merge overlay).Readable scope entry :=
    fun entry mem => (first entry mem).merge (readable entry mem)
  rw [apply_of_readable merged, taken_merge readable]
  exact second

/-- The settings that a reading leaves when it comes through. -/
theorem taken_of_apply {db : Database} (ok : s.apply db scope = (.ok (), t)) :
    s.taken db scope Setting.kinds.length = t := by
  rw [apply_of_readable (readable_of_apply (congrArg Prod.fst ok))] at ok
  exact congrArg Prod.snd ok

end Settings

end Readings

/-! ## All sources -/

/-- **Later sources of options override earlier ones, whichever way they are put together.**  Two
lines read as one give the database of the first with that of the second laid over it, unless an
option at the seam takes its value from the second; two readings that come through, one after the
other, leave what a single reading of the merged database leaves; and a merged database has the
entry of the overlay for a key, and without one the entry below, so that merging is associative and
idempotent. -/
theorem later_sources_override (front back : List String) (below overlay : Database)
    (scope : String) (s t u : Settings) :
    (Seamless front back → Database.ofTokens (front ++ back) =
      (Database.ofTokens front).merge (Database.ofTokens back)) ∧
    (s.apply below scope = (.ok (), t) → t.apply overlay scope = (.ok (), u) →
      s.apply (below.merge overlay) scope = (.ok (), u)) ∧
    (∀ above, (below.merge overlay).merge above = below.merge (overlay.merge above)) ∧
    below.merge below = below ∧
    ∀ key, (below.merge overlay).get? key = (overlay.get? key).or (below.get? key) := by
  refine ⟨Database.ofTokens_append, ?_, Database.merge_assoc below overlay,
    Database.merge_self below, Database.get?_merge below overlay⟩
  intro first second
  rw [← Settings.taken_of_apply first] at second
  exact Settings.apply_merge (Settings.readable_of_apply (congrArg Prod.fst first)) second

/-- The first line ends with a monitor that is switched off and the second one switches it on, by
its mere presence: a flag without a value overrides the word. -/
theorem later_sources_override_flag :
    let front := ["-a_ksp_rtol", "1e-8", "-a_ksp_monitor", "off"]
    let back := ["-a_ksp_monitor", "-a_ksp_max_it", "7"]
    let below := Database.ofTokens front
    let overlay := Database.ofTokens back
    let first := (Settings.default.apply below "a_").2
    let second := (first.apply overlay "a_").2
    Seamless front back ∧
      Settings.default.apply below "a_" = (.ok (), first) ∧
      first.apply overlay "a_" = (.ok (), second) ∧
      Database.ofTokens (front ++ back) = below.merge overlay ∧
      (below.merge overlay).get? "a_ksp_monitor" = some none ∧
      Settings.default.apply (below.merge overlay) "a_" = (.ok (), second) ∧
      first.monitor = false ∧ second.monitor = true ∧ second.limit = 7 := by
  intro front back below overlay first second
  have seamless : Seamless front back := by
    intro token ends option next starts
    cases starts
    exact ⟨"a_ksp_monitor", optionKey?_eq_some_iff.mp (by decide +kernel)⟩
  have firstOk : Settings.default.apply below "a_" = (.ok (), first) :=
    Prod.ext (by decide +kernel) rfl
  have secondOk : first.apply overlay "a_" = (.ok (), second) := Prod.ext (by decide +kernel) rfl
  obtain ⟨lines, readings, -, -, entry⟩ :=
    later_sources_override front back below overlay "a_" .default first second
  refine ⟨seamless, firstOk, secondOk, lines seamless, ?_, readings firstOk secondOk, ?_⟩
  · rw [entry]
    decide +kernel
  · decide +kernel

end MatrixFree.Options
