import Mathlib
import MatrixFree.Options.Database

/-!
# The grammar of command lines

Which options a command line has is said here by positions, without a parser.  A token
`Spells` a key; the last position that does so gives the key its entry (`LastAt`), which is the
token behind it unless that spells a key as well (`HasValue`).  Nothing else counts.

The parser goes from left to right with a key that may be waiting for its value.  Its state
is what `get?_readTokens` is about: all that is left to come, laid over what was read.  Printing
goes the other way, and only a database that some command line has can be printed
(`Printable`).
-/

namespace MatrixFree.Options

/-! ## Entries by key -/

theorem lookup_cons (e : Entry) (es : List Entry) (k : String) :
    (e :: es).lookup k = if k = e.1 then some e.2 else es.lookup k := by
  rw [List.lookup_cons]
  by_cases same : k = e.1
  · rw [if_pos same, beq_iff_eq.mpr same]
  · rw [if_neg same, beq_eq_false_iff_ne.mpr same]

theorem lookup_insertEntry (key : String) (value : Option String) (es : List Entry) (k : String) :
    (insertEntry key value es).lookup k = if k = key then some value else es.lookup k := by
  induction es with
  | nil => rw [insertEntry, lookup_cons]
  | cons e es ih =>
      unfold insertEntry
      split
      · rw [lookup_cons]
      · split
        · rename_i same
          rw [lookup_cons, lookup_cons, ← same]
          by_cases h : k = key
          · rw [if_pos h, if_pos h]
          · rw [if_neg h, if_neg h, if_neg h]
        · rename_i other
          rw [lookup_cons, lookup_cons, ih]
          by_cases h : k = e.1
          · rw [if_pos h, if_pos h, if_neg (h ▸ Ne.symm other)]
          · rw [if_neg h, if_neg h]

/-- An entry behind all others is put at the end. -/
theorem insertEntry_of_last {key : String} {es : List Entry} (last : ∀ e ∈ es, e.1 < key)
    (value : Option String) : insertEntry key value es = es ++ [(key, value)] := by
  induction es with
  | nil => rfl
  | cons e es ih =>
      have below : e.1 < key := last e List.mem_cons_self
      have ahead : ¬key < e.1 := String.lt_asymm below
      have other : key ≠ e.1 := fun same => String.lt_irrefl _ (same ▸ below)
      rw [insertEntry, if_neg ahead, if_neg other,
        ih fun d hd => last d (List.mem_cons_of_mem _ hd)]
      rfl

theorem Ascending.lookup_eq_some_iff {es : List Entry} (h : Ascending es) {key : String}
    {value : Option String} : es.lookup key = some value ↔ (key, value) ∈ es := by
  induction es with
  | nil => simp
  | cons e es ih =>
      obtain ⟨first, rest⟩ := List.pairwise_cons.mp h
      rw [lookup_cons, List.mem_cons]
      by_cases same : key = e.1
      · -- The key of the first entry comes no second time.
        have once : (key, value) ∉ es := by
          intro again
          have later := first _ again
          rw [same] at later
          exact String.lt_irrefl _ later
        rw [if_pos same]
        constructor
        · rintro ⟨⟩
          exact Or.inl (Prod.ext same rfl)
        · rintro (rfl | again)
          · rfl
          · exact absurd again once
      · rw [if_neg same, ih rest]
        constructor
        · exact Or.inr
        · rintro (rfl | later)
          · exact absurd rfl same
          · exact later

namespace Database

variable {db db' : Database} {key : String} {value : Option String}

theorem get?_insert (db : Database) (key : String) (value : Option String) (k : String) :
    (db.insert key value).get? k = if k = key then some value else db.get? k :=
  lookup_insertEntry key value db.entries k

theorem get?_eq_some_iff : db.get? key = some value ↔ (key, value) ∈ db.entries :=
  db.ascending.lookup_eq_some_iff

/-- Databases that answer alike are equal. -/
theorem ext_get? (h : ∀ key value, db.get? key = some value ↔ db'.get? key = some value) :
    db = db' := by
  have nodup (db : Database) : db.entries.Nodup := by
    refine db.ascending.imp ?_
    rintro d _ below rfl
    exact String.lt_irrefl _ below
  have perm : db.entries.Perm db'.entries := by
    rw [List.perm_ext_iff_of_nodup (nodup db) (nodup db')]
    rintro ⟨key, value⟩
    rw [← get?_eq_some_iff, ← get?_eq_some_iff]
    exact h key value
  have entries : db.entries = db'.entries :=
    perm.eq_of_pairwise (fun a b _ _ below above => absurd above (String.lt_asymm below))
      db.ascending db'.ascending
  cases db
  cases db'
  cases entries
  rfl

/-- Entries that all come behind those of a database are put behind them. -/
theorem entries_foldl_insert {es : List Entry} (db : Database)
    (behind : Ascending (db.entries ++ es)) :
    (es.foldl (fun db e => db.insert e.1 e.2) db).entries = db.entries ++ es := by
  induction es generalizing db with
  | nil => simp
  | cons e es ih =>
      have last : ∀ d ∈ db.entries, d.1 < e.1 := fun d hd =>
        (List.pairwise_append.mp behind).2.2 d hd e List.mem_cons_self
      have put : (db.insert e.1 e.2).entries = db.entries ++ [e] :=
        insertEntry_of_last last e.2
      rw [List.foldl_cons, ih, put, List.append_assoc]
      · rfl
      · rwa [put, List.append_assoc]

theorem empty_merge (db : Database) : empty.merge db = db := by
  refine ext_get? fun key value => ?_
  rw [get?_eq_some_iff, get?_eq_some_iff, merge, entries_foldl_insert empty db.ascending]
  rfl

end Database

/-! ## Option tokens -/

/-- The first character is an ASCII letter or an underscore. -/
def Nameable (key : String) : Prop :=
  ∃ c cs, key.toList = c :: cs ∧ ('A' ≤ c ∧ c ≤ 'Z' ∨ 'a' ≤ c ∧ c ≤ 'z' ∨ c = '_')

/-- The token is one or two dashes and then the key, which starts like a name. -/
def Spells (token key : String) : Prop :=
  Nameable key ∧ (token = "-" ++ key ∨ token = "--" ++ key)

theorem isAlpha_or_underscore_iff {c : Char} :
    (c.isAlpha = true ∨ c = '_') ↔ 'A' ≤ c ∧ c ≤ 'Z' ∨ 'a' ≤ c ∧ c ≤ 'z' ∨ c = '_' := by
  simp [Char.isAlpha, Char.isUpper, Char.isLower, or_assoc, Char.le_def]

theorem name?_eq_some_iff {cs : List Char} {key : String} :
    name? cs = some key ↔ cs = key.toList ∧ Nameable key := by
  cases cs with
  | nil =>
      constructor
      · nofun
      · rintro ⟨none, c, cs, start, -⟩
        rw [start] at none
        cases none
  | cons c cs =>
      rw [name?]
      constructor
      · intro named
        split at named
        · rename_i starts
          obtain rfl := Option.some.inj named
          have spelled : (String.ofList (c :: cs)).toList = c :: cs := String.toList_ofList
          exact ⟨spelled.symm, c, cs, spelled, isAlpha_or_underscore_iff.mp starts⟩
        · cases named
      · rintro ⟨spelled, d, ds, start, letter⟩
        obtain ⟨rfl, rfl⟩ := List.cons.inj (spelled.trans start)
        rw [if_pos (isAlpha_or_underscore_iff.mpr letter), spelled, String.ofList_toList]

theorem Nameable.not_dash {key : String} (h : Nameable key) (cs : List Char) :
    key.toList ≠ '-' :: cs := by
  obtain ⟨c, ds, start, letter⟩ := h
  intro dashed
  obtain ⟨rfl, -⟩ := List.cons.inj (start.symm.trans dashed)
  revert letter
  decide

theorem spells_iff_toList {token key : String} :
    Spells token key ↔ Nameable key ∧
      (token.toList = '-' :: key.toList ∨ token.toList = '-' :: '-' :: key.toList) := by
  unfold Spells
  rw [← String.toList_inj, ← String.toList_inj, String.toList_append, String.toList_append]
  rfl

theorem optionKey?_eq_some_iff {token key : String} :
    optionKey? token = some key ↔ Spells token key := by
  rw [spells_iff_toList]
  unfold optionKey?
  split
  · rename_i cs two
    rw [name?_eq_some_iff, two]
    constructor
    · rintro ⟨rfl, named⟩
      exact ⟨named, Or.inr rfl⟩
    · rintro ⟨named, one | both⟩
      · -- A name cannot start with the second dash.
        exact absurd (List.cons.inj one).2.symm (named.not_dash cs)
      · exact ⟨(List.cons.inj (List.cons.inj both).2).2, named⟩
  · rename_i cs single one
    rw [name?_eq_some_iff, one]
    constructor
    · rintro ⟨rfl, named⟩
      exact ⟨named, Or.inl rfl⟩
    · rintro ⟨named, one | both⟩
      · exact ⟨(List.cons.inj one).2, named⟩
      · exact absurd (List.cons.inj both).2 (single _)
  · rename_i two one
    constructor
    · nofun
    · rintro ⟨-, spelled | spelled⟩
      · exact absurd spelled (one _)
      · exact absurd spelled (one _)

theorem optionKey?_eq_none_iff {token : String} :
    optionKey? token = none ↔ ∀ key, ¬Spells token key := by
  simp only [Option.eq_none_iff_forall_ne_some, ne_eq, optionKey?_eq_some_iff]

/-! ## The grammar, by positions -/

/-- The option at position `i` has the next token for a value, unless that is an option token. -/
def HasValue (tokens : List String) (i : Nat) : Option String → Prop
  | some value => tokens[i + 1]? = some value ∧ ∀ key, ¬Spells value key
  | none => ∀ next, tokens[i + 1]? = some next → ∃ key, Spells next key

/-- Position `i` is the last with an option token for the key. -/
structure LastAt (tokens : List String) (key : String) (i : Nat) : Prop where
  here : ∃ token, tokens[i]? = some token ∧ Spells token key
  last : ∀ j token, i < j → tokens[j]? = some token → ¬Spells token key

variable {token key : String} {tokens : List String} {value : Option String} {i : Nat}

theorem lastAt_cons_succ : LastAt (token :: tokens) key (i + 1) ↔ LastAt tokens key i := by
  constructor
  · intro h
    refine ⟨h.here, ?_⟩
    intro j later after found
    exact h.last (j + 1) later (Nat.succ_lt_succ after) found
  · intro h
    refine ⟨h.here, ?_⟩
    intro j later after found
    obtain _ | j := j
    · omega
    · exact h.last j later (Nat.lt_of_succ_lt_succ after) found

theorem lastAt_cons_zero :
    LastAt (token :: tokens) key 0 ↔ Spells token key ∧ ∀ later ∈ tokens, ¬Spells later key := by
  constructor
  · rintro ⟨⟨_, ⟨⟩, spelled⟩, last⟩
    refine ⟨spelled, ?_⟩
    intro later member
    obtain ⟨j, found⟩ := List.mem_iff_getElem?.mp member
    exact last (j + 1) later (Nat.succ_pos j) found
  · rintro ⟨spelled, last⟩
    refine ⟨⟨token, rfl, spelled⟩, ?_⟩
    intro j later after found
    obtain _ | j := j
    · omega
    · exact last later (List.mem_of_getElem? found)

/-- The token that follows, if it is a value. -/
def next? (tokens : List String) : Option String :=
  tokens.head?.filter fun token => (optionKey? token).isNone

theorem next?_cons_of_spells {next : String} (h : Spells next key) :
    next? (next :: tokens) = none := by
  simp [next?, optionKey?_eq_some_iff.mpr h]

theorem next?_cons_of_plain {next : String} (h : optionKey? next = none) :
    next? (next :: tokens) = some next := by
  simp [next?, h]

theorem hasValue_cons_zero : HasValue (token :: tokens) 0 value ↔ next? tokens = value := by
  cases tokens with
  | nil => cases value <;> simp [HasValue, next?]
  | cons next rest =>
      cases option : optionKey? next with
      | none =>
          have plain := optionKey?_eq_none_iff.mp option
          rw [next?_cons_of_plain option]
          cases value with
          | none => simp [HasValue, plain]
          | some value =>
              constructor
              · rintro ⟨⟨⟩, -⟩
                rfl
              · rintro ⟨⟩
                exact ⟨rfl, plain⟩
      | some key =>
          have spelled := optionKey?_eq_some_iff.mp option
          rw [next?_cons_of_spells spelled]
          cases value with
          | none =>
              refine ⟨fun _ => rfl, fun _ => ?_⟩
              rintro _ ⟨⟩
              exact ⟨key, spelled⟩
          | some value =>
              refine ⟨?_, nofun⟩
              rintro ⟨⟨⟩, plain⟩
              exact absurd spelled (plain key)

/-- What the last option token for a key gives it. -/
def lastValue? (key : String) : List String → Option (Option String)
  | [] => none
  | token :: tokens =>
    (lastValue? key tokens).or (if optionKey? token = some key then some (next? tokens) else none)

theorem lastValue?_eq_none_iff :
    lastValue? key tokens = none ↔ ∀ token ∈ tokens, ¬Spells token key := by
  induction tokens with
  | nil => simp [lastValue?]
  | cons token tokens ih =>
      rw [lastValue?, Option.or_eq_none_iff, ih, List.forall_mem_cons, ← optionKey?_eq_some_iff]
      simp [and_comm]

theorem lastValue?_eq_some_iff :
    lastValue? key tokens = some value ↔ ∃ i, LastAt tokens key i ∧ HasValue tokens i value := by
  induction tokens with
  | nil =>
      constructor
      · nofun
      · rintro ⟨i, ⟨⟨token, none, -⟩, -⟩, -⟩
        cases none
  | cons token tokens ih =>
      rw [lastValue?]
      cases later : lastValue? key tokens with
      | some w =>
          -- A later option token decides.
          rw [Option.some_or, ← later, ih]
          constructor
          · rintro ⟨i, last, given⟩
            exact ⟨i + 1, lastAt_cons_succ.mpr last, given⟩
          · rintro ⟨i, last, given⟩
            obtain _ | i := i
            · rw [lastValue?_eq_none_iff.mpr (lastAt_cons_zero.mp last).2] at later
              cases later
            · exact ⟨i, lastAt_cons_succ.mp last, given⟩
      | none =>
          have alone := lastValue?_eq_none_iff.mp later
          have here : (∃ i, LastAt (token :: tokens) key i ∧ HasValue (token :: tokens) i value) ↔
              Spells token key ∧ next? tokens = value := by
            constructor
            · rintro ⟨i, last, given⟩
              obtain _ | i := i
              · exact ⟨(lastAt_cons_zero.mp last).1, hasValue_cons_zero.mp given⟩
              · obtain ⟨⟨other, found, spelled⟩, -⟩ := lastAt_cons_succ.mp last
                exact absurd spelled (alone other (List.mem_of_getElem? found))
            · rintro ⟨spelled, given⟩
              exact ⟨0, lastAt_cons_zero.mpr ⟨spelled, alone⟩, hasValue_cons_zero.mpr given⟩
          rw [here, Option.none_or, ← optionKey?_eq_some_iff]
          by_cases spelled : optionKey? token = some key
          · simp [spelled]
          · simp [spelled]

namespace Database

variable (db : Database) (waiting : Option String)

theorem get?_settle (key : String) :
    (db.settle waiting value).get? key =
      if waiting = some key then some value else db.get? key := by
  cases waiting with
  | none => rfl
  | some k =>
      rw [settle, get?_insert]
      by_cases same : k = key
      · rw [if_pos same.symm, if_pos (congrArg some same)]
      · rw [if_neg (Ne.symm same), if_neg (fun h => same (Option.some.inj h))]

/-- What is still to come is laid over what was read, the waiting key with it. -/
theorem get?_readTokens (key : String) (tokens : List String) :
    (readTokens db waiting tokens).get? key =
      (lastValue? key tokens).or ((db.settle waiting (next? tokens)).get? key) := by
  induction tokens generalizing db waiting with
  | nil => rfl
  | cons token tokens ih =>
      rw [readTokens, lastValue?]
      cases option : optionKey? token with
      | none =>
          rw [next?_cons_of_plain option]
          dsimp only
          rw [ih, if_neg nofun, Option.or_none]
          rfl
      | some k =>
          rw [next?_cons_of_spells (optionKey?_eq_some_iff.mp option)]
          dsimp only
          rw [ih, get?_settle, Option.or_assoc]
          by_cases same : some k = some key
          · rw [if_pos same, if_pos same, Option.some_or]
          · rw [if_neg same, if_neg same, Option.none_or]

theorem get?_ofTokens (key : String) (tokens : List String) :
    (ofTokens tokens).get? key = lastValue? key tokens := by
  rw [ofTokens, get?_readTokens]
  exact Option.or_none

/-! ## Printing -/

/-- A database whose keys are names and whose values are no option tokens. -/
def Printable (db : Database) : Prop :=
  ∀ key value, db.get? key = some value →
    Nameable key ∧ ∀ v, value = some v → ∀ other, ¬Spells v other

theorem printable_ofTokens (tokens : List String) : (ofTokens tokens).Printable := by
  intro key value found
  rw [get?_ofTokens, lastValue?_eq_some_iff] at found
  obtain ⟨i, ⟨⟨token, -, spelled⟩, -⟩, given⟩ := found
  refine ⟨spelled.1, ?_⟩
  rintro v rfl
  exact given.2

/-- Reading what was printed enters the entries one after the other. -/
theorem readTokens_print (es : List Entry)
    (printable : ∀ e ∈ es, Nameable e.1 ∧ ∀ v, e.2 = some v → ∀ other, ¬Spells v other) :
    readTokens db waiting (es.flatMap fun (key, value) => ("-" ++ key) :: value.toList) =
      es.foldl (fun db e => db.insert e.1 e.2) (db.settle waiting none) := by
  induction es generalizing db waiting with
  | nil => rfl
  | cons e es ih =>
      obtain ⟨key, value⟩ := e
      obtain ⟨named, plain⟩ := printable (key, value) List.mem_cons_self
      have spelled : optionKey? ("-" ++ key) = some key :=
        optionKey?_eq_some_iff.mpr ⟨named, Or.inl rfl⟩
      have rest := fun db waiting => ih db waiting fun d hd =>
        printable d (List.mem_cons_of_mem _ hd)
      rw [List.flatMap_cons, List.cons_append, readTokens, spelled, List.foldl_cons]
      dsimp only
      cases value with
      | none => exact rest _ _
      | some v =>
          rw [Option.toList_some, List.singleton_append, readTokens,
            optionKey?_eq_none_iff.mpr (plain v rfl)]
          exact rest _ _

theorem ofTokens_toTokens {db : Database} (printable : db.Printable) :
    ofTokens db.toTokens = db := by
  have entries : ∀ e ∈ db.entries, Nameable e.1 ∧ ∀ v, e.2 = some v → ∀ other, ¬Spells v other :=
    fun e he => printable e.1 e.2 (get?_eq_some_iff.mpr he)
  rw [ofTokens, toTokens, readTokens_print empty none db.entries entries]
  exact empty_merge db

/-- **Reading and printing of command lines.**  Of all databases exactly one has the entries
that the grammar gives: a key is there if some token spells it, with what its last position
gives it.  A printable database is read back from its print, and whatever was read is
printable. -/
theorem ofTokens_grammar (tokens : List String) :
    (∀ key, (ofTokens tokens).contains key = true ↔ ∃ token ∈ tokens, Spells token key) ∧
      (∀ db, db = ofTokens tokens ↔ ∀ key value, db.get? key = some value ↔
        ∃ i, LastAt tokens key i ∧ HasValue tokens i value) ∧
      (∀ db : Database, db.Printable → ofTokens db.toTokens = db) ∧
      (ofTokens tokens).Printable ∧
      ofTokens (ofTokens tokens).toTokens = ofTokens tokens := by
  have entries : ∀ key value, (ofTokens tokens).get? key = some value ↔
      ∃ i, LastAt tokens key i ∧ HasValue tokens i value := by
    intro key value
    rw [get?_ofTokens, lastValue?_eq_some_iff]
  have printable := printable_ofTokens tokens
  refine ⟨?_, ?_, fun _ => ofTokens_toTokens, printable, ofTokens_toTokens printable⟩
  · intro key
    rw [contains, get?_ofTokens, ← Option.ne_none_iff_isSome, ne_eq, lastValue?_eq_none_iff]
    simp only [not_forall, not_not, exists_prop]
  · intro db
    constructor
    · rintro rfl
      exact entries
    · intro same
      exact ext_get? fun key value => (same key value).trans (entries key value).symm

/-- A key that is given a negative number, then nothing, and last a word. -/
theorem ofTokens_grammar_repeated :
    let tokens := ["x", "-a", "-1", "--a", "-_b", "-", "-a", "word", "y"]
    let db : Database :=
      ⟨[("_b", some "-"), ("a", some "word")], List.pairwise_pair.mpr (by decide +kernel)⟩
    (db.Printable ∧ db = ofTokens tokens) ∧ ofTokens db.toTokens = db ∧ Spells "--a" "a" ∧
      db.toTokens = ["-_b", "-", "-a", "word"] := by
  intro tokens db
  have read : db = ofTokens tokens := by decide +kernel
  have spelled : Spells "--a" "a" := optionKey?_eq_some_iff.mp (by decide +kernel)
  obtain ⟨-, -, back, printable, -⟩ := ofTokens_grammar tokens
  rw [← read] at printable
  exact ⟨⟨printable, read⟩, back db printable, spelled, by decide +kernel⟩

end Database

end MatrixFree.Options
