import MatrixFree.Proofs.Options.Settings

/-!
# Which value stops a reading

`Settings.apply` looks the eight settings up in their order and stops at the first value that it
cannot read.  Which values it can read is a matter of the key alone (`Setting.Kind.Admits`), so the
first key with another value is known before anything is read, and so is what the reading leaves
behind: the settings in front of that key with the values of the database, the others as they
were (`Settings.taken`).

The same record says what a reading that comes through leaves.  It may still be refused for what
the settings are together, and then all of them have been overwritten.
-/

namespace MatrixFree.Options

open Text

/-! ## Values -/

/-- What the value of a setting is. -/
inductive Setting.Kind where
  | solver
  | real
  | natural
  | flag

/-- The values that a setting accepts, as text or as a bare flag. -/
def Setting.Kind.Admits : Setting.Kind → Option String → Prop
  | solver, raw => ∃ word, raw = some word ∧ word.toLower ∈ ["gmres", "cg", "bcgs", "bicgstab"]
  | real, raw => ∃ word, raw = some word ∧ (Numeral.real? word).isSome = true
  | natural, raw => ∃ word, raw = some word ∧ (Numeral.natural? word).isSome = true
  | flag, raw => ∀ word, raw = some word →
    word ∈ ["1", "true", "yes", "on", "0", "false", "no", "off"]

/-- The names that are looked up, in their order, and what their values are. -/
def Setting.kinds : List (String × Setting.Kind) :=
  [("ksp_type", .solver), ("ksp_rtol", .real), ("ksp_atol", .real), ("ksp_divtol", .real),
    ("ksp_max_it", .natural), ("ksp_gmres_restart", .natural),
    ("ksp_initial_guess_nonzero", .flag), ("ksp_monitor", .flag)]

namespace Value

/-- The solver that a value chooses. -/
def solver? (raw : Option String) : Option Solver :=
  raw.bind fun word => (Solver.ofWord word).toOption

def real? (raw : Option String) : Option Float := raw.bind Numeral.real?

def natural? (raw : Option String) : Option Nat := raw.bind Numeral.natural?

/-- A bare flag is switched on. -/
def flag? : Option String → Option Bool
  | none => some true
  | some word => Setting.flag? word

theorem isSome_solver? {raw : Option String} :
    (solver? raw).isSome = true ↔ Setting.Kind.solver.Admits raw := by
  have known (s : String) :
      (Solver.ofLower? s).isSome = true ↔ s ∈ ["gmres", "cg", "bcgs", "bicgstab"] := by
    simp only [Solver.ofLower?, apply_ite Option.isSome, List.mem_cons, List.not_mem_nil, or_false]
    grind
  cases raw with
  | none => simp [solver?, Setting.Kind.Admits]
  | some word =>
      have same : solver? (some word) = Solver.ofLower? word.toLower := by
        simp only [solver?, Option.bind_some, Solver.ofWord]
        cases Solver.ofLower? word.toLower <;> rfl
      rw [same, known]
      simp only [Setting.Kind.Admits, Option.some.injEq, exists_eq_left']

theorem isSome_bind {β : Type} {parse : String → Option β} {raw : Option String} :
    (raw.bind parse).isSome = true ↔ ∃ word, raw = some word ∧ (parse word).isSome = true := by
  cases raw <;> simp

theorem isSome_flag? {raw : Option String} :
    (flag? raw).isSome = true ↔ Setting.Kind.flag.Admits raw := by
  cases raw with
  | none => simp [flag?, Setting.Kind.Admits]
  | some word =>
      simp only [flag?, Setting.flag?, apply_ite Option.isSome, Setting.Kind.Admits,
        Option.some.injEq, forall_eq', List.mem_cons, List.not_mem_nil, or_false]
      grind

end Value

namespace Setting

/-- The setting has this name, and reads the values of this kind. -/
def Reads (setting : Setting) (entry : String × Setting.Kind) : Prop :=
  setting.key = entry.1 ∧ ∀ raw s, (setting.read raw s).isSome = true ↔ entry.2.Admits raw

theorem read_valued (key : String) {β : Type} (parse : String → Option β)
    (put : Settings → β → Settings) (raw : Option String) (s : Settings) :
    (valued key parse put).read raw s = (raw.bind parse).map (put s) := by
  cases raw with
  | none => rfl
  | some word => cases parsed : parse word <;> simp [valued, parsed]

theorem read_flag (key : String) (put : Settings → Bool → Settings) (raw : Option String)
    (s : Settings) : (flag key put).read raw s = (Value.flag? raw).map (put s) := by
  cases raw <;> rfl

theorem reads_valued {kind : Setting.Kind} {β : Type} {parse : String → Option β}
    (admits : ∀ raw, (raw.bind parse).isSome = true ↔ kind.Admits raw) (key : String)
    (put : Settings → β → Settings) : (valued key parse put).Reads (key, kind) := by
  refine ⟨rfl, fun raw s => ?_⟩
  rw [read_valued, Option.isSome_map]
  exact admits raw

theorem reads_flag (key : String) (put : Settings → Bool → Settings) :
    (flag key put).Reads (key, .flag) := by
  refine ⟨rfl, fun raw s => ?_⟩
  rw [read_flag, Option.isSome_map]
  exact Value.isSome_flag?

/-- Each setting reads the values of its kind. -/
theorem all_reads : List.Forall₂ Reads all Setting.kinds := by
  have solver := @reads_valued .solver _ _ fun _ => Value.isSome_solver?
  have real := @reads_valued .real _ Numeral.real? fun _ => Value.isSome_bind
  have natural := @reads_valued .natural _ Numeral.natural? fun _ => Value.isSome_bind
  exact .cons (solver _ _) <| .cons (real _ _) <| .cons (real _ _) <| .cons (real _ _) <|
    .cons (natural _ _) <| .cons (natural _ _) <| .cons (reads_flag _ _) <|
    .cons (reads_flag _ _) .nil

end Setting

/-! ## What is overwritten -/

/-- What the database has for a name behind the scope, if anything, is a value of this kind. -/
def Database.Readable (db : Database) (scope : String) (entry : String × Setting.Kind) : Prop :=
  ∀ raw, db.get? (scope ++ entry.1) = some raw → entry.2.Admits raw

/-- The value that the database has for a name behind the scope; without one, the old value. -/
def Database.valueOr {β : Type} (db : Database) (scope name : String)
    (parse : Option String → Option β) (old : β) : β :=
  ((db.get? (scope ++ name)).bind parse).getD old

/-- Asking again changes nothing. -/
@[simp] theorem Database.valueOr_idem {β : Type} (db : Database) (scope name : String)
    (parse : Option String → Option β) (old : β) :
    db.valueOr scope name parse (db.valueOr scope name parse old) =
      db.valueOr scope name parse old := by
  unfold valueOr
  cases (db.get? (scope ++ name)).bind parse <;> rfl

namespace Settings

/-- The settings with the values of the database for the names before the given place. -/
def taken (s : Settings) (db : Database) (scope : String) (place : Nat) : Settings where
  solver := if 0 < place then db.valueOr scope "ksp_type" Value.solver? s.solver else s.solver
  relative := if 1 < place then db.valueOr scope "ksp_rtol" Value.real? s.relative else s.relative
  absolute := if 2 < place then db.valueOr scope "ksp_atol" Value.real? s.absolute else s.absolute
  growth := if 3 < place then db.valueOr scope "ksp_divtol" Value.real? s.growth else s.growth
  limit := if 4 < place then db.valueOr scope "ksp_max_it" Value.natural? s.limit else s.limit
  restart :=
    if 5 < place then db.valueOr scope "ksp_gmres_restart" Value.natural? s.restart else s.restart
  keepGuess :=
    if 6 < place then db.valueOr scope "ksp_initial_guess_nonzero" Value.flag? s.keepGuess
    else s.keepGuess
  monitor := if 7 < place then db.valueOr scope "ksp_monitor" Value.flag? s.monitor else s.monitor

variable {db : Database} {scope : String} {s t : Settings}

/-! Taking over. -/

section TakeOver

variable (db : Database) (scope : String)

/-- What is taken over is put where the old value was. -/
theorem takeOver_eq {setting : Setting} {β : Type} {parse : Option String → Option β}
    {put : Settings → β → Settings} (old : Settings → β) (same : ∀ s, put s (old s) = s)
    (read : ∀ raw s, setting.read raw s = (parse raw).map (put s)) (s : Settings) :
    setting.takeOver db scope s = put s (db.valueOr scope setting.key parse (old s)) := by
  unfold Setting.takeOver Database.valueOr
  cases db.get? (scope ++ setting.key) with
  | none => exact (same s).symm
  | some raw =>
      dsimp only [Option.bind_some]
      rw [read]
      cases parse raw with
      | none => exact (same s).symm
      | some v => rfl

/-- Taking over the settings before a place, one after the other, is overwriting them. -/
theorem takeOver_take {place : Nat} (le : place ≤ Setting.kinds.length) (s : Settings) :
    s.takeOver db scope (Setting.all.take place) = s.taken db scope place := by
  have solver := takeOver_eq db scope solver (fun _ => rfl) <|
    Setting.read_valued "ksp_type" (fun s => (Solver.ofWord s).toOption)
      fun s v => { s with solver := v }
  have relative := takeOver_eq db scope relative (fun _ => rfl) <|
    Setting.read_valued "ksp_rtol" Numeral.real? fun s v => { s with relative := v }
  have absolute := takeOver_eq db scope absolute (fun _ => rfl) <|
    Setting.read_valued "ksp_atol" Numeral.real? fun s v => { s with absolute := v }
  have growth := takeOver_eq db scope growth (fun _ => rfl) <|
    Setting.read_valued "ksp_divtol" Numeral.real? fun s v => { s with growth := v }
  have limit := takeOver_eq db scope limit (fun _ => rfl) <|
    Setting.read_valued "ksp_max_it" Numeral.natural? fun s v => { s with limit := v }
  have restart := takeOver_eq db scope restart (fun _ => rfl) <|
    Setting.read_valued "ksp_gmres_restart" Numeral.natural? fun s v => { s with restart := v }
  have keepGuess := takeOver_eq db scope keepGuess (fun _ => rfl) <|
    Setting.read_flag "ksp_initial_guess_nonzero" fun s v => { s with keepGuess := v }
  have monitor := takeOver_eq db scope monitor (fun _ => rfl) <|
    Setting.read_flag "ksp_monitor" fun s v => { s with monitor := v }
  have places : place ≤ 8 := le
  interval_cases place <;>
    simp only [takeOver, Setting.all, List.take, List.foldl, solver, relative, absolute, growth,
      limit, restart, keepGuess, monitor] <;> rfl

end TakeOver

/-! Reading. -/

theorem unreadable_iff {setting : Setting} {entry : String × Setting.Kind}
    (reads : setting.Reads entry) :
    setting.Unreadable db scope s ↔ ¬db.Readable scope entry := by
  unfold Setting.Unreadable Database.Readable
  rw [reads.1]
  push Not
  refine exists_congr fun raw => and_congr_right fun _ => ?_
  rw [← reads.2 raw s, Option.not_isSome_iff_eq_none]

/-- Values that can be read are taken over on the way. -/
theorem readAll_append {before : List Setting}
    (readable : ∀ setting ∈ before, ∀ s, ¬setting.Unreadable db scope s) (after : List Setting)
    (s : Settings) :
    readAll db scope (before ++ after) s = readAll db scope after (s.takeOver db scope before) := by
  induction before generalizing s with
  | nil => rfl
  | cons setting before ih =>
      obtain ⟨here, later⟩ := List.forall_mem_cons.mp readable
      rw [List.cons_append, readAll_cons_of_readable (here s)]
      exact ih later _

theorem not_unreadable_of_readable {settings : List Setting}
    {entries : List (String × Setting.Kind)} (reads : List.Forall₂ Setting.Reads settings entries)
    (readable : ∀ entry ∈ entries, db.Readable scope entry) :
    ∀ setting ∈ settings, ∀ s, ¬setting.Unreadable db scope s := by
  induction reads with
  | nil => nofun
  | cons reads rest ih =>
      obtain ⟨here, later⟩ := List.forall_mem_cons.mp readable
      exact List.forall_mem_cons.mpr
        ⟨fun s bad => (unreadable_iff reads).mp bad here, ih later⟩

/-- The reading goes on from any place up to which the values can be read. -/
theorem readAll_drop {place : Nat} (le : place ≤ Setting.kinds.length)
    (readable : ∀ entry ∈ Setting.kinds.take place, db.Readable scope entry) (s : Settings) :
    readAll db scope Setting.all s =
      readAll db scope (Setting.all.drop place) (s.taken db scope place) := by
  have before := not_unreadable_of_readable (List.forall₂_take place Setting.all_reads) readable
  rw [← takeOver_take db scope le, ← readAll_append before, List.take_append_drop]

/-- A list with a failure in it has a first one. -/
theorem exists_first_not {X : Type} {P : X → Prop} {xs : List X} (fails : ∃ x ∈ xs, ¬P x) :
    ∃ place x, xs[place]? = some x ∧ ¬P x ∧ ∀ y ∈ xs.take place, P y := by
  induction xs with
  | nil =>
      obtain ⟨x, mem, -⟩ := fails
      cases mem
  | cons x xs ih =>
      by_cases here : P x
      · obtain ⟨y, mem, bad⟩ := fails
        have later : y ∈ xs := (List.mem_cons.mp mem).resolve_left fun same => bad (same ▸ here)
        obtain ⟨place, z, found, bad, before⟩ := ih ⟨y, later, bad⟩
        exact ⟨place + 1, z, found, bad, List.forall_mem_cons.mpr ⟨here, before⟩⟩
      · exact ⟨0, x, rfl, here, nofun⟩

theorem apply_of_readable (readable : ∀ entry ∈ Setting.kinds, db.Readable scope entry)
    (s : Settings) :
    let t := s.taken db scope Setting.kinds.length
    s.apply db scope = (t.validate, t) := by
  have all : readAll db scope Setting.all s = (.ok (), s.taken db scope Setting.kinds.length) :=
    readAll_drop (Nat.le_refl _) (by rwa [List.take_length]) s
  unfold apply
  rw [all]

/-- The first value that cannot be read ends the reading, with its own name and text. -/
theorem apply_of_unreadable (unreadable : ∃ entry ∈ Setting.kinds, ¬db.Readable scope entry)
    (s : Settings) :
    ∃ place name kind raw, Setting.kinds[place]? = some (name, kind) ∧
      (∀ entry ∈ Setting.kinds.take place, db.Readable scope entry) ∧
      db.get? (scope ++ name) = some raw ∧ ¬kind.Admits raw ∧
      s.apply db scope =
        (.error (.badOption (scope ++ name) (raw.getD "")), s.taken db scope place) := by
  obtain ⟨place, ⟨name, kind⟩, found, bad, before⟩ := exists_first_not unreadable
  obtain ⟨inside, here⟩ := List.getElem?_eq_some_iff.mp found
  have split : Setting.kinds.drop place = (name, kind) :: Setting.kinds.drop (place + 1) := by
    rw [List.drop_eq_getElem_cons inside, here]
  have reads := List.forall₂_drop place Setting.all_reads
  rw [split] at reads
  obtain ⟨setting, rest, reads, -, cut⟩ := List.forall₂_cons_right_iff.mp reads
  obtain ⟨raw, given, stop⟩ :=
    readAll_cons_of_unreadable ((unreadable_iff (s := s.taken db scope place) reads).mpr bad) rest
  rw [reads.1] at given stop
  have refused : ¬kind.Admits raw := by
    intro admits
    refine bad fun other same => ?_
    rw [given] at same
    exact Option.some.inj same ▸ admits
  refine ⟨place, name, kind, raw, found, before, given, refused, ?_⟩
  unfold apply
  rw [readAll_drop inside.le before, cut, stop]

theorem validate_eq_error {e : EngineError} (refused : t.validate = .error e) :
    ∃ what, e = .invalidArgument what := by
  unfold validate at refused
  split at refused
  · exact ⟨_, (Except.error.inj refused).symm⟩
  · split at refused
    · exact ⟨_, (Except.error.inj refused).symm⟩
    · cases refused

theorem taken_idem (s : Settings) (db : Database) (scope : String) (place : Nat) :
    (s.taken db scope place).taken db scope place = s.taken db scope place := by
  unfold taken
  simp only [Settings.mk.injEq]
  refine ⟨?_, ?_, ?_, ?_, ?_, ?_, ?_, ?_⟩
  all_goals split <;> simp

/-- **What a reading of a database answers, and what it leaves.** It succeeds exactly if every
value that is there can be read and the settings that come out are valid.  These have the values of
the database, and are otherwise unchanged, so a second reading changes nothing.  If some value
cannot be read, the error names the first such key and gives its value as it stands; the settings
before that key are overwritten, and no others.  If all can be read and the settings are not valid,
then they have all been overwritten when they are refused. -/
theorem apply_outcomes (s : Settings) (db : Database) (scope : String) :
    let t := s.taken db scope Setting.kinds.length
    ((s.apply db scope).1 = .ok () ↔
        (∀ entry ∈ Setting.kinds, db.Readable scope entry) ∧ t.validate = .ok ()) ∧
      ((s.apply db scope).1 = .ok () →
        (s.apply db scope).2 = t ∧ t.apply db scope = (.ok (), t)) ∧
      ((∃ entry ∈ Setting.kinds, ¬db.Readable scope entry) →
        ∃ place name kind raw, Setting.kinds[place]? = some (name, kind) ∧
          (∀ entry ∈ Setting.kinds.take place, db.Readable scope entry) ∧
          db.get? (scope ++ name) = some raw ∧ ¬kind.Admits raw ∧
          s.apply db scope =
            (.error (.badOption (scope ++ name) (raw.getD "")), s.taken db scope place)) ∧
      ((∀ entry ∈ Setting.kinds, db.Readable scope entry) → t.validate ≠ .ok () →
        ∃ what, s.apply db scope = (.error (.invalidArgument what), t)) := by
  intro t
  have succeeds : (s.apply db scope).1 = .ok () ↔
      (∀ entry ∈ Setting.kinds, db.Readable scope entry) ∧ t.validate = .ok () := by
    constructor
    · intro ok
      have readable : ∀ entry ∈ Setting.kinds, db.Readable scope entry := by
        by_contra unreadable
        push Not at unreadable
        obtain ⟨place, name, kind, raw, -, -, -, -, refused⟩ := apply_of_unreadable unreadable s
        rw [refused] at ok
        cases ok
      rw [apply_of_readable readable] at ok
      exact ⟨readable, ok⟩
    · rintro ⟨readable, valid⟩
      rw [apply_of_readable readable]
      exact valid
  refine ⟨succeeds, ?_, fun unreadable => apply_of_unreadable unreadable s, ?_⟩
  · intro ok
    obtain ⟨readable, valid⟩ := succeeds.mp ok
    rw [apply_of_readable readable, apply_of_readable readable, taken_idem]
    exact ⟨rfl, Prod.ext valid rfl⟩
  · intro readable invalid
    rw [apply_of_readable readable]
    cases refused : t.validate with
    | ok u => exact absurd refused invalid
    | error e =>
        obtain ⟨what, rfl⟩ := validate_eq_error refused
        exact ⟨what, rfl⟩

/-- The limit cannot be read here, although its token comes first; solver and tolerance, which are
looked up before it, are taken over, and the flag behind it is not. -/
theorem apply_outcomes_limit :
    let db := Database.ofTokens
      ["-a_ksp_max_it", "many", "-a_ksp_monitor", "-a_ksp_type", "CG", "-a_ksp_rtol", "1e-8"]
    (∃ entry ∈ Setting.kinds, ¬db.Readable "a_" entry) ∧
      ∃ place kind, Setting.kinds[place]? = some ("ksp_max_it", kind) ∧
        default.apply db "a_" =
          (.error (.badOption "a_ksp_max_it" "many"), default.taken db "a_" place) ∧
        (default.apply db "a_").2.solver = .conjugateGradient ∧
        (default.apply db "a_").2.monitor = false := by
  intro db
  have unreadable : ∃ entry ∈ Setting.kinds, ¬db.Readable "a_" entry := by
    refine ⟨("ksp_max_it", .natural), by simp [Setting.kinds], fun readable => ?_⟩
    obtain ⟨word, same, number⟩ := readable (some "many") (by decide +kernel)
    cases same
    exact absurd number (by decide +kernel)
  have error : (default.apply db "a_").1 = .error (.badOption "a_ksp_max_it" "many") := by
    decide +kernel
  obtain ⟨place, name, kind, raw, found, -, -, -, left⟩ :=
    (apply_outcomes default db "a_").2.2.1 unreadable
  have told := congrArg Prod.fst left
  rw [error] at told
  obtain ⟨key, value⟩ := EngineError.badOption.inj (Except.error.inj told)
  have named : name = "ksp_max_it" := (String.append_right_inj "a_").mp key.symm
  refine ⟨unreadable, place, kind, named ▸ found, ?_, by decide +kernel, by decide +kernel⟩
  rw [left, ← key, ← value]

end Settings

end MatrixFree.Options
