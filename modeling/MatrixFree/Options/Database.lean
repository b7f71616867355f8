import MatrixFree.Text.Blank
import MatrixFree.Text.Layout
import MatrixFree.Text.Quoted

/-!
# Option databases

A database maps keys to values; a key may stand without a value, as a flag. The entries are kept
in ascending order of their keys, each key once, so two databases with the same contents are equal.

* `insert` keeps the order, and `get?` finds what was inserted last.
* `merge` lays one database over another.
* `ofTokens` reads a command line and `toTokens` writes one. An option token is one or two dashes and
  a name that starts with an ASCII letter or an underscore; the token behind it is its value,
  unless that is an option token as well.
-/

namespace MatrixFree.Options

open Text

/-- A key and its value, `none` for a flag. -/
abbrev Entry := String × Option String

/-- Put an entry into a list in ascending order of keys, in place of one with the same key. -/
def insertEntry (key : String) (value : Option String) : List Entry → List Entry
  | [] => [(key, value)]
  | e :: es =>
    if key < e.1 then (key, value) :: e :: es
    else if key = e.1 then (key, value) :: es
    else e :: insertEntry key value es

theorem fst_of_mem_insertEntry {key : String} {value : Option String} {es : List Entry} {e : Entry}
    (h : e ∈ insertEntry key value es) : e.1 = key ∨ e ∈ es := by
  induction es with
  | nil => simp_all [insertEntry]
  | cons d es ih =>
    simp only [insertEntry] at h
    split at h
    · rcases List.mem_cons.1 h with rfl | h
      · exact .inl rfl
      · exact .inr h
    · split at h
      · rcases List.mem_cons.1 h with rfl | h
        · exact .inl rfl
        · exact .inr (List.mem_cons_of_mem _ h)
      · rcases List.mem_cons.1 h with rfl | h
        · exact .inr List.mem_cons_self
        · exact (ih h).imp_right (List.mem_cons_of_mem _)

/-- Keys strictly ascending. -/
def Ascending (es : List Entry) : Prop := es.Pairwise (·.1 < ·.1)

theorem ascending_insertEntry {es : List Entry} (key : String) (value : Option String)
    (h : Ascending es) : Ascending (insertEntry key value es) := by
  induction es with
  | nil => simp [insertEntry, Ascending]
  | cons d es ih =>
    obtain ⟨hd, hes⟩ := List.pairwise_cons.1 h
    simp only [insertEntry]
    split
    · rename_i hlt
      refine List.pairwise_cons.2 ⟨fun e he => ?_, h⟩
      rcases List.mem_cons.1 he with rfl | he
      · exact hlt
      · exact String.lt_trans hlt (hd e he)
    · rename_i hnlt
      split
      · rename_i heq
        exact List.pairwise_cons.2 ⟨fun e he => heq ▸ hd e he, hes⟩
      · rename_i hne
        have hgt : d.1 < key := Std.lt_of_le_of_ne (String.not_lt.1 hnlt) (Ne.symm hne)
        refine List.pairwise_cons.2 ⟨fun e he => ?_, ih hes⟩
        rcases fst_of_mem_insertEntry he with he | he
        · exact he ▸ hgt
        · exact hd e he

/-- Options by key. -/
structure Database where
  entries : List Entry
  ascending : Ascending entries
deriving DecidableEq

namespace Database

def empty : Database := ⟨[], List.Pairwise.nil⟩

/-- Enter a key, in place of an earlier entry. -/
def insert (db : Database) (key : String) (value : Option String) : Database :=
  ⟨insertEntry key value db.entries, ascending_insertEntry key value db.ascending⟩

/-- The entry of a key: nothing, a flag, or a value. -/
def get? (db : Database) (key : String) : Option (Option String) := db.entries.lookup key

def contains (db : Database) (key : String) : Bool := (db.get? key).isSome

def size (db : Database) : Nat := db.entries.length

def isEmpty (db : Database) : Bool := db.entries.isEmpty

/-- Enter a key that may be spelled with dashes in front. -/
def set (db : Database) (key : String) (value : Option String) : Database :=
  db.insert (String.ofList (key.toList.dropWhile (· = '-'))) value

/-- `db` with the entries of `overlay` laid over it. -/
def merge (db overlay : Database) : Database :=
  overlay.entries.foldl (fun db e => db.insert e.1 e.2) db

/-- The database with all it holds, as a structured text. -/
def detail (db : Database) : String :=
  let entry : Entry → String := fun (key, value) =>
    keyed (quote key) (optional (value.map quote))
  record "OptionsDatabase" [("entries", listing "\x7b" "\x7d" (db.entries.map entry))]

end Database

/-! ## Tokens -/

/-- The name behind the dashes, if it starts like a name. -/
def name? : List Char → Option String
  | [] => none
  | c :: cs => if c.isAlpha ∨ c = '_' then some (String.ofList (c :: cs)) else none

/-- The key of an option token. -/
def optionKey? (token : String) : Option String :=
  match token.toList with
  | '-' :: '-' :: cs => name? cs
  | '-' :: cs => name? cs
  | _ => none

namespace Database

/-- Enter a key that is still waiting for its value. -/
def settle (db : Database) (waiting : Option String) (value : Option String) : Database :=
  match waiting with
  | some key => db.insert key value
  | none => db

/-- Read tokens into a database, behind an option that is still waiting for its value. -/
def readTokens : Database → (waiting : Option String) → List String → Database
  | db, waiting, [] => db.settle waiting none
  | db, waiting, token :: tokens =>
    match optionKey? token with
    | some key => readTokens (db.settle waiting none) (some key) tokens
    | none => readTokens (db.settle waiting (some token)) none tokens

/-- The options on a command line. Tokens that belong to no option are passed over. -/
def ofTokens (tokens : List String) : Database := readTokens empty none tokens

/-- The options in a line of text; no line is an empty one. -/
def ofLine (line : Option String) : Database :=
  match line with
  | some s => ofTokens (words s)
  | none => empty

/-- A command line for the database, in the order of the keys. -/
def toTokens (db : Database) : List String :=
  db.entries.flatMap fun (key, value) => ("-" ++ key) :: value.toList

end Database

end MatrixFree.Options
