import Mathlib.Data.List.Flatten
import Mathlib.Logic.Function.Basic
import MatrixFree.Proofs.Grid.Copies

/-!
# Fields as arrays

A field is meant to be an array over the box of its indices: nothing before it is allocated, and
then a value for each index (`Contents`).  What is stored is a flat vector, and the formula for the
position of an index is all that ties the two together.  `Field.Represents` says that they agree,
and every call on fields keeps it (`Call.represents`), as long as the indices can be counted in a
word.  So after any calls the fields of a program are the arrays that the same calls make of
nothing, and each call has the same answer on both (`Call.runAll_represents`).

The arrays know nothing of positions.  A flat buffer is spread over the indices in the order of
their list, which is the lexicographic one (`Box.pairwise_indices`).
-/

namespace MatrixFree.Grid

variable {k : Kind} {m : Mesh}

/-! ## Order and positions -/

theorem Box.pairwise_indices (e : Extents) : (indices e).Pairwise (· < ·) := by
  induction e with
  | nil =>
      rw [indices_nil]
      exact List.pairwise_singleton _ _
  | cons n es ih =>
      rw [indices_cons, List.pairwise_flatMap]
      constructor
      · intro x _
        rw [List.pairwise_map]
        exact ih.imp fun less => List.cons_lt_cons_iff.mpr (Or.inr ⟨rfl, less⟩)
      · refine List.pairwise_lt_range.imp fun {x y} less i mem j mem' => ?_
        obtain ⟨is, -, rfl⟩ := List.mem_map.mp mem
        obtain ⟨js, -, rfl⟩ := List.mem_map.mp mem'
        exact List.cons_lt_cons_iff.mpr (Or.inl less)

/-- Each index of the box has a number, at which it is stored. -/
theorem Kind.exists_indexAt (countable : k.Countable m) {index : Box.Index}
    (within : Box.Within index (k.extents m)) :
    ∃ p, p < k.count m ∧ Box.indexAt (k.extents m) p = index := by
  rw [Kind.count_of_countable countable]
  exact ⟨_, Box.offset_lt within, Box.indexAt_offset within⟩

theorem Kind.indexAt_inj {p q : Nat} (hp : p < k.count m) (hq : q < k.count m) :
    Box.indexAt (k.extents m) p = Box.indexAt (k.extents m) q ↔ p = q := by
  refine ⟨fun same => ?_, fun same => same ▸ rfl⟩
  rw [← Kind.position_indexAt hp, same, Kind.position_indexAt hq]

theorem Kind.idxOf_indexAt (countable : k.Countable m) {p : Nat} (h : p < k.count m) :
    (k.indices m).idxOf (Box.indexAt (k.extents m) p) = p := by
  obtain ⟨inside, here⟩ :=
    List.getElem?_eq_some_iff.mp ((Kind.getElem?_indices countable).mpr ⟨h, rfl⟩)
  rw [← here]
  exact (Box.nodup_indices _).idxOf_getElem p inside

/-! ## Arrays -/

/-- What an array over a box of indices holds, if it was allocated. -/
abbrev Contents := Option (Box.Index → Float)

namespace Contents

variable (k m) (c : Contents)

/-- The value at an index of the box. -/
def get (index : Box.Index) : Except Fault Float :=
  if Box.Within index (k.extents m) then
    match c with
    | some values => .ok (values index)
    | none => .error (.readUnallocated k)
  else .error (.outsideExtents index (k.extents m))

/-- Another value at one index of the box. -/
def set (index : Box.Index) (value : Float) : Except Fault Contents :=
  if Box.Within index (k.extents m) then
    match c with
    | some values => .ok (some (Function.update values index value))
    | none => .error (.writtenUnallocated k)
  else .error (.outsideExtents index (k.extents m))

/-- Zeros, unless there are values. -/
def allocate : Except Fault Contents :=
  match c with
  | some values => .ok (some values)
  | none => do
    Storage.reserve (k.count m) Storage.numberBytes
    return some fun _ => 0.0

/-- The same value everywhere. -/
def fill (value : Float) : Except Fault Contents := do
  let _ ← c.allocate k m
  return some fun _ => value

/-- The values of a function, once there is room for them and for a list of the indices. -/
def ofFn (value : Box.Index → Float) : Except Fault Contents := do
  Storage.reserve (k.count m) Storage.numberBytes
  k.reserveIndices m
  return some value

/-- The entries of a buffer, in the order in which the indices are listed. -/
def ofBuffer (buffer : Array Float) : Except (Failure SessionError) Contents :=
  if k.Listable m then
    if buffer.size = k.count m then
      .ok (some fun index => buffer.getD ((k.indices m).idxOf index) 0.0)
    else .error (.error (.localSizeMismatch buffer.size (k.count m)))
  else .error (.fault .capacityOverflow)

variable {k m c}

/-- An array is not read outside its box, and not before it is allocated. -/
theorem get_eq_error_iff {index : Box.Index} {fault : Fault} :
    c.get k m index = .error fault ↔
      (¬Box.Within index (k.extents m) ∧ fault = .outsideExtents index (k.extents m)) ∨
        (Box.Within index (k.extents m) ∧ c.isSome = false ∧ fault = .readUnallocated k) := by
  unfold get
  by_cases within : Box.Within index (k.extents m)
  · cases c <;> simp [within, @eq_comm _ fault]
  · simp [within, @eq_comm _ fault]

theorem set_eq_error_iff {index : Box.Index} {value : Float} {fault : Fault} :
    c.set k m index value = .error fault ↔
      (¬Box.Within index (k.extents m) ∧ fault = .outsideExtents index (k.extents m)) ∨
        (Box.Within index (k.extents m) ∧ c.isSome = false ∧ fault = .writtenUnallocated k) := by
  unfold set
  by_cases within : Box.Within index (k.extents m)
  · cases c <;> simp [within, @eq_comm _ fault]
  · simp [within, @eq_comm _ fault]

/-- What is set at one index is found there, and nowhere else. -/
theorem get_of_set {c' : Contents} {index : Box.Index} {value : Float}
    (done : c.set k m index value = .ok c') :
    c'.get k m index = .ok value ∧
      ∀ other, other ≠ index → c'.get k m other = c.get k m other := by
  unfold set at done
  split at done
  · next within =>
      cases c with
      | none => cases done
      | some values =>
          cases done
          unfold get
          refine ⟨?_, fun other differs => ?_⟩
          · simp only [if_pos within, Function.update_self]
          · simp only [Function.update_of_ne differs]
  · cases done

end Contents

/-! ## Representation -/

namespace Field

/-- The field is on the mesh, and is the array. -/
structure Represents (f : Field k) (m : Mesh) (c : Contents) : Prop where
  mesh : f.mesh = m
  allocated : f.isAllocated = c.isSome
  get : ∀ index, f.get index = c.get k m index

theorem represents_none_iff {f : Field k} : f.Represents m none ↔ ∃ y, f = ⟨m, y, none⟩ := by
  constructor
  · rintro ⟨rfl, allocated, -⟩
    obtain ⟨m, y, values⟩ := f
    cases values with
    | none => exact ⟨y, rfl⟩
    | some xs => cases allocated
  · rintro ⟨y, rfl⟩
    exact ⟨rfl, rfl, fun _ => rfl⟩

/-- The stored vector lists the array by the numbers of the indices. -/
theorem represents_some_iff (countable : k.Countable m) {f : Field k}
    {values : Box.Index → Float} :
    f.Represents m (some values) ↔ ∃ y, ∃ xs : Vector Float (k.count m), f = ⟨m, y, some xs⟩ ∧
      ∀ (p : Nat) (h : p < k.count m), xs[p] = values (Box.indexAt (k.extents m) p) := by
  constructor
  · rintro ⟨rfl, allocated, same⟩
    obtain ⟨m, y, xs, rfl⟩ := exists_eq_some allocated
    refine ⟨y, xs, rfl, fun p h => ?_⟩
    have here := same (Box.indexAt (k.extents m) p)
    rw [get_indexAt y xs h, Contents.get,
      if_pos (Box.within_indexAt (Kind.lt_count h).1)] at here
    exact Except.ok.inj here
  · rintro ⟨y, xs, rfl, same⟩
    refine ⟨rfl, rfl, fun index => ?_⟩
    unfold Contents.get
    by_cases within : Box.Within index (k.extents m)
    · obtain ⟨p, h, rfl⟩ := Kind.exists_indexAt countable within
      rw [if_pos within, get_indexAt y xs h, same p h]
    · rw [if_neg within]
      exact if_neg within

/-! ## Calls on fields -/

/-- Two calls end alike: with the same failure, or with results that belong together. -/
inductive Alike {ε α β : Type} (R : α → β → Prop) : Except ε α → Except ε β → Prop where
  | error (e : ε) : Alike R (.error e) (.error e)
  | ok {a : α} {b : β} (related : R a b) : Alike R (.ok a) (.ok b)

theorem Alike.mapError {ε ε' α β : Type} {R : α → β → Prop} {x : Except ε α} {y : Except ε β}
    (alike : Alike R x y) (f : ε → ε') : Alike R (x.mapError f) (y.mapError f) := by
  cases alike with
  | error e => exact .error (f e)
  | ok related => exact .ok related

theorem Alike.error_iff {ε α β : Type} {R : α → β → Prop} {x : Except ε α} {y : Except ε β}
    (alike : Alike R x y) (e : ε) : x = .error e ↔ y = .error e := by
  cases alike with
  | error e' => exact ⟨fun same => congrArg _ (Except.error.inj same),
      fun same => congrArg _ (Except.error.inj same)⟩
  | ok related => exact ⟨nofun, nofun⟩

section Calls

variable {f : Field k} {c : Contents}

theorem represents_new (m : Mesh) : (new m : Field k).Represents m none :=
  represents_none_iff.mpr ⟨0, rfl⟩

theorem Represents.atY (countable : k.Countable m) (rep : f.Represents m c) (y : Nat) :
    (f.atY y).Represents m c := by
  cases c with
  | none =>
      obtain ⟨y', rfl⟩ := represents_none_iff.mp rep
      exact represents_none_iff.mpr ⟨y, rfl⟩
  | some values =>
      obtain ⟨y', xs, rfl, same⟩ := (represents_some_iff countable).mp rep
      exact (represents_some_iff countable).mpr ⟨y, xs, rfl, same⟩

theorem Represents.set (countable : k.Countable m) (rep : f.Represents m c)
    (index : Box.Index) (value : Float) :
    Alike (Represents · m ·) (f.set index value) (c.set k m index value) := by
  unfold Contents.set
  by_cases within : Box.Within index (k.extents m)
  · rw [if_pos within]
    cases c with
    | none =>
        obtain ⟨y, rfl⟩ := represents_none_iff.mp rep
        have refused : (⟨m, y, none⟩ : Field k).set index value =
            .error (.writtenUnallocated k) := if_pos within
        rw [refused]
        exact .error _
    | some values =>
        obtain ⟨y, xs, rfl, same⟩ := (represents_some_iff countable).mp rep
        obtain ⟨p, h, rfl⟩ := Kind.exists_indexAt countable within
        rw [set_indexAt y xs h]
        refine .ok ((represents_some_iff countable).mpr ⟨y, _, rfl, fun q hq => ?_⟩)
        -- Other numbers belong to other indices.
        by_cases here : p = q
        · subst here
          rw [Vector.getElem_set_self, Function.update_self]
        · rw [Vector.getElem_set_ne _ _ here, same q hq, Function.update_of_ne]
          exact fun other => here ((Kind.indexAt_inj hq h).mp other).symm
  · obtain ⟨rfl, -, -⟩ := rep
    have refused : f.set index value = .error (.outsideExtents index (k.extents f.mesh)) :=
      if_neg within
    rw [if_neg within, refused]
    exact .error _

theorem Represents.allocate (countable : k.Countable m) (rep : f.Represents m c) :
    Alike (Represents · m ·) f.allocate (c.allocate k m) := by
  cases c with
  | some values =>
      obtain ⟨y, xs, rfl, -⟩ := (represents_some_iff countable).mp rep
      exact .ok rep
  | none =>
      obtain ⟨y, rfl⟩ := represents_none_iff.mp rep
      unfold Field.allocate Contents.allocate Field.count
      dsimp only
      cases Storage.reserve (k.count m) Storage.numberBytes with
      | error e => exact .error e
      | ok _ =>
          refine .ok ((represents_some_iff countable).mpr ⟨y, _, rfl, fun p h => ?_⟩)
          exact Vector.getElem_replicate h

theorem Represents.fill (countable : k.Countable m) (rep : f.Represents m c) (value : Float) :
    Alike (Represents · m ·) (f.fill value) (c.fill k m value) := by
  have allocated := rep.allocate countable
  unfold Field.fill Contents.fill
  generalize f.allocate = made, c.allocate k m = made' at allocated
  cases allocated with
  | error e => exact .error e
  | @ok g _ related =>
      obtain ⟨rfl, -, -⟩ := related
      refine .ok ((represents_some_iff countable).mpr ⟨g.yIndex, _, rfl, fun p h => ?_⟩)
      exact Vector.getElem_replicate h

theorem represents_ofFn (countable : k.Countable m) (value : Box.Index → Float) :
    Alike (Represents · m ·) (ofFn m value : Except Fault (Field k)) (Contents.ofFn k m value) := by
  unfold ofFn Contents.ofFn
  cases Storage.reserve (k.count m) Storage.numberBytes with
  | error e => exact .error e
  | ok _ =>
      cases k.reserveIndices m with
      | error e => exact .error e
      | ok _ =>
          refine .ok ((represents_some_iff countable).mpr ⟨0, _, rfl, fun p h => ?_⟩)
          exact Vector.getElem_ofFn h

/-- A buffer is spread over the indices by their numbers, which is by their order. -/
theorem Represents.withVector (countable : k.Countable m) (rep : f.Represents m c)
    (buffer : Array Float) :
    Alike (Represents · m ·) (f.withVector buffer.toVector) (Contents.ofBuffer k m buffer) := by
  obtain ⟨rfl, -, -⟩ := rep
  unfold Field.withVector Contents.ofBuffer
  rw [Kind.reserveIndices_eq]
  by_cases room : k.Listable f.mesh
  · rw [if_pos room, if_pos room]
    by_cases size : buffer.size = k.count f.mesh
    · rw [if_pos size]
      dsimp only
      have fits : buffer.size = f.count := size
      rw [dif_pos fits]
      refine .ok ((represents_some_iff countable).mpr ⟨f.yIndex, _, rfl, fun p h => ?_⟩)
      rw [Kind.idxOf_indexAt countable h]
      have inside : p < buffer.size := fits ▸ h
      exact (Array.getElem_eq_getD 0.0 (h := inside))
    · rw [if_neg size]
      dsimp only
      have misfits : buffer.size ≠ f.count := size
      rw [dif_neg misfits]
      exact .error _
  · rw [if_neg room, if_neg room]
    exact .error _

end Calls

end Field

/-! ## Programs -/

/-- A call on the fields of a program, which are known by numbers. -/
inductive Call where
  | new (slot : Nat)
  | allocate (slot : Nat)
  | set (slot : Nat) (index : Box.Index) (value : Float)
  | fill (slot : Nat) (value : Float)
  | ofFn (slot : Nat) (value : Box.Index → Float)
  | copyFrom (slot : Nat) (buffer : Array Float)
  | clone (source target : Nat)
  | atY (slot : Nat) (y : Nat)

/-- What a program has under each number, and the answer of a call. -/
abbrev Answered (α : Type) := Except (Failure SessionError) Unit × (Nat → α)

namespace Call

/-- Put what was made where it belongs.  What fails makes nothing. -/
def put {α : Type} (pool : Nat → α) (slot : Nat) : Except (Failure SessionError) α → Answered α
  | .ok made => (.ok (), Function.update pool slot made)
  | .error e => (.error e, pool)

/-- A call on fields, which are all on one mesh. -/
def onFields (m : Mesh) (pool : Nat → Field k) : Call → Answered (Field k)
  | new slot => put pool slot (.ok (.new m))
  | allocate slot => put pool slot ((pool slot).allocate.mapError .fault)
  | set slot index value => put pool slot (((pool slot).set index value).mapError .fault)
  | fill slot value => put pool slot (((pool slot).fill value).mapError .fault)
  | ofFn slot value => put pool slot ((Field.ofFn m value).mapError .fault)
  | copyFrom slot buffer =>
    let out := (pool slot).copyFrom buffer
    (out.1, Function.update pool slot out.2)
  | clone source target => put pool target (.ok (pool source))
  | atY slot y => put pool slot (.ok ((pool slot).atY y))

/-- The same call on arrays. -/
def onArrays (k : Kind) (m : Mesh) (pool : Nat → Contents) : Call → Answered Contents
  | new slot => put pool slot (.ok none)
  | allocate slot => put pool slot (((pool slot).allocate k m).mapError .fault)
  | set slot index value => put pool slot (((pool slot).set k m index value).mapError .fault)
  | fill slot value => put pool slot (((pool slot).fill k m value).mapError .fault)
  | ofFn slot value => put pool slot ((Contents.ofFn k m value).mapError .fault)
  | copyFrom slot buffer => put pool slot (Contents.ofBuffer k m buffer)
  | clone source target => put pool target (.ok (pool source))
  | atY slot _ => put pool slot (.ok (pool slot))

/-- Calls one after the other: their answers, and what the program has at the end. -/
def runAll {α : Type} (step : (Nat → α) → Call → Answered α) :
    List Call → (Nat → α) → List (Except (Failure SessionError) Unit) × (Nat → α)
  | [], pool => ([], pool)
  | call :: calls, pool =>
    let first := step pool call
    let others := runAll step calls first.2
    (first.1 :: others.1, others.2)

variable {fields : Nat → Field k} {arrays : Nat → Contents}

/-- A copy that is refused puts the same field back, which is to put nothing. -/
theorem onFields_copyFrom (m : Mesh) (fields : Nat → Field k) (slot : Nat)
    (buffer : Array Float) :
    onFields m fields (.copyFrom slot buffer) =
      put fields slot ((fields slot).withVector buffer.toVector) := by
  simp only [onFields, Field.copyFrom]
  cases (fields slot).withVector buffer.toVector with
  | ok f => rfl
  | error e => exact Prod.ext rfl (Function.update_eq_self slot fields)

/-- What is put under one number leaves the others alone. -/
theorem put_represents (rep : ∀ i, (fields i).Represents m (arrays i)) (slot : Nat)
    {made : Except (Failure SessionError) (Field k)}
    {made' : Except (Failure SessionError) Contents}
    (alike : Field.Alike (Field.Represents · m ·) made made') :
    (put fields slot made).1 = (put arrays slot made').1 ∧
      ∀ i, ((put fields slot made).2 i).Represents m ((put arrays slot made').2 i) := by
  cases alike with
  | error e => exact ⟨rfl, rep⟩
  | ok related =>
      refine ⟨rfl, fun i => ?_⟩
      by_cases here : i = slot
      · subst here
        simpa only [put, Function.update_self] using related
      · simpa only [put, Function.update_of_ne here] using rep i

/-- One call keeps fields and arrays together, and answers the same on both. -/
theorem represents (countable : k.Countable m) (rep : ∀ i, (fields i).Represents m (arrays i))
    (call : Call) :
    (onFields m fields call).1 = (onArrays k m arrays call).1 ∧
      ∀ i, ((onFields m fields call).2 i).Represents m ((onArrays k m arrays call).2 i) := by
  cases call with
  | new slot => exact put_represents rep slot (.ok (Field.represents_new m))
  | allocate slot => exact put_represents rep slot (((rep slot).allocate countable).mapError _)
  | set slot index value =>
      exact put_represents rep slot (((rep slot).set countable index value).mapError _)
  | fill slot value =>
      exact put_represents rep slot (((rep slot).fill countable value).mapError _)
  | ofFn slot value =>
      exact put_represents rep slot ((Field.represents_ofFn countable value).mapError _)
  | copyFrom slot buffer =>
      rw [onFields_copyFrom]
      exact put_represents rep slot ((rep slot).withVector countable buffer)
  | clone source target => exact put_represents rep target (.ok (rep source))
  | atY slot y => exact put_represents rep slot (.ok ((rep slot).atY countable y))

theorem runAll_represents (countable : k.Countable m) (calls : List Call)
    (rep : ∀ i, (fields i).Represents m (arrays i)) :
    (runAll (onFields m) calls fields).1 = (runAll (onArrays k m) calls arrays).1 ∧
      ∀ i, ((runAll (onFields m) calls fields).2 i).Represents m
        ((runAll (onArrays k m) calls arrays).2 i) := by
  induction calls generalizing fields arrays with
  | nil => exact ⟨rfl, rep⟩
  | cons call calls ih =>
      obtain ⟨answer, next⟩ := represents countable rep call
      obtain ⟨answers, last⟩ := ih next
      exact ⟨congrArg₂ List.cons answer answers, last⟩

/-- A call that fails leaves all fields as they were. -/
theorem onFields_of_error {call : Call} {e : Failure SessionError}
    (failed : (onFields m fields call).1 = .error e) : (onFields m fields call).2 = fields := by
  have kept {slot : Nat} {made : Except (Failure SessionError) (Field k)}
      (refused : (put fields slot made).1 = .error e) : (put fields slot made).2 = fields := by
    cases made with
    | ok f => cases refused
    | error e => rfl
  cases call with
  | copyFrom slot buffer =>
      rw [onFields_copyFrom] at failed ⊢
      exact kept failed
  | _ => exact kept failed

end Call

/-! ## Faithful fields -/

namespace Field

/-- What an array promises, in the field's own calls. -/
structure Faithful (f : Field k) : Prop where
  /-- There is a value for each index that is listed. -/
  size : ∀ values, f.toArray? = some values → values.size = (k.indices f.mesh).length
  /-- The values are listed in the order of the indices. -/
  listed : f.isAllocated = true → f.readAll (k.indices f.mesh) = .ok f.toList
  again : f.isAllocated = true → f.allocate = .ok f
  get_fails : ∀ index fault, f.get index = .error fault ↔
    (¬Box.Within index f.extents ∧ fault = .outsideExtents index f.extents) ∨
      (Box.Within index f.extents ∧ f.isAllocated = false ∧ fault = .readUnallocated k)
  set_fails : ∀ index value fault, f.set index value = .error fault ↔
    (¬Box.Within index f.extents ∧ fault = .outsideExtents index f.extents) ∨
      (Box.Within index f.extents ∧ f.isAllocated = false ∧ fault = .writtenUnallocated k)
  get_set : ∀ index value g, f.set index value = .ok g → g.get index = .ok value
  get_set_other : ∀ index value g, f.set index value = .ok g →
    ∀ other, other ≠ index → g.get other = f.get other

theorem Represents.faithful {f : Field k} {c : Contents} (countable : k.Countable m)
    (rep : f.Represents m c) : f.Faithful := by
  obtain ⟨rfl, allocated, get⟩ := rep
  have rep : f.Represents f.mesh c := ⟨rfl, allocated, get⟩
  have set_get {index : Box.Index} {value : Float} {g : Field k}
      (done : f.set index value = .ok g) :
      g.get index = .ok value ∧ ∀ other, other ≠ index → g.get other = f.get other := by
    have alike := rep.set countable index value
    rw [done] at alike
    generalize made : c.set k f.mesh index value = c' at alike
    cases alike with
    | ok related =>
        obtain ⟨here, others⟩ := Contents.get_of_set made
        refine ⟨(related.get index).trans here, fun other differs => ?_⟩
        rw [related.get, others other differs, get]
  constructor
  · intro values stored
    obtain ⟨xs, held, rfl⟩ := Option.map_eq_some_iff.mp stored
    rw [xs.size_toArray, Kind.length_indices countable]
  · intro some
    obtain ⟨m, y, xs, rfl⟩ := exists_eq_some some
    exact readAll_indices countable y xs
  · intro some
    obtain ⟨m, y, xs, rfl⟩ := exists_eq_some some
    rfl
  · intro index fault
    rw [get, allocated]
    exact Contents.get_eq_error_iff
  · intro index value fault
    rw [allocated]
    exact ((rep.set countable index value).error_iff fault).trans Contents.set_eq_error_iff
  · exact fun index value g done => (set_get done).1
  · exact fun index value g done => (set_get done).2

end Field

/-- **Fields are arrays over the box of their indices.**  On a mesh whose indices can be counted,
the indices are listed in lexicographic order, each index of the box once, and the position of each
is its place in the list.  After any calls on any number of fields, starting from fields without
values, each field is the array that the same calls make of nothing, the answers of all calls are
the same, and a call that failed has changed nothing.  So a field with values has one for each
index, in the order of the list; what is set is what is read, there and nowhere else; and only an
index outside the box or a field without values makes reading and writing fail, the former
first. -/
theorem fields_faithful {mesh : Mesh} (countable : k.Countable mesh) :
    ((k.indices mesh).Pairwise (· < ·) ∧
      (∀ index, index ∈ k.indices mesh ↔ Box.Within index (k.extents mesh)) ∧
      ∀ (p : Nat) (index : Box.Index), (k.indices mesh)[p]? = some index →
        k.position mesh index = p) ∧
    (∀ calls : List Call,
      let made := Call.runAll (Call.onFields mesh) calls fun _ => (.new mesh : Field k)
      let meant := Call.runAll (Call.onArrays k mesh) calls fun _ => none
      made.1 = meant.1 ∧
        ∀ slot, (made.2 slot).Represents mesh (meant.2 slot) ∧ (made.2 slot).Faithful) ∧
    ∀ (fields : Nat → Field k) (call : Call) (e : Failure SessionError),
      (Call.onFields mesh fields call).1 = .error e →
        (Call.onFields mesh fields call).2 = fields := by
  refine ⟨⟨Box.pairwise_indices _, fun index => Box.mem_indices, fun p index here => ?_⟩,
    fun calls => ?_, fun fields call e failed => Call.onFields_of_error failed⟩
  · obtain ⟨stored, rfl⟩ := (Kind.getElem?_indices countable).mp here
    exact Kind.position_indexAt stored
  · obtain ⟨answers, fields⟩ :=
      Call.runAll_represents countable calls fun _ => Field.represents_new mesh
    exact ⟨answers, fun slot => ⟨fields slot, (fields slot).faithful countable⟩⟩

/-- A plane is filled, cloned and moved.  The clone is overwritten in the middle of its second row,
and a write outside the box is refused. -/
theorem fields_faithful_plane :
    let mesh := Mesh.serial 0 2 7 3
    let calls : List Call :=
      [.set 0 [0, 0] 1.0, .fill 0 5.0, .clone 0 1, .atY 1 4, .set 1 [1, 2] 8.0, .set 0 [2, 0] 9.0]
    let made := Call.runAll (Call.onFields mesh) calls fun _ => (.new mesh : Field .plane)
    Kind.Countable .plane mesh ∧
      made.1 = [.error (.fault (.writtenUnallocated .plane)), .ok (), .ok (), .ok (), .ok (),
        .error (.fault (.outsideExtents [2, 0] [2, 3]))] ∧
      (made.2 1).get [1, 2] = .ok 8.0 ∧ (made.2 1).get [1, 1] = .ok 5.0 ∧
      (made.2 0).get [1, 2] = .ok 5.0 ∧
      (made.2 1).readAll (Kind.indices .plane mesh) = .ok (made.2 1).toList := by
  intro mesh calls made
  have countable : Kind.Countable .plane mesh := by
    unfold Kind.Countable
    decide
  let meant := Call.runAll (Call.onArrays .plane mesh) calls fun _ => none
  obtain ⟨-, runs, -⟩ := fields_faithful countable
  have answers : made.1 = meant.1 := (runs calls).1
  have same (slot : Nat) : (made.2 slot).Represents mesh (meant.2 slot) := ((runs calls).2 slot).1
  have faithful : (made.2 1).Faithful := ((runs calls).2 1).2
  refine ⟨countable, ?_, ?_, ?_, ?_, ?_⟩
  · rw [answers]
    decide +kernel
  · rw [(same 1).get]
    decide +kernel
  · rw [(same 1).get]
    decide +kernel
  · rw [(same 0).get]
    decide +kernel
  · have allocated : (made.2 1).isAllocated = true := by
      rw [(same 1).allocated]
      decide +kernel
    have listed := faithful.listed allocated
    rw [(same 1).mesh] at listed
    exact listed

end MatrixFree.Grid
