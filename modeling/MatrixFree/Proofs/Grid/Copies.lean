import Mathlib.Data.List.Nodup
import MatrixFree.Proofs.Grid.Fields

/-!
# Copies between fields and buffers

The values of a field are stored by the number of their index, so a copy to or from a flat
buffer takes them over as they are.  That is a shortcut: to copy out is to read the indices one
after the other (`Field.copyTo_eq_readAll`), and to copy in is to write to them one after the
other (`Field.copyFrom_eq_writeAll`).  It rests on the indices being listed in the order of
their numbers, each of them once (`Box.mem_indices`, `Box.nodup_indices`), which is the order of
a loop in each direction, the first direction outermost (`Box.indices_cons`).

Where the indices can be counted in a word, copies in both directions undo each other, and a
copy that fails changes nothing (`Field.copies`).  The list of the indices is made before a copy
in, and where there is no room for it (`Kind.Listable`) even the lengths are not compared.

None of it depends on what the values are.  Over words of 64 bits it says that the bits of every
number are kept, those of a NaN among them.
-/

namespace MatrixFree.Grid

variable {k : Kind} {α : Type}

/-! ## The order of the indices -/

namespace Box

theorem indices_nil : indices [] = [[]] := by
  simp [indices, count, indexAt]

theorem indexAt_cons_add {n : Nat} {es : Extents} (x : Nat) {p : Nat} (h : p < count es) :
    indexAt (n :: es) (x * count es + p) = x :: indexAt es p := by
  have pos : 0 < count es := Nat.zero_lt_of_lt h
  show (x * count es + p) / count es :: indexAt es ((x * count es + p) % count es) = _
  rw [Nat.mul_comm x, Nat.mul_add_div pos, Nat.mul_add_mod, Nat.div_eq_of_lt h,
    Nat.mod_eq_of_lt h, Nat.add_zero]

/-- The indices are listed by a loop in the first direction, and in it one over the others. -/
theorem indices_cons (n : Nat) (es : Extents) :
    indices (n :: es) = (List.range n).flatMap fun x => (indices es).map (x :: ·) := by
  induction n with
  | zero => simp [indices, count]
  | succ n ih =>
      have slice : ((List.range (count es)).map (n * count es + ·)).map (indexAt ((n + 1) :: es)) =
          (indices es).map (n :: ·) := by
        simp only [indices, List.map_map]
        refine List.map_congr_left ?_
        intro p mem
        exact indexAt_cons_add n (List.mem_range.1 mem)
      calc indices ((n + 1) :: es)
          = (List.range (n * count es + count es)).map (indexAt ((n + 1) :: es)) := by
            rw [← Nat.succ_mul]
            rfl
        _ = indices (n :: es) ++ (indices es).map (n :: ·) := by
            rw [List.range_add, List.map_append, slice]
            rfl
        _ = (List.range (n + 1)).flatMap fun x => (indices es).map (x :: ·) := by
            rw [ih, List.range_succ, List.flatMap_append, List.flatMap_singleton]

theorem mem_indices {e : Extents} {i : Index} : i ∈ indices e ↔ Within i e := by
  unfold indices
  rw [List.mem_map]
  constructor
  · rintro ⟨p, mem, rfl⟩
    exact within_indexAt (List.mem_range.1 mem)
  · intro within
    exact ⟨offset e i, List.mem_range.2 (offset_lt within), indexAt_offset within⟩

theorem nodup_indices (e : Extents) : (indices e).Nodup := by
  refine List.Nodup.map_on ?_ List.nodup_range
  intro p memp q memq same
  rw [← offset_indexAt (List.mem_range.1 memp), same, offset_indexAt (List.mem_range.1 memq)]

theorem getElem?_indices {e : Extents} {p : Nat} {i : Index} :
    (indices e)[p]? = some i ↔ p < count e ∧ indexAt e p = i := by
  unfold indices
  rw [List.getElem?_map]
  by_cases h : p < count e
  · simp [h]
  · simp [h]

end Box

/-- There is room for the list of the indices. -/
def Kind.Listable (k : Kind) (m : Mesh) : Prop :=
  Box.count (k.extents m) = 0 ∨ Storage.HasRoom (Box.rowLength (k.extents m)) (k.indexBytes m)

instance (m : Mesh) : Decidable (k.Listable m) := inferInstanceAs (Decidable (_ ∨ _))

theorem Kind.reserveIndices_eq (k : Kind) (m : Mesh) :
    k.reserveIndices m = if k.Listable m then .ok () else .error .capacityOverflow := by
  unfold Kind.reserveIndices Storage.reserve Kind.Listable
  by_cases empty : Box.count (k.extents m) = 0
  · simp [empty]
  · simp [empty]

theorem Kind.getElem?_indices {m : Mesh} (countable : k.Countable m) {p : Nat} {i : Box.Index} :
    (k.indices m)[p]? = some i ↔ p < k.count m ∧ Box.indexAt (k.extents m) p = i := by
  rw [Kind.count_of_countable countable]
  exact Box.getElem?_indices

/-! ## One index after the other -/

namespace Field

theorem set_indexAt {m : Mesh} (y : Nat) (xs : Vector α (k.count m)) {p : Nat}
    (h : p < k.count m) (x : α) :
    (⟨m, y, some xs⟩ : Field k α).set (Box.indexAt (k.extents m) p) x =
      .ok ⟨m, y, some (xs.set p x)⟩ := by
  have within : Box.Within (Box.indexAt (k.extents m) p) (k.extents m) :=
    Box.within_indexAt (Kind.lt_count h).1
  have here : k.position m (Box.indexAt (k.extents m) p) = p := Kind.position_indexAt h
  have stored : k.position m (Box.indexAt (k.extents m) p) < k.count m := by
    rw [here]
    exact h
  unfold set
  refine (if_pos within).trans ((dif_pos stored).trans (congrArg Except.ok ?_))
  show (⟨m, y, some (xs.set (k.position m (Box.indexAt (k.extents m) p)) x _)⟩ : Field k α) = _
  simp only [here]

/-- Read the values at some indices, one after the other. -/
def readAll (f : Field k α) (indices : List Box.Index) : Except Fault (List α) :=
  indices.mapM f.get

/-- Write values at some indices, one after the other. -/
def writeAll (f : Field k α) (entries : List (Box.Index × α)) : Except Fault (Field k α) :=
  entries.foldlM (fun f entry => f.set entry.1 entry.2) f

/-- To read on from some number is to read the stored values from there on. -/
theorem readAll_from {m : Mesh} (y : Nat) (xs : Vector α (k.count m)) (rest : List α)
    (read : List α) (held : xs.toList = read ++ rest) :
    readAll (⟨m, y, some xs⟩ : Field k α)
      ((List.range' read.length rest.length).map (Box.indexAt (k.extents m))) = .ok rest := by
  induction rest generalizing read with
  | nil => rfl
  | cons x rest ih =>
      have size : k.count m = read.length + (rest.length + 1) := by
        have length := congrArg List.length held
        simpa using length
      have stored : read.length < k.count m := by omega
      have here : xs[read.length] = x := by
        have entry : xs.toList[read.length]? = some x := by simp [held]
        simpa [stored] using entry
      have others := ih (read ++ [x]) (by simp [held])
      rw [List.length_append, List.length_singleton] at others
      unfold readAll at others ⊢
      rw [List.length_cons, List.range'_succ, List.map_cons, List.mapM_cons,
        get_indexAt y xs stored, others, here]
      rfl

/-- To read all indices is to read the stored values in their order. -/
theorem readAll_indices {m : Mesh} (countable : k.Countable m) (y : Nat)
    (xs : Vector α (k.count m)) :
    readAll (⟨m, y, some xs⟩ : Field k α) (k.indices m) = .ok xs.toList := by
  have length : xs.toList.length = Box.count (k.extents m) :=
    xs.length_toList.trans (Kind.count_of_countable countable)
  have all := readAll_from y xs xs.toList [] rfl
  rw [List.length_nil, length, ← List.range_eq_range'] at all
  exact all

/-- To write on from some number is to replace the stored values from there on. -/
theorem writeAll_from {m : Mesh} (y : Nat) (rest : List α) (xs : Vector α (k.count m))
    (written old : List α) (held : xs.toList = written ++ old)
    (same : old.length = rest.length) :
    ∃ xs' : Vector α (k.count m), xs'.toList = written ++ rest ∧
      writeAll (⟨m, y, some xs⟩ : Field k α)
        (((List.range' written.length rest.length).map (Box.indexAt (k.extents m))).zip rest) =
          .ok ⟨m, y, some xs'⟩ := by
  induction rest generalizing xs written old with
  | nil =>
      obtain rfl : old = [] := List.eq_nil_of_length_eq_zero same
      exact ⟨xs, held, rfl⟩
  | cons x rest ih =>
      obtain ⟨o, old, rfl⟩ := List.exists_cons_of_length_eq_add_one same
      have size : k.count m = written.length + (old.length + 1) := by
        have length := congrArg List.length held
        simpa using length
      have stored : written.length < k.count m := by omega
      have next : (xs.set written.length x).toList = (written ++ [x]) ++ old := by
        simp [Vector.toList_set, held]
      obtain ⟨xs', replaced, others⟩ := ih (xs.set written.length x) (written ++ [x]) old next
        (by simpa using same)
      refine ⟨xs', by simpa using replaced, ?_⟩
      rw [List.length_append, List.length_singleton] at others
      unfold writeAll at others ⊢
      rw [List.length_cons, List.range'_succ, List.map_cons, List.zip_cons_cons, List.foldlM_cons,
        set_indexAt y xs stored]
      exact others

/-! ## Copies -/

theorem copyTo_of_size {m : Mesh} (y : Nat) (xs : Vector α (k.count m)) {buffer : Array α}
    (size : buffer.size = k.count m) :
    (⟨m, y, some xs⟩ : Field k α).copyTo buffer = (.ok (), xs.toArray) := by
  have fits : (⟨m, y, some xs⟩ : Field k α).count = buffer.size := size.symm
  unfold copyTo toVector
  simp only [dif_pos fits]
  rfl

theorem copyFrom_of_size {f : Field k α} (room : k.Listable f.mesh) {buffer : Array α}
    (size : buffer.size = f.count) :
    f.copyFrom buffer = (.ok (), ⟨f.mesh, f.yIndex, some ⟨buffer, size⟩⟩) := by
  unfold copyFrom withVector
  rw [Kind.reserveIndices_eq, if_pos room]
  simp only [dif_pos size]
  rfl

/-- To copy out is to read the indices one after the other. -/
theorem copyTo_eq_readAll {f : Field k α} (countable : k.Countable f.mesh)
    (allocated : f.isAllocated = true) {buffer : Array α} (size : buffer.size = f.count) :
    ∃ values, f.copyTo buffer = (.ok (), values) ∧
      f.readAll (k.indices f.mesh) = .ok values.toList := by
  obtain ⟨m, y, xs, rfl⟩ := exists_eq_some allocated
  exact ⟨xs.toArray, copyTo_of_size y xs size, readAll_indices countable y xs⟩

/-- To copy in is to allocate the values and write to the indices one after the other. -/
theorem copyFrom_eq_writeAll [Zero α] {f f' : Field k α} (countable : k.Countable f.mesh)
    (room : k.Listable f.mesh) (allocated : f.allocate = .ok f') {buffer : Array α}
    (size : buffer.size = f.count) :
    ∃ g, f'.writeAll ((k.indices f.mesh).zip buffer.toList) = .ok g ∧
      f.copyFrom buffer = (.ok (), g) := by
  obtain ⟨xs, rfl⟩ := allocate_ok allocated
  have length : xs.toList.length = buffer.toList.length := by
    rw [Vector.length_toList, Array.length_toList]
    exact size.symm
  obtain ⟨xs', replaced, all⟩ := writeAll_from f.yIndex buffer.toList xs [] xs.toList rfl length
  obtain rfl : xs' = ⟨buffer, size⟩ := Vector.toList_inj.1 replaced
  have count : buffer.toList.length = Box.count (k.extents f.mesh) := by
    rw [Array.length_toList, size]
    exact Kind.count_of_countable countable
  rw [List.length_nil, count, ← List.range_eq_range'] at all
  exact ⟨_, all, copyFrom_of_size room size⟩

/-- The buffer's entry at a number is the field's value at the index with that number. -/
def ReadsAs (f : Field k α) (buffer : Array α) : Prop :=
  ∀ (p : Nat) (index : Box.Index), (k.indices f.mesh)[p]? = some index →
    ∃ x, buffer[p]? = some x ∧ f.get index = .ok x

theorem readsAs_toArray {m : Mesh} (countable : k.Countable m) (y : Nat)
    (xs : Vector α (k.count m)) : (⟨m, y, some xs⟩ : Field k α).ReadsAs xs.toArray := by
  intro p index listed
  obtain ⟨stored, rfl⟩ := (Kind.getElem?_indices countable).1 listed
  exact ⟨xs[p], by simp [stored], get_indexAt y xs stored⟩

/-- What a copy of the values into a buffer does, whatever the buffer's length. -/
structure CopiesTo (f : Field k α) (buffer : Array α) : Prop where
  unallocated : f.isAllocated = false → f.copyTo buffer = (.error .unallocated, buffer)
  mismatch : f.isAllocated = true → buffer.size ≠ f.count →
    f.copyTo buffer = (.error (.localSizeMismatch buffer.size f.count), buffer)
  copied : f.isAllocated = true → buffer.size = f.count → ∃ values,
    f.copyTo buffer = (.ok (), values) ∧ values.size = f.count ∧ f.ReadsAs values

/-- What a copy of a buffer into the values does, whatever the buffer's length. -/
structure CopiesFrom (f : Field k α) (buffer : Array α) : Prop where
  full : ¬k.Listable f.mesh → f.copyFrom buffer = (.error (.fault .capacityOverflow), f)
  mismatch : k.Listable f.mesh → buffer.size ≠ f.count →
    f.copyFrom buffer = (.error (.error (.localSizeMismatch buffer.size f.count)), f)
  copied : k.Listable f.mesh → buffer.size = f.count → ∃ g,
    f.copyFrom buffer = (.ok (), g) ∧ g.mesh = f.mesh ∧ g.yIndex = f.yIndex ∧
      g.isAllocated = true ∧ g.ReadsAs buffer

theorem copiesTo {f : Field k α} (countable : k.Countable f.mesh) (buffer : Array α) :
    f.CopiesTo buffer := by
  constructor
  · intro unallocated
    unfold copyTo
    rw [toVector_of_not_isAllocated unallocated]
  · intro allocated other
    obtain ⟨xs, held⟩ := Option.isSome_iff_exists.1 allocated
    unfold copyTo toVector
    simp only [held, dif_neg (Ne.symm other)]
  · intro allocated size
    obtain ⟨m, y, xs, rfl⟩ := exists_eq_some allocated
    exact ⟨xs.toArray, copyTo_of_size y xs size, xs.size_toArray, readsAs_toArray countable y xs⟩

theorem copiesFrom {f : Field k α} (countable : k.Countable f.mesh) (buffer : Array α) :
    f.CopiesFrom buffer := by
  constructor
  · intro full
    unfold copyFrom withVector
    rw [Kind.reserveIndices_eq, if_neg full]
  · intro room other
    unfold copyFrom withVector
    rw [Kind.reserveIndices_eq, if_pos room]
    simp only [dif_neg other]
  · intro room size
    exact ⟨_, copyFrom_of_size room size, rfl, rfl, rfl,
      readsAs_toArray countable f.yIndex ⟨buffer, size⟩⟩

/-- Values that are copied out of one field and into another are the same at every index. -/
theorem get_copyFrom_copyTo {f g : Field k α} (here : g.mesh = f.mesh) (room : k.Listable f.mesh)
    (allocated : f.isAllocated = true) {buffer : Array α} (size : buffer.size = f.count)
    (index : Box.Index) :
    (g.copyFrom (f.copyTo buffer).2).1 = .ok () ∧
      (g.copyFrom (f.copyTo buffer).2).2.get index = f.get index := by
  obtain ⟨m, y, xs, rfl⟩ := exists_eq_some allocated
  obtain ⟨m', y', values⟩ := g
  obtain rfl : m' = m := here
  rw [copyTo_of_size y xs size]
  dsimp only
  rw [copyFrom_of_size (f := ⟨m', y', values⟩) room xs.size_toArray]
  exact ⟨rfl, rfl⟩

/-- A buffer that is copied into a field and out of it again is what it was. -/
theorem copyTo_copyFrom {f : Field k α} (room : k.Listable f.mesh) {values buffer : Array α}
    (size : values.size = f.count) (size' : buffer.size = f.count) :
    (f.copyFrom values).1 = .ok () ∧ (f.copyFrom values).2.copyTo buffer = (.ok (), values) := by
  rw [copyFrom_of_size room size]
  exact ⟨rfl, copyTo_of_size f.yIndex ⟨values, size⟩ size'⟩

/-- **Copies are bijective, and fail without a trace.**  Where the indices of a mesh can be
counted, a buffer fits a field exactly if it has an entry for every index, and its entry at a
number is the value at the index with that number.  Copies in both directions undo each other.
A copy that fails leaves its target as it was; a copy out fails exactly if the field has no
values or the buffer does not fit, and a copy in exactly if the buffer does not fit, once there
is room for a list of the indices. -/
theorem copies {mesh : Mesh} (countable : k.Countable mesh) :
    (∀ n, storedCount k mesh = .ok n → n = k.count mesh) ∧
      ((k.indices mesh).length = k.count mesh ∧ (k.indices mesh).Nodup ∧
        ∀ index, index ∈ k.indices mesh ↔ Box.Within index (k.extents mesh)) ∧
      (∀ f : Field k α, f.mesh = mesh → ∀ buffer, f.CopiesTo buffer ∧ f.CopiesFrom buffer) ∧
      (k.Listable mesh → ∀ f g : Field k α, f.mesh = mesh → g.mesh = mesh →
        f.isAllocated = true → ∀ buffer, buffer.size = k.count mesh →
          (g.copyFrom (f.copyTo buffer).2).1 = .ok () ∧
            ∀ index, (g.copyFrom (f.copyTo buffer).2).2.get index = f.get index) ∧
      (k.Listable mesh → ∀ f : Field k α, f.mesh = mesh → ∀ values buffer,
        values.size = k.count mesh → buffer.size = k.count mesh →
          (f.copyFrom values).1 = .ok () ∧
            (f.copyFrom values).2.copyTo buffer = (.ok (), values)) := by
  refine ⟨?_, ⟨Kind.length_indices countable, Box.nodup_indices _, fun _ => Box.mem_indices⟩,
    ?_, ?_, ?_⟩
  · intro n stored
    rw [storedCount_eq] at stored
    split at stored
    · exact (Except.ok.inj stored).symm
    · cases stored
  · rintro f rfl buffer
    exact ⟨copiesTo countable buffer, copiesFrom countable buffer⟩
  · rintro room f g rfl here allocated buffer size
    have back := get_copyFrom_copyTo here room allocated size
    exact ⟨(back []).1, fun index => (back index).2⟩
  · rintro room f rfl values buffer size size'
    exact copyTo_copyFrom room size size'

/-- The bits of two NaNs that differ in sign and payload, of a negative zero and of an infinity,
copied to another position in y, and back. -/
theorem copies_plane :
    let mesh := Mesh.serial 0 2 3 2
    let f : Field .plane UInt64 := .ofVector mesh
      #v[0x7ff8000000000001, 0xfff0000000000002, 0x8000000000000000, 0xfff0000000000000]
    let g : Field .plane UInt64 := (new mesh).atY 2
    let buffer : Array UInt64 := #[7, 7, 7, 7]
    (Kind.Countable .plane mesh ∧ Kind.Listable .plane mesh ∧ f.isAllocated = true ∧
        buffer.size = Kind.count .plane mesh) ∧
      ((g.copyFrom (f.copyTo buffer).2).1 = .ok () ∧
        ∀ index, (g.copyFrom (f.copyTo buffer).2).2.get index = f.get index) ∧
      (f.get [0, 0] = .ok 0x7ff8000000000001 ∧ f.get [0, 1] = .ok 0xfff0000000000002) ∧
      ((g.copyFrom buffer).1 = .ok () ∧
        (g.copyFrom buffer).2.copyTo buffer = (.ok (), buffer)) := by
  intro mesh f g buffer
  have countable : Kind.Countable .plane mesh := by
    unfold Kind.Countable
    decide
  have room : Kind.Listable .plane mesh := by decide
  have size : buffer.size = Kind.count .plane mesh := rfl
  obtain ⟨-, -, -, back, forth⟩ := copies (α := UInt64) countable
  exact ⟨⟨countable, room, rfl, size⟩, back room f g rfl rfl rfl buffer size,
    ⟨rfl, rfl⟩, forth room g rfl buffer buffer size size⟩

/-- A row too long for a list of its indices: they can be counted, but no buffer is taken, and for
one of another length the lengths are not what is reported. -/
theorem copyFrom_of_not_listable :
    let mesh := Mesh.serial 0 1 576460752303423488 1
    let f : Field .sheet := new mesh
    (Kind.Countable .sheet mesh ∧ (#[1.0] : Array Float).size ≠ f.count) ∧
      (f.copyFrom #[1.0]).1 ≠ .error (.error (.localSizeMismatch 1 f.count)) ∧
      ∀ buffer, f.copyFrom buffer = (.error (.fault .capacityOverflow), f) := by
  intro mesh f
  have countable : Kind.Countable .sheet mesh := by
    unfold Kind.Countable
    decide
  have full : ¬Kind.Listable .sheet mesh := by decide
  have refused (buffer : Array Float) := (copiesFrom (f := f) countable buffer).full full
  refine ⟨⟨countable, by decide⟩, ?_, refused⟩
  rw [refused]
  exact nofun

end Field

end MatrixFree.Grid
