import MatrixFree.Grid.Field

/-!
# Fields as vectors

A field with values is a mesh and a vector (`Field.ofVector`): packing a field reads the
vector off, and unpacking makes the field of it again.  The vector's entry at a number is
the field's value at the index with that number (`Field.get_ofVector`).
-/

namespace MatrixFree.Grid

variable {k : Kind} {α : Type}

/-! ## Numbers and indices -/

theorem Box.within_indexAt {e : Box.Extents} {p : Nat} (h : p < Box.count e) :
    Box.Within (Box.indexAt e p) e := by
  induction e generalizing p with
  | nil => trivial
  | cons n es ih =>
      have pos : 0 < Box.count es := Nat.pos_of_mul_pos_left (Nat.zero_lt_of_lt h)
      have outer : p / Box.count es < n := by
        rw [Nat.div_lt_iff_lt_mul pos]
        exact h
      exact ⟨outer, ih (Nat.mod_lt p pos)⟩

/-- The numbers of the stored values, also where the count of values has wrapped around. -/
theorem Kind.lt_count {m : Mesh} {p : Nat} (h : p < k.count m) :
    p < Box.count (k.extents m) ∧ p < wordCount := by
  have count_le : k.count m ≤ Box.count (k.extents m) := Nat.mod_le _ _
  have count_lt : k.count m < wordCount := Nat.mod_lt _ (by decide)
  omega

theorem Kind.position_indexAt {m : Mesh} {p : Nat} (h : p < k.count m) :
    k.position m (Box.indexAt (k.extents m) p) = p := by
  obtain ⟨inside, word⟩ := Kind.lt_count h
  unfold Kind.position
  rw [Box.offset_indexAt inside]
  exact Nat.mod_eq_of_lt word

/-- A list of indices is refused for want of room only. -/
theorem Kind.reserveIndices_error {m : Mesh} {fault : Fault}
    (h : k.reserveIndices m = .error fault) : fault = .capacityOverflow := by
  unfold Kind.reserveIndices Storage.reserve at h
  split at h
  · cases h
  · split at h
    · cases h
    · cases h
      rfl

namespace Field

/-! ## Values -/

theorem storedCount_eq (k : Kind) (mesh : Mesh) :
    storedCount k mesh =
      if Storage.HasRoom (k.count mesh) Storage.numberBytes then .ok (k.count mesh)
      else .error .capacityOverflow := by
  by_cases room : Storage.HasRoom (k.count mesh) Storage.numberBytes
  · rw [if_pos room]
    have reserved := Storage.reserve_of_hasRoom room
    simp only [storedCount, allocate, new, count, reserved, bind,
      Except.bind, pure, Except.pure]
  · rw [if_neg room]
    have refused := Storage.reserve_of_not_hasRoom room
    simp only [storedCount, allocate, new, count, refused, bind,
      Except.bind]

/-- A field with values. -/
theorem exists_eq_some {f : Field k α} (allocated : f.isAllocated = true) :
    ∃ m y, ∃ xs : Vector α (k.count m), f = ⟨m, y, some xs⟩ := by
  obtain ⟨m, y, values⟩ := f
  cases values with
  | none => cases allocated
  | some xs => exact ⟨m, y, xs, rfl⟩

theorem allocate_ok [Zero α] {f g : Field k α} (h : f.allocate = .ok g) :
    ∃ xs, g = ⟨f.mesh, f.yIndex, some xs⟩ := by
  obtain ⟨m, y, values⟩ := f
  cases values with
  | some xs => exact ⟨xs, (Except.ok.inj h).symm⟩
  | none =>
      by_cases room : Storage.HasRoom (k.count m) Storage.numberBytes
      · have reserved := Storage.reserve_of_hasRoom room
        simp only [allocate, count, reserved, bind, Except.bind, pure, Except.pure] at h
        exact ⟨_, (Except.ok.inj h).symm⟩
      · have refused := Storage.reserve_of_not_hasRoom room
        simp only [allocate, count, refused, bind, Except.bind] at h
        cases h

/-! ## Packing and unpacking -/

/-- The field with the values of a vector. -/
def ofVector (m : Mesh) (x : Vector α (k.count m)) : Field k α := ⟨m, 0, some x⟩

@[simp] theorem toVector_ofVector (m : Mesh) (x : Vector α (k.count m)) :
    (ofVector m x).toVector (k.count m) = .ok x := by
  have size : (ofVector m x).count = k.count m := rfl
  unfold toVector
  exact dif_pos size

theorem get_indexAt {m : Mesh} (y : Nat) (x : Vector α (k.count m)) {p : Nat}
    (h : p < k.count m) :
    (⟨m, y, some x⟩ : Field k α).get (Box.indexAt (k.extents m) p) = .ok x[p] := by
  have within : Box.Within (Box.indexAt (k.extents m) p) (k.extents m) :=
    Box.within_indexAt (Kind.lt_count h).1
  have here : k.position m (Box.indexAt (k.extents m) p) = p := Kind.position_indexAt h
  have stored : k.position m (Box.indexAt (k.extents m) p) < k.count m := by
    rw [here]
    exact h
  unfold get
  refine (if_pos within).trans ((dif_pos stored).trans (congrArg Except.ok ?_))
  show x[k.position m (Box.indexAt (k.extents m) p)] = x[p]
  simp only [here]

theorem get_ofVector {m : Mesh} (x : Vector α (k.count m)) {p : Nat} (h : p < k.count m) :
    (ofVector m x).get (Box.indexAt (k.extents m) p) = .ok x[p] :=
  get_indexAt 0 x h

theorem withVector_toArray (f : Field k α) {n : Nat} (x : Vector α n) :
    f.withVector x.toArray.toVector = f.withVector x := by
  rcases x with ⟨xs, rfl⟩
  rfl

/-- Unpacking a vector of the right length makes its field, if the indices can be listed. -/
theorem withVector_new (m : Mesh) (x : Vector α (k.count m)) :
    (new m : Field k α).withVector x =
      match k.reserveIndices m with
      | .error fault => .error (.fault fault)
      | .ok () => .ok (ofVector m x) := by
  have size : k.count m = (new m : Field k α).count := rfl
  unfold withVector
  show (match k.reserveIndices m with
    | .error fault => _
    | .ok () => _) = _
  cases k.reserveIndices m with
  | error fault => rfl
  | ok _ => exact dif_pos size

theorem toVector_cast {f : Field k α} {m n : Nat} {x : Vector α n} (h : f.toVector n = .ok x)
    (e : n = m) : f.toVector m = .ok (x.cast e) := by
  subst e
  exact h

/-- A field with values on a mesh can be packed. -/
theorem exists_toVector {f : Field k α} {m : Mesh} (home : f.mesh = m)
    (allocated : f.isAllocated = true) : ∃ x, f.toVector (k.count m) = .ok x := by
  subst home
  obtain ⟨values, held⟩ := Option.isSome_iff_exists.1 allocated
  have size : f.count = k.count f.mesh := rfl
  refine ⟨values, ?_⟩
  unfold toVector
  rw [held]
  exact dif_pos size

theorem toVector_of_not_isAllocated {f : Field k α} (unallocated : f.isAllocated = false) (n : Nat) :
    f.toVector n = .error .unallocated := by
  have empty : f.values = none :=
    Option.isNone_iff_eq_none.1 (Option.isSome_eq_false_iff.1 unallocated)
  unfold toVector
  rw [empty]

/-- Packing keeps the values and their order. -/
theorem toList_of_toVector {f : Field k α} {n : Nat} {x : Vector α n}
    (packed : f.toVector n = .ok x) : x.toList = f.toList := by
  obtain ⟨m, y, values⟩ := f
  cases values with
  | none => cases packed
  | some xs =>
      unfold toVector at packed
      dsimp only at packed
      split at packed
      · cases packed
        rfl
      · cases packed

end Field

end MatrixFree.Grid
