/-!
# Boxes of indices

A box is the list of its extents. An index lies in it if it has a coordinate below each extent. The
indices of a box are numbered from zero in lexicographic order, the last coordinate running fastest:
`offset` is the number of an index, `indexAt` the index of a number, and the two undo each other on the
box (`offset_indexAt`, `indexAt_offset`). `indices` lists the box by these numbers.
-/

namespace MatrixFree.Grid.Box

/-- Extents in each direction, outermost first. -/
abbrev Extents := List Nat

abbrev Index := List Nat

/-- The number of indices. -/
def count : Extents → Nat
  | [] => 1
  | n :: es => n * count es

/-- The number of indices that differ in the last coordinate only. -/
def rowLength (e : Extents) : Nat := e.getLastD 1

/-- One coordinate below each extent. -/
def Within : Index → Extents → Prop
  | [], [] => True
  | i :: is, n :: es => i < n ∧ Within is es
  | _, _ => False

instance Within.decide : (i : Index) → (e : Extents) → Decidable (Within i e)
  | [], [] => inferInstanceAs (Decidable True)
  | i :: is, n :: es =>
    have := Within.decide is es
    inferInstanceAs (Decidable (i < n ∧ Within is es))
  | [], _ :: _ => inferInstanceAs (Decidable False)
  | _ :: _, [] => inferInstanceAs (Decidable False)

/-- The number of an index. -/
def offset : Extents → Index → Nat
  | _ :: es, i :: is => i * count es + offset es is
  | _, _ => 0

/-- The index of a number. -/
def indexAt : Extents → Nat → Index
  | [], _ => []
  | _ :: es, p => p / count es :: indexAt es (p % count es)

/-- The indices in lexicographic order. -/
def indices (e : Extents) : List Index := (List.range (count e)).map (indexAt e)

theorem offset_lt {e : Extents} {i : Index} (h : Within i e) : offset e i < count e := by
  induction e generalizing i with
  | nil => cases i with
    | nil => simp [offset, count]
    | cons => exact h.elim
  | cons n es ih => cases i with
    | nil => exact h.elim
    | cons i is =>
      obtain ⟨hi, hs⟩ := h
      have inner := ih hs
      have outer : (i + 1) * count es ≤ n * count es := Nat.mul_le_mul_right _ hi
      simp only [offset, count]
      rw [Nat.add_one_mul] at outer
      omega

theorem offset_indexAt {e : Extents} {p : Nat} (h : p < count e) : offset e (indexAt e p) = p := by
  induction e generalizing p with
  | nil => simp only [count] at h; simp only [offset]; omega
  | cons n es ih =>
    have pos : 0 < count es := Nat.pos_of_mul_pos_left (Nat.zero_lt_of_lt h)
    simp only [offset, indexAt]
    rw [ih (Nat.mod_lt p pos), Nat.mul_comm]
    exact Nat.div_add_mod p (count es)

theorem indexAt_offset {e : Extents} {i : Index} (h : Within i e) : indexAt e (offset e i) = i := by
  induction e generalizing i with
  | nil => cases i with
    | nil => rfl
    | cons => exact h.elim
  | cons n es ih => cases i with
    | nil => exact h.elim
    | cons i is =>
      obtain ⟨_, hs⟩ := h
      have inner := offset_lt hs
      have pos : 0 < count es := Nat.zero_lt_of_lt inner
      simp only [offset, indexAt]
      rw [Nat.mul_comm i, Nat.mul_add_div pos, Nat.mul_add_mod, Nat.div_eq_of_lt inner,
        Nat.mod_eq_of_lt inner, ih hs, Nat.add_zero]

theorem length_indices (e : Extents) : (indices e).length = count e := by simp [indices]

end MatrixFree.Grid.Box
