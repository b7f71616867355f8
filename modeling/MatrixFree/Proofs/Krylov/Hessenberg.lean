import MatrixFree.Proofs.Krylov.Axes

/-!
# The least-squares problem of a Hessenberg matrix

A matrix with a row more than it has columns, and with zeros below its first subdiagonal, goes into
a triangular problem one column after the other (`Triangular.ofMatrix`).  Over an exact field the
coordinates that the rotations start from are those of the space in which the columns of the matrix
live, so `Triangular.Rotated` holds over the coordinate axes, and says what the problem has become:

* the rotations keep the length of the right-hand side (`square_ofMatrix`);
* no vector leaves a smaller error than what is pending (`residual_ofMatrix_le`);
* the unknowns of back substitution, and no other vector, leave exactly that
  (`residual_ofMatrix_eq_iff`).

The pivots are a matter of hypothesis: none is taken for noise.  Then no rotation was left out
either, because a radius is as large as the pivot that it gives.  It is enough that no entry right
below the diagonal is in the noise (`pivotal_ofMatrix`).
-/

namespace MatrixFree

open Matrix

variable {α : Type} {m n : Nat}

/-! ## Entries by number -/

theorem map_range_succ (f : Nat → α) (k : Nat) :
    (List.range (k + 1)).map f = (List.range k).map f ++ [f k] := by
  rw [List.range_succ, List.map_append, List.map_singleton]

section Entry

variable [Zero α]

/-- The entries of a vector, with zeros after them. -/
def padded (v : Fin n → α) (i : Nat) : α := if h : i < n then v ⟨i, h⟩ else 0

@[simp] theorem padded_val (v : Fin n → α) (i : Fin n) : padded v i = v i := dif_pos i.isLt

/-- The unknowns in the order of their numbers. -/
theorem map_padded (v : Fin n → α) : (List.range n).map (padded v) = List.ofFn v := by
  refine List.ext_getElem (by simp) fun i inside _ => ?_
  have bound : i < n := by simpa using inside
  simp [padded, bound]

/-- The entries of a matrix, with zeros around them. -/
def entry (H : Matrix (Fin m) (Fin n) α) (i j : Nat) : α := padded (fun k => padded (H k) j) i

@[simp] theorem entry_val (H : Matrix (Fin m) (Fin n) α) (i : Fin m) (j : Fin n) :
    entry H i j = H i j := by
  rw [entry, padded_val, padded_val]

/-- Nothing stands below the first subdiagonal. -/
def IsHessenberg (H : Matrix (Fin (m + 1)) (Fin m) α) : Prop :=
  ∀ (i : Fin (m + 1)) (j : Fin m), (j : Nat) + 1 < i → H i j = 0

theorem IsHessenberg.entry {H : Matrix (Fin (m + 1)) (Fin m) α} (hessenberg : IsHessenberg H)
    {i j : Nat} (below : j + 1 < i) : entry H i j = 0 := by
  unfold MatrixFree.entry padded
  split
  · next row =>
      split
      · next column => exact hessenberg ⟨i, row⟩ ⟨j, column⟩ below
      · rfl
  · rfl

end Entry

namespace Krylov

/-- The problem of the first columns of a matrix, with right-hand side `beta` times the first
axis. -/
def Triangular.ofMatrix [Scalar α] (beta : α) (H : Matrix (Fin (m + 1)) (Fin m) α) :
    Nat → Triangular α
  | 0 => .start beta
  | k + 1 =>
    (ofMatrix beta H k).push (entry H 0 k) ((List.range' 1 k).map (entry H · k)) (entry H (k + 1) k)

open Flat ExactField

variable [ExactField α] {H : Matrix (Fin (m + 1)) (Fin m) α} {beta : α}

/-! ## Coordinate axes -/

/-- The axis with the number `i`. -/
def axisAt (i : Nat) : Fin n → α := fun k => if (k : Nat) = i then 1 else 0

theorem axisAt_of_lt {i : Nat} (inside : i < n) :
    (axisAt i : Fin n → α) = Pi.single ⟨i, inside⟩ 1 := by
  funext k
  simp only [axisAt, Pi.single_apply, Fin.ext_iff]

theorem axisAt_dotProduct {i : Nat} (inside : i < n) (v : Fin n → α) :
    axisAt i ⬝ᵥ v = v ⟨i, inside⟩ := by
  rw [axisAt_of_lt inside, single_one_dotProduct]

theorem axisAt_dotProduct_self {i : Nat} (inside : i < n) :
    (axisAt i : Fin n → α) ⬝ᵥ axisAt i = 1 := by
  rw [axisAt_dotProduct inside]
  exact if_pos rfl

theorem axisAt_apart {i k : Nat} (inside : i < n) (other : i ≠ k) :
    (axisAt i : Fin n → α) ⬝ᵥ axisAt k = 0 := by
  rw [axisAt_dotProduct inside]
  exact if_neg other

theorem smul_axisAt_zero (beta : α) : beta • (axisAt 0 : Fin (m + 1) → α) = Pi.single 0 beta := by
  rw [axisAt_of_lt (Nat.succ_pos m), ← Pi.single_smul', smul_eq_mul, mul_one]
  rfl

theorem combine_map_range (c : Nat → α) (v : Nat → Fin n → α) (k : Nat) :
    combine ((List.range k).map c) ((List.range k).map v) = ∑ i ∈ Finset.range k, c i • v i := by
  induction k with
  | zero => rfl
  | succ k ih =>
      have size : ((List.range k).map c).length = ((List.range k).map v).length := by
        rw [List.length_map, List.length_map]
      rw [map_range_succ, map_range_succ, combine_snoc size, ih, Finset.sum_range_succ]

/-- The coordinates of a vector are its entries. -/
theorem combine_axisAt (v : Fin n → α) {k : Nat} (short : ∀ i, k ≤ i → padded v i = 0) :
    combine ((List.range k).map (padded v)) ((List.range k).map axisAt) = v := by
  rw [combine_map_range]
  funext i
  rw [Finset.sum_apply]
  simp only [Pi.smul_apply, smul_eq_mul, axisAt, mul_ite, mul_one, mul_zero, Finset.sum_ite_eq,
    Finset.mem_range, padded_val]
  split
  · rfl
  · next outside => rw [← short i (Nat.not_lt.mp outside), padded_val]

/-! ## The rotations on coordinates -/

/-- Column `j` of a matrix. -/
def columnAt (H : Matrix (Fin (m + 1)) (Fin m) α) (j : Nat) : Fin (m + 1) → α :=
  fun i => padded (H i) j

/-- A column reaches one axis further than the columns before it. -/
theorem columnAt_eq (hessenberg : IsHessenberg H) (k : Nat) :
    columnAt H k =
      combine (entry H 0 k :: (List.range' 1 k).map (entry H · k))
          ((List.range (k + 1)).map axisAt) +
        entry H (k + 1) k • axisAt (k + 1) := by
  have coordinates : entry H 0 k :: (List.range' 1 k).map (entry H · k) =
      (List.range (k + 1)).map (entry H · k) := by
    rw [List.range_eq_range', List.range'_succ, List.map_cons]
  have size : ((List.range (k + 1)).map (entry H · k)).length =
      ((List.range (k + 1)).map (axisAt (n := m + 1) (α := α))).length := by
    rw [List.length_map, List.length_map]
  have whole := combine_axisAt (columnAt H k) (k := k + 2) fun _ below => hessenberg.entry below
  rw [map_range_succ _ (k + 1), map_range_succ _ (k + 1)] at whole
  rw [coordinates, ← whole]
  exact combine_snoc size _ _

namespace Triangular

omit [ExactField α] in
theorem length_middle [Zero α] (H : Matrix (Fin (m + 1)) (Fin m) α) (k : Nat) :
    ((List.range' 1 k).map (entry H · k)).length = k := by
  rw [List.length_map, List.length_range']

theorem sized_ofMatrix (beta : α) (H : Matrix (Fin (m + 1)) (Fin m) α) (k : Nat) :
    (ofMatrix beta H k).Sized k := by
  induction k with
  | zero => exact ⟨rfl, rfl⟩
  | succ k ih => exact ih.push (length_middle H k) _ _

/-- A pivot is in the noise only if the entry below the diagonal is. -/
theorem pivotal_ofMatrix (threshold : 0 ≤ (noise : α)) (beta : α)
    (large : ∀ j : Fin m, noise < |H j.succ j|) : Pivotal (ofMatrix beta H m).rows := by
  suffices first : ∀ k ≤ m, Pivotal (ofMatrix beta H k).rows from first m le_rfl
  intro k hk
  induction k with
  | zero => nofun
  | succ k ih =>
      have below : entry H (k + 1) k = H (Fin.succ ⟨k, hk⟩) ⟨k, hk⟩ :=
        entry_val H (Fin.succ ⟨k, hk⟩) ⟨k, hk⟩
      refine ((sized_ofMatrix beta H k).pivotal_push (length_middle H k) threshold _ _).mpr
        ⟨ih (Nat.le_of_succ_le hk), ?_⟩
      rw [below]
      exact (large ⟨k, hk⟩).trans_le (Rotation.abs_le_radius _ _).2

/-- What the rotations do to the first columns of a Hessenberg matrix, over the coordinate axes. -/
theorem rotated_ofMatrix (threshold : 0 ≤ (noise : α)) (hessenberg : IsHessenberg H) {k : Nat}
    (hk : k ≤ m) (pivots : Pivotal (ofMatrix beta H k).rows) :
    ∃ axes last, Rotated (ofMatrix beta H k) ((List.range (k + 1)).map axisAt)
        ((List.range k).map (columnAt H)) (beta • axisAt 0) axes last ∧
      last ⬝ᵥ last = 1 := by
  induction k with
  | zero => exact ⟨[], axisAt 0, .start beta (axisAt 0), axisAt_dotProduct_self (Nat.succ_pos m)⟩
  | succ k ih =>
      have sized := sized_ofMatrix beta H k
      have before := ((sized.pivotal_push (length_middle H k) threshold _ _).mp pivots).1
      obtain ⟨axes, last, rotated, unit⟩ := ih (Nat.le_of_succ_le hk) before
      have inside : k + 1 < m + 1 := Nat.succ_lt_succ hk
      have outside : ∀ u ∈ (List.range (k + 1)).map (axisAt (n := m + 1) (α := α)),
          u ⬝ᵥ axisAt (k + 1) = 0 := by
        intro u mem
        obtain ⟨i, number, rfl⟩ := List.mem_map.mp mem
        have below := List.mem_range.mp number
        exact axisAt_apart (below.trans inside) below.ne
      have self := axisAt_dotProduct_self (α := α) inside
      obtain ⟨axes', last', rotated', unit', -⟩ := rotated.push_along
        ((length_middle H k).trans sized.rows.symm) unit threshold outside (fun _ => self) pivots
      rw [← columnAt_eq hessenberg, ← map_range_succ, ← map_range_succ] at rotated'
      exact ⟨axes', last', rotated', unit' self⟩

/-! ## The least-squares problem -/

theorem combine_columnAt (H : Matrix (Fin (m + 1)) (Fin m) α) (z : Fin m → α) :
    combine (List.ofFn z) ((List.range m).map (columnAt H)) = H *ᵥ z := by
  rw [← map_padded, combine_map_range, Finset.sum_range]
  funext i
  simp [columnAt, mulVec, dotProduct, mul_comm]

section LeastSquares

variable (threshold : 0 ≤ (noise : α)) (hessenberg : IsHessenberg H)
  (pivots : Pivotal (ofMatrix beta H m).rows)

include threshold hessenberg pivots

theorem square_ofMatrix :
    squares ((ofMatrix beta H m).rows.map Row.rhs) +
      (ofMatrix beta H m).pending * (ofMatrix beta H m).pending = beta * beta := by
  obtain ⟨axes, last, rotated, unit⟩ := rotated_ofMatrix threshold hessenberg le_rfl pivots
  rw [← rotated.target_square (.inl unit), smul_axisAt_zero, dotProduct_single, Pi.single_eq_same]

theorem residual_ofMatrix_le (z : Fin m → α) :
    (ofMatrix beta H m).residual ≤ euclidean (Pi.single 0 beta - H *ᵥ z) := by
  obtain ⟨axes, last, rotated, unit⟩ := rotated_ofMatrix threshold hessenberg le_rfl pivots
  rw [← combine_columnAt, ← smul_axisAt_zero]
  exact rotated.residual_le (.inl unit) (by rw [List.length_ofFn, (sized_ofMatrix beta H m).rows])

theorem residual_ofMatrix_eq_iff (z : Fin m → α) :
    (ofMatrix beta H m).residual = euclidean (Pi.single 0 beta - H *ᵥ z) ↔
      List.ofFn z = (ofMatrix beta H m).solution := by
  obtain ⟨axes, last, rotated, unit⟩ := rotated_ofMatrix threshold hessenberg le_rfl pivots
  rw [← combine_columnAt, ← smul_axisAt_zero]
  exact rotated.residual_eq_iff (.inl unit) threshold pivots
    (by rw [List.length_ofFn, (sized_ofMatrix beta H m).rows])

end LeastSquares

end Triangular

end Krylov

end MatrixFree
