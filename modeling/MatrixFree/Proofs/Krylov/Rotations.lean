import Mathlib
import MatrixFree.Krylov.LeastSquares
import MatrixFree.Proofs.Scalar.Euclidean

/-!
# Plane rotations and triangular systems

What the pieces of the least-squares problem do over an exact field.  A rotation that is made
turns its pair onto the first axis, and a vector in the plane that it turns keeps its place
under new coordinates (`Rotation.Unit.turn`).  The rows of a system are read as left-hand sides
(`leftSides`), which back substitution makes equal to the right-hand sides unless a pivot was
taken for noise (`leftSides_backSubstitute`).
-/

namespace MatrixFree.Krylov

open Flat ExactField

variable {α : Type} [ExactField α] {n : Nat}

/-! ## One rotation -/

namespace Rotation

/-- Cosine and sine of one angle. -/
def Unit (r : Rotation α) : Prop := r.cos * r.cos + r.sin * r.sin = 1

/-- The length of a pair. -/
def radius (a b : α) : α := root (a * a + b * b)

theorem radius_nonneg (a b : α) : 0 ≤ radius a b := root_nonneg _

theorem radius_mul_self (a b : α) : radius a b * radius a b = a * a + b * b :=
  root_mul_self (add_nonneg (mul_self_nonneg a) (mul_self_nonneg b))

theorem abs_le_radius (a b : α) : |a| ≤ radius a b ∧ |b| ≤ radius a b := by
  constructor
  all_goals
    refine abs_le_of_sq_le_sq ?_ (radius_nonneg a b)
    rw [sq, sq, radius_mul_self]
  · exact le_add_of_nonneg_right (mul_self_nonneg b)
  · exact le_add_of_nonneg_left (mul_self_nonneg a)

theorem align_of_lt {a b : α} (small : radius a b < noise) : align a b = ⟨1, 0⟩ := by
  refine if_pos (decide_eq_true ?_)
  exact (abs_of_nonneg (radius_nonneg a b)).trans_lt small

theorem align_of_le {a b : α} (large : noise ≤ radius a b) :
    align a b = ⟨a / radius a b, b / radius a b⟩ := by
  refine if_neg fun small => absurd (of_decide_eq_true small) (not_lt.mpr ?_)
  exact large.trans (le_abs_self _)

/-- A pivot is as large as its radius at most. -/
theorem abs_upper_align_le (a b : α) : |(align a b).upper a b| ≤ radius a b := by
  rcases lt_or_ge (radius a b) noise with small | large
  · rw [align_of_lt small, upper, one_mul, zero_mul, add_zero]
    exact (abs_le_radius a b).1
  · rw [align_of_le large, upper, div_mul_eq_mul_div, div_mul_eq_mul_div, ← add_div,
      ← radius_mul_self, mul_self_div_self, abs_of_nonneg (radius_nonneg a b)]

section Aligned

variable {a b : α} (positive : 0 < radius a b) (large : noise ≤ radius a b)

include positive large

theorem unit_align_of_le : (align a b).Unit := by
  rw [align_of_le large, Unit]
  field_simp
  rw [sq, sq, sq, radius_mul_self]

/-- A rotation that is made turns the pair onto the first axis. -/
theorem upper_align : (align a b).upper a b = radius a b := by
  rw [align_of_le large, upper]
  field_simp
  rw [sq, sq, sq, radius_mul_self]

theorem lower_align : (align a b).lower a b = 0 := by
  rw [align_of_le large, lower]
  field_simp
  ring

end Aligned

theorem unit_align (threshold : 0 < (noise : α)) (a b : α) : (align a b).Unit := by
  rcases lt_or_ge (radius a b) noise with small | large
  · rw [align_of_lt small, Unit, mul_one, mul_zero, add_zero]
  · exact unit_align_of_le (threshold.trans_le large) large

/-- No rotation adds to what is pending, not even one that is left out. -/
theorem abs_lower_align_le (a b pending : α) : |(align a b).lower pending 0| ≤ |pending| := by
  have sine : |(align a b).sin| ≤ 1 := by
    rcases lt_or_ge (radius a b) noise with small | large
    · rw [align_of_lt small, abs_zero]
      exact zero_le_one
    · rw [align_of_le large, abs_div, abs_of_nonneg (radius_nonneg a b)]
      exact div_le_one_of_le₀ (abs_le_radius a b).2 (radius_nonneg a b)
  rw [lower, mul_zero, add_zero, abs_mul, abs_neg]
  exact mul_le_of_le_one_left (abs_nonneg pending) sine

/-! The plane of two vectors `u` and `v`, turned. -/

/-- What becomes of the first vector. -/
def axis (r : Rotation α) (u v : Fin n → α) : Fin n → α := r.cos • u + r.sin • v

/-- What becomes of the second vector. -/
def rest (r : Rotation α) (u v : Fin n → α) : Fin n → α := -r.sin • u + r.cos • v

/-- A vector in the plane, by the coordinates that the rotation gives it. -/
theorem Unit.turn {r : Rotation α} (unit : r.Unit) (a b : α) (u v : Fin n → α) :
    a • u + b • v = r.upper a b • r.axis u v + r.lower a b • r.rest u v := by
  unfold Unit at unit
  funext i
  simp only [axis, rest, Pi.add_apply, Pi.smul_apply, smul_eq_mul, upper, lower]
  linear_combination (-(a * u i) - b * v i) * unit

section Plane

variable {r : Rotation α} {u v : Fin n → α}

theorem dotProduct_axis {z : Fin n → α} (first : z ⬝ᵥ u = 0) (second : z ⬝ᵥ v = 0) :
    z ⬝ᵥ r.axis u v = 0 := by
  rw [axis, dotProduct_add, dotProduct_smul, dotProduct_smul, first, second, smul_zero, smul_zero,
    add_zero]

theorem dotProduct_rest {z : Fin n → α} (first : z ⬝ᵥ u = 0) (second : z ⬝ᵥ v = 0) :
    z ⬝ᵥ r.rest u v = 0 := by
  rw [rest, dotProduct_add, dotProduct_smul, dotProduct_smul, first, second, smul_zero, smul_zero,
    add_zero]

variable (unit : u ⬝ᵥ u = 1) (apart : u ⬝ᵥ v = 0)

include unit apart

theorem plane_dotProduct (c d c' d' : α) :
    (c • u + d • v) ⬝ᵥ (c' • u + d' • v) = c * c' + d * d' * (v ⬝ᵥ v) := by
  simp only [add_dotProduct, dotProduct_add, smul_dotProduct, dotProduct_smul, smul_eq_mul, unit,
    apart, dotProduct_comm v u]
  ring

/-- The second vector may be missing if the rotation has no sine. -/
theorem Unit.axis_dotProduct (turns : r.Unit) (sine : r.sin * (v ⬝ᵥ v) = r.sin) :
    r.axis u v ⬝ᵥ r.axis u v = 1 ∧ r.axis u v ⬝ᵥ r.rest u v = 0 := by
  unfold axis rest
  constructor
  · rw [plane_dotProduct unit apart, mul_assoc, sine]
    exact turns
  · rw [plane_dotProduct unit apart, mul_right_comm, sine]
    ring

theorem Unit.rest_dotProduct (turns : r.Unit) (unit' : v ⬝ᵥ v = 1) :
    r.rest u v ⬝ᵥ r.rest u v = 1 := by
  unfold rest
  rw [plane_dotProduct unit apart, unit', mul_one, neg_mul_neg, add_comm]
  exact turns

end Plane

/-! Sweeps. -/

theorem length_sweep {rs : List (Rotation α)} (a : α) {col : List α}
    (size : col.length = rs.length) : (sweep rs a col).1.length = rs.length := by
  induction rs generalizing a col with
  | nil => rfl
  | cons r rs ih =>
      cases col with
      | nil => cases size
      | cons b col => exact congrArg Nat.succ (ih (r.lower a b) (Nat.succ.inj size))

/-- The last rotation sees what the others leave. -/
theorem sweep_snoc {rs : List (Rotation α)} (r : Rotation α) (a : α) {col : List α} (b : α)
    (size : col.length = rs.length) :
    sweep (rs ++ [r]) a (col ++ [b]) =
      ((sweep rs a col).1 ++ [r.upper (sweep rs a col).2 b], r.lower (sweep rs a col).2 b) := by
  induction rs generalizing a col with
  | nil =>
      obtain rfl := List.length_eq_zero_iff.mp size
      rfl
  | cons r' rs ih =>
      cases col with
      | nil => cases size
      | cons b' col =>
          rw [List.cons_append, List.cons_append, sweep, sweep,
            ih (r'.lower a b') (Nat.succ.inj size)]
          rfl

/-- Rotations keep the sum of the squares. -/
theorem squares_sweep {rs : List (Rotation α)} (units : ∀ r ∈ rs, r.Unit) (a : α) {col : List α}
    (size : col.length = rs.length) :
    squares (sweep rs a col).1 + (sweep rs a col).2 * (sweep rs a col).2 =
      squares (a :: col) := by
  induction rs generalizing a col with
  | nil =>
      obtain rfl := List.length_eq_zero_iff.mp size
      exact add_comm 0 (a * a)
  | cons r rs ih =>
      cases col with
      | nil => cases size
      | cons b col =>
          obtain ⟨unit, others⟩ := List.forall_mem_cons.mp units
          have inner := ih others (r.lower a b) (Nat.succ.inj size)
          have turned : r.upper a b * r.upper a b + r.lower a b * r.lower a b = a * a + b * b := by
            unfold Unit at unit
            unfold upper lower
            linear_combination (a * a + b * b) * unit
          change squares (r.upper a b :: (sweep rs (r.lower a b) col).1) +
            (sweep rs (r.lower a b) col).2 * (sweep rs (r.lower a b) col).2 = _
          rw [squares_cons] at inner ⊢
          rw [add_assoc, inner, squares_cons, squares_cons, ← add_assoc, turned, add_assoc]

theorem sweep_zero (rs : List (Rotation α)) (k : Nat) :
    (sweep rs 0 (List.replicate k 0)).2 = 0 := by
  induction rs generalizing k with
  | nil => rfl
  | cons r rs ih =>
      cases k with
      | zero => rfl
      | succ k =>
          have lower : r.lower 0 0 = 0 := by rw [Rotation.lower, mul_zero, mul_zero, add_zero]
          rw [List.replicate_succ, sweep, lower]
          exact ih k

end Rotation

/-! ## Triangular systems -/

omit [ExactField α] in
theorem exists_snoc {ys : List α} {k : Nat} (size : ys.length = k + 1) :
    ∃ init y, ys = init ++ [y] ∧ init.length = k := by
  have some : ys ≠ [] := List.ne_nil_of_length_eq_add_one size
  refine ⟨ys.dropLast, ys.getLast some, (List.dropLast_append_getLast some).symm, ?_⟩
  rw [List.length_dropLast, size, Nat.add_sub_cancel]

namespace Row

/-- The left-hand side of the row for the unknown `y` and those `below` it. -/
def leftSide (row : Row α) (y : α) (below : List α) : α :=
  row.pivot * y + (List.zipWith (· * ·) row.right below).sum

theorem foldl_sub (right below : List α) (c : α) :
    (right.zip below).foldl (fun acc (h, y) => acc - h * y) c =
      c - (List.zipWith (· * ·) right below).sum := by
  induction right generalizing below c with
  | nil => exact (sub_zero c).symm
  | cons h right ih =>
      cases below with
      | nil => exact (sub_zero c).symm
      | cons y below =>
          rw [List.zip_cons_cons, List.foldl_cons, ih, List.zipWith_cons_cons, List.sum_cons,
            sub_sub]

theorem leftSide_solve {row : Row α} (threshold : 0 ≤ (noise : α))
    (pivot : noise < |row.pivot|) (below : List α) :
    row.leftSide (row.solve below) below = row.rhs := by
  have nonzero : row.pivot ≠ 0 := abs_pos.mp (threshold.trans_lt pivot)
  have counts : Scalar.lt Scalar.noise (Scalar.abs row.pivot) = true := decide_eq_true pivot
  simp only [leftSide, solve, counts, if_true]
  rw [mul_div_cancel₀ _ nonzero, foldl_sub, sub_add_cancel]

end Row

/-- Every row of the system reaches to the last unknown. -/
def Staircase : List (Row α) → Prop
  | [] => True
  | row :: rows => row.right.length = rows.length ∧ Staircase rows

/-- The left-hand sides of a system at its unknowns. -/
def leftSides : List (Row α) → List α → List α
  | row :: rows, y :: ys => row.leftSide y ys :: leftSides rows ys
  | _, _ => []

/-- No pivot of the system is taken for noise. -/
def Pivotal (rows : List (Row α)) : Prop := ∀ row ∈ rows, noise < |row.pivot|

variable {rows : List (Row α)} {ys : List α}

theorem length_leftSides (size : ys.length = rows.length) :
    (leftSides rows ys).length = rows.length := by
  induction rows generalizing ys with
  | nil => rfl
  | cons row rows ih =>
      cases ys with
      | nil => cases size
      | cons y ys => exact congrArg Nat.succ (ih (Nat.succ.inj size))

/-- Back substitution solves every row. -/
theorem leftSides_backSubstitute (threshold : 0 ≤ (noise : α)) (pivots : Pivotal rows) :
    leftSides rows (backSubstitute rows) = rows.map Row.rhs := by
  induction rows with
  | nil => rfl
  | cons row rows ih =>
      obtain ⟨pivot, others⟩ := List.forall_mem_cons.mp pivots
      rw [backSubstitute, leftSides, Row.leftSide_solve threshold pivot, ih others, List.map_cons]

/-- Back substitution gives the only solution. -/
theorem eq_backSubstitute (threshold : 0 ≤ (noise : α)) (pivots : Pivotal rows)
    (size : ys.length = rows.length) (solves : leftSides rows ys = rows.map Row.rhs) :
    ys = backSubstitute rows := by
  induction rows generalizing ys with
  | nil => exact List.length_eq_zero_iff.mp size
  | cons row rows ih =>
      cases ys with
      | nil => cases size
      | cons y ys =>
          obtain ⟨pivot, others⟩ := List.forall_mem_cons.mp pivots
          obtain ⟨first, rest⟩ := List.cons.inj solves
          have nonzero : row.pivot ≠ 0 := abs_pos.mp (threshold.trans_lt pivot)
          have same : row.leftSide y ys = row.leftSide (row.solve ys) ys :=
            first.trans (Row.leftSide_solve threshold pivot ys).symm
          have unknown : y = row.solve ys := mul_left_cancel₀ nonzero (add_right_cancel same)
          rw [backSubstitute, ← ih others (Nat.succ.inj size) rest, ← unknown]

/-- The left-hand sides can be chosen. -/
theorem exists_leftSides_eq (threshold : 0 ≤ (noise : α)) (pivots : Pivotal rows) {ds : List α}
    (size : ds.length = rows.length) : ∃ ys, ys.length = rows.length ∧ leftSides rows ys = ds := by
  induction rows generalizing ds with
  | nil => exact ⟨[], rfl, (List.length_eq_zero_iff.mp size).symm⟩
  | cons row rows ih =>
      cases ds with
      | nil => cases size
      | cons d ds =>
          obtain ⟨pivot, others⟩ := List.forall_mem_cons.mp pivots
          obtain ⟨ys, length, below⟩ := ih others (Nat.succ.inj size)
          refine ⟨(d - (List.zipWith (· * ·) row.right ys).sum) / row.pivot :: ys,
            congrArg Nat.succ length, ?_⟩
          have nonzero : row.pivot ≠ 0 := abs_pos.mp (threshold.trans_lt pivot)
          rw [leftSides, Row.leftSide, mul_div_cancel₀ _ nonzero, sub_add_cancel, below]

/-- A column more on the right, with one unknown more. -/
theorem leftSides_extend (stairs : Staircase rows) (size : ys.length = rows.length)
    {column : List α} (entries : column.length = rows.length) (row : Row α) (last : row.right = [])
    (y : α) :
    leftSides (List.zipWith Row.extend rows column ++ [row]) (ys ++ [y]) =
      List.zipWith (· + ·) (leftSides rows ys) (column.map (· * y)) ++ [row.pivot * y] := by
  induction rows generalizing ys column with
  | nil =>
      obtain rfl := List.length_eq_zero_iff.mp size
      simp [leftSides, Row.leftSide, last]
  | cons row' rows ih =>
      cases ys with
      | nil => cases size
      | cons y' ys =>
          cases column with
          | nil => cases entries
          | cons c column =>
              have inner : row'.right.length = ys.length :=
                stairs.1.trans (Nat.succ.inj size).symm
              have tail := ih stairs.2 (Nat.succ.inj size) (Nat.succ.inj entries)
              simp only [List.zipWith_cons_cons, List.cons_append, leftSides, List.map_cons, tail]
              congr 1
              rw [Row.leftSide, Row.leftSide, Row.extend, List.zipWith_append inner,
                List.sum_append]
              simp only [List.zipWith_cons_cons, List.zipWith_nil_left, List.sum_cons,
                List.sum_nil, add_zero]
              ring

omit [ExactField α] in
theorem length_extend {column : List α} (entries : column.length = rows.length) (row : Row α) :
    (List.zipWith Row.extend rows column ++ [row]).length = rows.length + 1 := by
  rw [List.length_append, List.length_zipWith, entries, Nat.min_self, List.length_singleton]

omit [ExactField α] in
theorem Staircase.extend (stairs : Staircase rows) {column : List α}
    (entries : column.length = rows.length) {row : Row α} (last : row.right = []) :
    Staircase (List.zipWith Row.extend rows column ++ [row]) := by
  induction rows generalizing column with
  | nil => exact ⟨congrArg List.length last, trivial⟩
  | cons row' rows ih =>
      cases column with
      | nil => cases entries
      | cons c column =>
          refine ⟨?_, ih stairs.2 (Nat.succ.inj entries)⟩
          have length := length_extend (Nat.succ.inj entries) row
          rw [Row.extend, List.length_append, stairs.1, List.length_singleton]
          exact length.symm

omit [ExactField α] in
/-- Extending rows leaves their pivots. -/
theorem forall_pivot_extend {P : α → Prop} {column : List α}
    (entries : column.length = rows.length) {row : Row α} :
    (∀ r ∈ List.zipWith Row.extend rows column ++ [row], P r.pivot) ↔
      (∀ r ∈ rows, P r.pivot) ∧ P row.pivot := by
  rw [List.forall_mem_append, List.forall_mem_singleton]
  refine and_congr_left fun _ => ?_
  induction rows generalizing column with
  | nil => simp
  | cons row' rows ih =>
      cases column with
      | nil => cases entries
      | cons c column =>
          rw [List.zipWith_cons_cons, List.forall_mem_cons, List.forall_mem_cons,
            ih (Nat.succ.inj entries)]
          rfl

omit [ExactField α] in
theorem map_rhs_extend {column : List α} (entries : column.length = rows.length) :
    (List.zipWith Row.extend rows column).map Row.rhs = rows.map Row.rhs := by
  induction rows generalizing column with
  | nil => rfl
  | cons row rows ih =>
      cases column with
      | nil => cases entries
      | cons c column =>
          rw [List.zipWith_cons_cons, List.map_cons, List.map_cons, ih (Nat.succ.inj entries)]
          rfl

end MatrixFree.Krylov
