import MatrixFree.Proofs.Krylov.Rotations

/-!
# What the rotations do to a least-squares problem

The rotations act on coordinates, and their product is never formed.  Here it is, as vectors: if
a vector is given by its coordinates in some frame, then the swept coordinates are those of the
same vector in other axes, orthonormal again, and in one last direction that no row has taken
yet (`Triangular.Rotated`).  In these axes the columns of the problem are upper triangular, and
its right-hand side stands in the rows.

Adding a column adds an axis (`Rotated.push_along`).  The error that unknowns leave is then a sum of
squares, of the gaps in the rows and of what is pending (`Rotated.error_square`): no unknowns
leave less than what is pending, and those of back substitution, and no others, leave exactly that
(`Rotated.residual_eq_iff`).
-/

namespace MatrixFree.Krylov

open Flat ExactField

variable {α : Type} [ExactField α] {n : Nat}

namespace Triangular

theorem residual_eq_abs (p : Triangular α) : p.residual = |p.pending| := rfl

/-- The problem has this many columns. -/
structure Sized (p : Triangular α) (k : Nat) : Prop where
  rotations : p.rotations.length = k
  rows : p.rows.length = k

section Push

variable {p : Triangular α} {k : Nat} {col : List α} (h : p.Sized k) (size : col.length = k)

include h size

theorem Sized.length_done (a : α) : (Rotation.sweep p.rotations a col).1.length = p.rows.length :=
  (Rotation.length_sweep a (size.trans h.rotations.symm)).trans (h.rotations.trans h.rows.symm)

theorem Sized.push (a b : α) : (p.push a col b).Sized (k + 1) where
  rotations := by rw [Triangular.push, List.length_append, h.rotations, List.length_singleton]
  rows := (length_extend (h.length_done size a) _).trans (congrArg (· + 1) h.rows)

/-- The rows of the earlier columns keep their pivots. -/
theorem Sized.forall_pivot_push {P : α → Prop} (a b : α) :
    (∀ row ∈ (p.push a col b).rows, P row.pivot) ↔
      (∀ row ∈ p.rows, P row.pivot) ∧ let l := (Rotation.sweep p.rotations a col).2
        P ((Rotation.align l b).upper l b) :=
  forall_pivot_extend (h.length_done size a)

theorem Sized.pivotal_push (threshold : 0 ≤ (noise : α)) (a b : α) :
    Pivotal (p.push a col b).rows ↔
      Pivotal p.rows ∧ noise < Rotation.radius (Rotation.sweep p.rotations a col).2 b := by
  refine (h.forall_pivot_push size (P := (noise < |·|)) a b).trans (and_congr_right fun _ => ?_)
  refine ⟨fun pivot => pivot.trans_le (Rotation.abs_upper_align_le _ b), fun large => ?_⟩
  dsimp only
  rw [Rotation.upper_align (threshold.trans_lt large) large.le]
  exact large.trans_le (le_abs_self _)

end Push

/-- The rotations of `p` take coordinates in `frame` to coordinates in `axes` and in `last`, and
there the rows of `p` hold `target` and `images`. -/
structure Rotated (p : Triangular α) (frame images : List (Fin n → α)) (target : Fin n → α)
    (axes : List (Fin n → α)) (last : Fin n → α) : Prop where
  sized : p.Sized p.rows.length
  framed : frame.length = p.rows.length + 1
  counted : axes.length = p.rows.length
  imaged : images.length = p.rows.length
  stairs : Staircase p.rows
  orthonormal : IsOrthonormal axes
  apart : ∀ q ∈ axes, q ⬝ᵥ last = 0
  /-- The axes lie in the space of the frame. -/
  inside : ∀ z, (∀ v ∈ frame, v ⬝ᵥ z = 0) → (∀ q ∈ axes, q ⬝ᵥ z = 0) ∧ last ⬝ᵥ z = 0
  swept : ∀ a col, col.length = p.rows.length → combine (a :: col) frame =
    combine (Rotation.sweep p.rotations a col).1 axes +
      (Rotation.sweep p.rotations a col).2 • last
  target : target = combine (p.rows.map Row.rhs) axes + p.pending • last
  images : ∀ ys, ys.length = p.rows.length →
    combine ys images = combine (leftSides p.rows ys) axes

/-- A problem without columns. -/
theorem Rotated.start (beta : α) (v : Fin n → α) :
    Rotated (.start beta) [v] [] (beta • v) [] v where
  sized := ⟨rfl, rfl⟩
  framed := rfl
  counted := rfl
  imaged := rfl
  stairs := trivial
  orthonormal := .nil
  apart := nofun
  inside z apart := ⟨nofun, apart v (List.mem_singleton_self v)⟩
  swept a col size := by
    obtain rfl := List.length_eq_zero_iff.mp size
    exact add_comm (a • v) 0
  target := (zero_add (beta • v)).symm
  images ys size := by
    obtain rfl := List.length_eq_zero_iff.mp size
    rfl

namespace Rotated

variable {p : Triangular α} {frame images axes : List (Fin n → α)} {target last left : Fin n → α}
  {a b : α} {col : List α}

section Push

variable {v : Fin n → α} (h : Rotated p frame images target axes last)
  (size : col.length = p.rows.length)

include h

theorem swept_push {r : Rotation α} (turns : r.Unit) {ds : List α}
    (fits : ds.length = p.rows.length + 1) (c : α) :
    combine (c :: ds) (frame ++ [v]) =
      combine (Rotation.sweep (p.rotations ++ [r]) c ds).1 (axes ++ [r.axis last v]) +
        (Rotation.sweep (p.rotations ++ [r]) c ds).2 • r.rest last v := by
  obtain ⟨init, d, rfl, inner⟩ := exists_snoc fits
  have innerFits := inner.trans h.sized.rotations.symm
  have sweptAxes := (h.sized.length_done inner c).trans h.counted.symm
  have framed : (c :: init).length = frame.length := by rw [List.length_cons, inner, h.framed]
  rw [← List.cons_append, combine_snoc framed, h.swept c init inner,
    Rotation.sweep_snoc r c d innerFits, combine_snoc sweptAxes, add_assoc, turns.turn, add_assoc]

include size

theorem target_push (turns :
    (Rotation.align (Rotation.sweep p.rotations a col).2 b).Unit) :
    let r := Rotation.align (Rotation.sweep p.rotations a col).2 b
    target = combine ((p.push a col b).rows.map Row.rhs) (axes ++ [r.axis last v]) +
      (p.push a col b).pending • r.rest last v := by
  intro r
  have sizes : (p.rows.map Row.rhs).length = axes.length := by rw [List.length_map, h.counted]
  have turned := turns.turn p.pending 0 last v
  rw [zero_smul, add_zero] at turned
  change _ = combine ((List.zipWith Row.extend p.rows _ ++ [_]).map Row.rhs) _ + _
  rw [List.map_append, map_rhs_extend (h.sized.length_done size a), List.map_singleton,
    combine_snoc sizes, h.target, turned, add_assoc]
  rfl

theorem images_push {l : α} (swept : (Rotation.sweep p.rotations a col).2 = l)
    (turns : (Rotation.align l b).Unit) (flat : (Rotation.align l b).lower l b = 0)
    {ys : List α} (fits : ys.length = p.rows.length + 1) :
    combine ys (images ++ [combine (a :: col) frame + b • v]) =
      combine (leftSides (p.push a col b).rows ys)
        (axes ++ [(Rotation.align l b).axis last v]) := by
  obtain ⟨init, y, rfl, inner⟩ := exists_snoc fits
  have done := h.sized.length_done size a
  have sides := length_leftSides inner
  have turned := turns.turn l b last v
  rw [flat, zero_smul, add_zero] at turned
  have pushed : (p.push a col b).rows = List.zipWith Row.extend p.rows
      (Rotation.sweep p.rotations a col).1 ++
        [⟨(Rotation.align l b).upper l b, [], (Rotation.align l b).upper p.pending 0⟩] := by
    rw [← swept]
    rfl
  have columns : (leftSides p.rows init).length =
      ((Rotation.sweep p.rotations a col).1.map (· * y)).length := by
    rw [List.length_map, sides, done]
  have sum : (List.zipWith (· + ·) (leftSides p.rows init)
      ((Rotation.sweep p.rotations a col).1.map (· * y))).length = axes.length := by
    rw [List.length_zipWith, ← columns, Nat.min_self, sides, h.counted]
  rw [pushed, leftSides_extend h.stairs inner done _ rfl, combine_snoc sum,
    combine_zipWith_add columns, combine_map_mul, combine_snoc (inner.trans h.imaged.symm),
    h.images init inner, h.swept a col size, swept, add_assoc _ _ (b • v), turned, smul_add,
    smul_smul, mul_comm y, add_assoc]

/-- One column more, with an image that leaves the space of the frame along `v`.  The direction may
be anything orthogonal to the frame if the image does not leave it. -/
theorem push_along (unit : last ⬝ᵥ last = 1) (threshold : 0 ≤ (noise : α))
    (outside : ∀ u ∈ frame, u ⬝ᵥ v = 0) (direction : b ≠ 0 → v ⬝ᵥ v = 1)
    (pivots : Pivotal (p.push a col b).rows) :
    ∃ axes' last', Rotated (p.push a col b) (frame ++ [v])
        (images ++ [combine (a :: col) frame + b • v]) target axes' last' ∧
      (v ⬝ᵥ v = 1 → last' ⬝ᵥ last' = 1) ∧ (b = 0 → (p.push a col b).pending = 0) := by
  have large := ((h.sized.pivotal_push size threshold a b).mp pivots).2
  have done := h.sized.length_done size a
  have sized := h.sized.push size a b
  have rows := sized.rows
  obtain ⟨l, swept⟩ : ∃ l, (Rotation.sweep p.rotations a col).2 = l := ⟨_, rfl⟩
  rw [swept] at large
  have aligned := Rotation.align_of_le large.le
  have turns := Rotation.unit_align_of_le (threshold.trans_lt large) large.le
  have flat := Rotation.lower_align (threshold.trans_lt large) large.le
  obtain ⟨axesV, lastV⟩ := h.inside v outside
  -- The rotation has no sine if the image does not leave the space.
  have sine : (Rotation.align l b).sin * (v ⬝ᵥ v) = (Rotation.align l b).sin := by
    by_cases zero : b = 0
    · rw [aligned, zero, zero_div, zero_mul]
    · rw [direction zero, mul_one]
  obtain ⟨unitQ, apartQ⟩ := turns.axis_dotProduct unit lastV sine
  have axesQ : ∀ u ∈ axes, u ⬝ᵥ (Rotation.align l b).axis last v = 0 :=
    fun u hu => Rotation.dotProduct_axis (h.apart u hu) (axesV u hu)
  refine ⟨axes ++ [(Rotation.align l b).axis last v], (Rotation.align l b).rest last v, ?_,
    fun unitV => turns.rest_dotProduct unit lastV unitV, fun zero => ?_⟩
  swap
  · change (Rotation.align _ b).lower p.pending 0 = 0
    rw [swept, aligned, Rotation.lower, zero, zero_div, neg_zero, zero_mul, mul_zero, add_zero]
  refine
    { sized := rows ▸ sized, framed := ?_, counted := ?_, imaged := ?_,
      stairs := h.stairs.extend done rfl, orthonormal := h.orthonormal.snoc axesQ unitQ,
      apart := ?_, inside := ?_, swept := ?_, target := ?_, images := ?_ }
  · rw [rows, List.length_append, h.framed, List.length_singleton]
  · rw [rows, List.length_append, h.counted, List.length_singleton]
  · rw [rows, List.length_append, h.imaged, List.length_singleton]
  · refine List.forall_mem_append.mpr ⟨fun u hu => ?_, List.forall_mem_singleton.mpr apartQ⟩
    exact Rotation.dotProduct_rest (h.apart u hu) (axesV u hu)
  · intro z outsideZ
    obtain ⟨old, new⟩ := List.forall_mem_append.mp outsideZ
    obtain ⟨axesZ, lastZ⟩ := h.inside z old
    have vZ := List.forall_mem_singleton.mp new
    rw [dotProduct_comm] at lastZ vZ
    refine ⟨List.forall_mem_append.mpr ⟨axesZ, List.forall_mem_singleton.mpr ?_⟩, ?_⟩
    · rw [dotProduct_comm]
      exact Rotation.dotProduct_axis lastZ vZ
    · rw [dotProduct_comm]
      exact Rotation.dotProduct_rest lastZ vZ
  · intro c ds fits
    rw [rows] at fits
    have sweptDs := h.swept_push (v := v) turns fits c
    rw [← swept] at sweptDs ⊢
    exact sweptDs
  · rw [← swept] at turns ⊢
    exact h.target_push size turns
  · intro ys fits
    exact h.images_push size swept turns flat (fits.trans rows)

/-- One column more, with an image that leaves the space of the frame by `left`. -/
theorem push (unit : last ⬝ᵥ last = 1) (threshold : 0 ≤ (noise : α))
    (outside : ∀ v ∈ frame, v ⬝ᵥ left = 0) (square : left ⬝ᵥ left = b * b)
    (pivots : Pivotal (p.push a col b).rows) :
    ∃ axes' last', Rotated (p.push a col b) (frame ++ [b⁻¹ • left])
        (images ++ [combine (a :: col) frame + left]) target axes' last' ∧
      (b ≠ 0 ∧ last' ⬝ᵥ last' = 1 ∨ b = 0 ∧ (p.push a col b).pending = 0) := by
  have direction (nonzero : b ≠ 0) : (b⁻¹ • left) ⬝ᵥ (b⁻¹ • left) = 1 :=
    inv_smul_dotProduct_self square nonzero
  have apart (u : Fin n → α) (hu : u ∈ frame) : u ⬝ᵥ (b⁻¹ • left) = 0 := by
    rw [dotProduct_smul, outside u hu, smul_zero]
  obtain ⟨axes', last', rotated, unit', spent⟩ :=
    h.push_along size unit threshold apart direction pivots
  rw [smul_inv_smul_of_square square] at rotated
  refine ⟨axes', last', rotated, ?_⟩
  by_cases zero : b = 0
  · exact Or.inr ⟨zero, spent zero⟩
  · exact Or.inl ⟨zero, unit' (direction zero)⟩

end Push

/-- Some unknowns clear a new column down to its last coordinate. -/
theorem exists_cleared (h : Rotated p frame images target axes last)
    (size : col.length = p.rows.length) (threshold : 0 ≤ (noise : α)) (pivots : Pivotal p.rows)
    (a : α) : ∃ ys, ys.length = p.rows.length ∧
      combine ys images + combine (a :: col) frame =
        (Rotation.sweep p.rotations a col).2 • last := by
  have done := h.sized.length_done size a
  obtain ⟨ys, fits, sides⟩ := exists_leftSides_eq threshold pivots
    ((List.length_map (· * -1)).trans done)
  refine ⟨ys, fits, ?_⟩
  rw [h.images ys fits, sides, combine_map_mul, h.swept a col size, neg_one_smul,
    neg_add_cancel_left]

/-! What unknowns leave of the target. -/

section Error

variable (h : Rotated p frame images target axes last)

include h

theorem error_eq {ys : List α} (size : ys.length = p.rows.length) :
    target - combine ys images =
      combine (List.zipWith (· - ·) (p.rows.map Row.rhs) (leftSides p.rows ys)) axes +
        p.pending • last := by
  have sizes : (p.rows.map Row.rhs).length = (leftSides p.rows ys).length := by
    rw [List.length_map, length_leftSides size]
  rw [combine_zipWith_sub sizes, h.images ys size, h.target]
  abel

variable (known : last ⬝ᵥ last = 1 ∨ p.pending = 0)

include known

omit h in
theorem pending_square : (p.pending • last) ⬝ᵥ (p.pending • last) = p.pending * p.pending := by
  rw [dotProduct_smul, smul_dotProduct, smul_eq_mul, smul_eq_mul]
  rcases known with unit | zero
  · rw [unit, mul_one]
  · rw [zero, zero_mul, zero_mul]

/-- The square of a vector with these coordinates in the axes, and what is pending in the last
direction. -/
theorem coordinates_square {cs : List α} (size : cs.length = p.rows.length) :
    (combine cs axes + p.pending • last) ⬝ᵥ (combine cs axes + p.pending • last) =
      squares cs + p.pending * p.pending := by
  have across := combine_dotProduct (z := p.pending • last)
    (fun q hq => by rw [dotProduct_smul, h.apart q hq, smul_zero]) cs
  rw [add_dotProduct_self across,
    h.orthonormal.combine_dotProduct_self (size.trans h.counted.symm), pending_square known]

/-- The rotations keep the square of the right-hand side. -/
theorem target_square :
    target ⬝ᵥ target = squares (p.rows.map Row.rhs) + p.pending * p.pending := by
  rw [h.target, h.coordinates_square known (List.length_map _)]

/-- The square of the error is the sum of the squares of the gaps in the rows and of what is
pending. -/
theorem error_square {ys : List α} (size : ys.length = p.rows.length) :
    (target - combine ys images) ⬝ᵥ (target - combine ys images) =
      squares (List.zipWith (· - ·) (p.rows.map Row.rhs) (leftSides p.rows ys)) +
        p.pending * p.pending := by
  rw [h.error_eq size, h.coordinates_square known]
  rw [List.length_zipWith, List.length_map, length_leftSides size, Nat.min_self]

/-- No unknowns leave less than what is pending. -/
theorem residual_le {ys : List α} (size : ys.length = p.rows.length) :
    p.residual ≤ euclidean (target - combine ys images) := by
  rw [residual_eq_abs, le_euclidean_iff (abs_nonneg _), abs_mul_abs_self,
    h.error_square known size]
  exact le_add_of_nonneg_left (squares_nonneg _)

/-- Back substitution leaves what is pending. -/
theorem residual_eq (threshold : 0 ≤ (noise : α)) (pivots : Pivotal p.rows) :
    p.residual = euclidean (target - combine p.solution images) := by
  have solved := leftSides_backSubstitute threshold pivots
  have size : p.solution.length = p.rows.length := length_backSubstitute p.rows
  have sides := h.images p.solution size
  rw [Triangular.solution, solved] at sides
  rw [residual_eq_abs, Triangular.solution, sides, h.target, add_sub_cancel_left]
  refine (euclidean_eq (abs_nonneg _) ?_).symm
  rw [pending_square known, abs_mul_abs_self]

/-- Only back substitution leaves no more than what is pending. -/
theorem residual_eq_iff (threshold : 0 ≤ (noise : α)) (pivots : Pivotal p.rows) {ys : List α}
    (size : ys.length = p.rows.length) :
    p.residual = euclidean (target - combine ys images) ↔ ys = p.solution := by
  refine ⟨fun least => ?_, fun solution => solution ▸ h.residual_eq known threshold pivots⟩
  have square := h.error_square known size
  rw [← euclidean_square, ← least, residual_eq_abs, abs_mul_abs_self] at square
  have sides := length_leftSides size
  refine eq_backSubstitute threshold pivots size ?_
  exact (eq_of_squares_sub ((List.length_map _).trans sides.symm) (right_eq_add.mp square)).symm

end Error

end Rotated

/-- A column more never makes the estimate larger. -/
theorem residual_push_le (p : Triangular α) (a : α) (col : List α) (b : α) :
    (p.push a col b).residual ≤ p.residual :=
  Rotation.abs_lower_align_le (Rotation.sweep p.rotations a col).2 b p.pending

/-- What a rotation leaves of the estimate is the share of the entry that it removes. -/
theorem residual_push_mul_radius (p : Triangular α) (a : α) (col : List α) (b : α)
    (positive : 0 < Rotation.radius (Rotation.sweep p.rotations a col).2 b)
    (large : noise ≤ Rotation.radius (Rotation.sweep p.rotations a col).2 b) :
    (p.push a col b).residual * Rotation.radius (Rotation.sweep p.rotations a col).2 b =
      |b| * p.residual := by
  change |(Rotation.align _ b).lower p.pending 0| * _ = |b| * |p.pending|
  rw [Rotation.align_of_le large, Rotation.lower, mul_zero, add_zero, abs_mul, abs_neg, abs_div,
    abs_of_pos positive, mul_right_comm, div_mul_cancel₀ _ positive.ne']

end Triangular

end MatrixFree.Krylov
