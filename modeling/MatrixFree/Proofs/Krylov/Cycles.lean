import MatrixFree.Proofs.Krylov.Axes
import MatrixFree.Proofs.Krylov.Exact
import MatrixFree.Proofs.Krylov.Termination

/-!
# Cycles of minimal residuals over exact scalars

Over exact scalars the vectors of a cycle are what their names say.  Two passes of
`orthogonalize` leave a vector that is orthogonal to the basis, with components that sum to the
rest of it, so the basis stays orthonormal and the operator acts on it by the columns of a
Hessenberg matrix (`Cycle.Hessenberg`).  The triangular problem is made of the same columns by
rotations, and `Triangular.Rotated` says what its rows mean over the basis.

`Cycle.Framed` puts this together and is kept by `Cycle.grow` for as long as there is a next
vector to grow by (`Cycle.Framed.grow`).  Where no pivot is taken for noise, it says that the
estimate is the least residual that the cycle can reach, and that `Cycle.improve` reaches it
(`Cycle.Framed.exact`).
-/

namespace MatrixFree.Krylov

open Flat ExactField

variable {σ ε α : Type} [ExactField α] {n : Nat} {L : (Fin n → α) →ₗ[α] (Fin n → α)}

namespace MinimalResidual

/-! ## Orthogonalization -/

/-- The components and what is left make up the vector, whatever the basis is. -/
theorem orthogonalize_sum (basis : List (Vector α n)) (w : Vector α n) :
    entries w = combine (orthogonalize basis w).1 (basis.map entries) +
      entries (orthogonalize basis w).2 := by
  induction basis generalizing w with
  | nil => exact (zero_add (entries w)).symm
  | cons v basis ih =>
      have inner := ih (subMul w (dot w v) v)
      rw [entries_subMul, sub_eq_iff_eq_add] at inner
      simp only [orthogonalize, List.map_cons, combine_cons]
      rw [inner]
      abel

/-- What is left of a vector is orthogonal to an orthonormal basis. -/
theorem orthogonalize_apart {basis : List (Vector α n)}
    (orthonormal : IsOrthonormal (basis.map entries)) (w : Vector α n) :
    ∀ v ∈ basis.map entries, v ⬝ᵥ entries (orthogonalize basis w).2 = 0 := by
  induction basis generalizing w with
  | nil => nofun
  | cons v basis ih =>
      obtain ⟨unit, apart⟩ := orthonormal.head
      have inner := orthogonalize_sum basis (subMul w (dot w v) v)
      refine List.forall_mem_cons.mpr ⟨?_, ih orthonormal.tail (subMul w (dot w v) v)⟩
      have across := combine_dotProduct (z := entries v)
        (fun u hu => dotProduct_comm u (entries v) ▸ apart u hu)
        (orthogonalize basis (subMul w (dot w v) v)).1
      have along : entries v ⬝ᵥ entries (subMul w (dot w v) v) = 0 := by
        rw [entries_subMul, dotProduct_sub, dotProduct_smul, unit, dot_eq_dotProduct, smul_eq_mul,
          mul_one, dotProduct_comm, sub_self]
      rw [inner, dotProduct_add, dotProduct_comm, across, zero_add] at along
      exact along

variable (basis : List (Vector α n)) (w : Vector α n)

theorem orthogonalizeTwice_sum :
    entries w = combine (orthogonalizeTwice basis w).1 (basis.map entries) +
      entries (orthogonalizeTwice basis w).2 := by
  have sizes : (orthogonalize basis w).1.length =
      (orthogonalize basis (orthogonalize basis w).2).1.length := by
    rw [length_orthogonalize, length_orthogonalize]
  simp only [orthogonalizeTwice]
  rw [combine_zipWith_add sizes, add_assoc, ← orthogonalize_sum, ← orthogonalize_sum]

theorem orthogonalizeTwice_apart {basis : List (Vector α n)}
    (orthonormal : IsOrthonormal (basis.map entries)) (w : Vector α n) :
    ∀ v ∈ basis.map entries, v ⬝ᵥ entries (orthogonalizeTwice basis w).2 = 0 :=
  orthogonalize_apart orthonormal (orthogonalize basis w).2

end MinimalResidual

/-! ## Columns -/

/-- A column of the Hessenberg matrix: the components along the basis, and the norm of what is
left of them. -/
structure Column (α : Type) where
  upper : List α
  below : α

namespace Triangular

/-- Add a column. -/
def pushColumn (p : Triangular α) (c : Column α) : Triangular α :=
  p.push (c.upper.headD 0) c.upper.tail c.below

/-- The problem with these columns, before any rotation, and right-hand side `beta` times the
first axis. -/
def ofColumns (beta : α) (columns : List (Column α)) : Triangular α :=
  columns.foldl pushColumn (.start beta)

theorem ofColumns_snoc (beta : α) (columns : List (Column α)) (c : Column α) :
    ofColumns beta (columns ++ [c]) = (ofColumns beta columns).pushColumn c := by
  rw [ofColumns, List.foldl_append]
  rfl

end Triangular

namespace MinimalResidual

/-! ## The invariant of a cycle -/

/-- The basis vectors, and the one that comes next. -/
def Cycle.frame (c : Cycle α n) : List (Fin n → α) :=
  c.basis.map entries ++ [entries (divBy c.next c.scale)]

/-- The operator takes each basis vector to the combination of the frame with the coefficients
of its column, which reach one vector further. -/
structure Cycle.Hessenberg (L : (Fin n → α) →ₗ[α] (Fin n → α)) (c : Cycle α n)
    (columns : List (Column α)) : Prop where
  count : columns.length = c.basis.length
  reach : ∀ (i : Nat) column, columns[i]? = some column → column.upper.length = i + 1
  image : ∀ (i : Nat) v column, (c.basis.map entries)[i]? = some v → columns[i]? = some column →
    L v = combine (column.upper ++ [column.below]) c.frame

/-- A cycle that started from the residual `e`. -/
structure Cycle.Framed (L : (Fin n → α) →ₗ[α] (Fin n → α)) (e : Fin n → α) (c : Cycle α n) :
    Prop where
  orthonormal : IsOrthonormal (c.basis.map entries)
  outside : ∀ v ∈ c.basis.map entries, v ⬝ᵥ entries c.next = 0
  length : c.scale = euclidean (entries c.next)
  first : e = combine [euclidean e] c.frame
  sized : c.problem.Sized c.basis.length
  columns : ∃ columns, c.problem = .ofColumns (euclidean e) columns ∧ c.Hessenberg L columns
  rotated : Pivotal c.problem.rows → ∃ axes last,
    c.problem.Rotated c.frame ((c.basis.map entries).map L) e axes last ∧
      (c.scale ≠ 0 ∧ last ⬝ᵥ last = 1 ∨ c.scale = 0 ∧ c.problem.pending = 0)

theorem Cycle.frame_start (r : Vector α n) (beta : α) :
    (Cycle.start r beta).frame = [beta⁻¹ • entries r] :=
  congrArg (fun v => [v]) (entries_divBy r beta)

theorem Cycle.Framed.start (L : (Fin n → α) →ₗ[α] (Fin n → α)) (r : Vector α n) :
    (Cycle.start r (norm r)).Framed L (entries r) := by
  have square := (euclidean_square (entries r)).symm
  have whole := smul_inv_smul_of_square square
  refine
    { orthonormal := .nil, outside := nofun, length := norm_eq_euclidean r, first := ?_,
      sized := ⟨rfl, rfl⟩, columns := ⟨[], ?_, rfl, nofun, nofun⟩, rotated := fun _ => ?_ }
  · rw [Cycle.frame_start, norm_eq_euclidean, combine_cons, combine_nil, add_zero, whole]
  · rw [← norm_eq_euclidean]
    rfl
  · have rotated := Triangular.Rotated.start (euclidean (entries r))
      ((euclidean (entries r))⁻¹ • entries r)
    rw [whole] at rotated
    rw [Cycle.frame_start, norm_eq_euclidean]
    refine ⟨_, _, rotated, ?_⟩
    by_cases zero : euclidean (entries r) = 0
    · exact Or.inr ⟨zero, zero⟩
    · exact Or.inl ⟨zero, inv_smul_dotProduct_self square zero⟩

/-- The cycle that `grow` makes of `c` with an image `w`, by the new column. -/
structure Cycle.Extends (c g : Cycle α n) (w : Fin n → α) (a : α) (col : List α) : Prop where
  size : col.length = c.basis.length
  basis : g.basis.map entries = c.frame
  problem : g.problem = c.problem.push a col g.scale
  sum : w = combine (a :: col) c.frame + entries g.next
  length : g.scale = euclidean (entries g.next)
  apart : IsOrthonormal c.frame → ∀ v ∈ c.frame, v ⬝ᵥ entries g.next = 0

theorem Cycle.extends_grow (c : Cycle α n) (w : Vector α n) :
    ∃ a col, c.Extends (c.grow (divBy c.next c.scale) w).cycle (entries w) a col := by
  have length := length_orthogonalizeTwice (c.basis ++ [divBy c.next c.scale]) w
  rw [List.length_append, List.length_singleton] at length
  obtain ⟨a, col, components⟩ := List.exists_cons_of_length_eq_add_one length
  have basis : (c.basis ++ [divBy c.next c.scale]).map entries = c.frame := by
    rw [List.map_append, List.map_singleton]
    rfl
  refine ⟨a, col,
    { size := ?_, basis := basis, problem := ?_, sum := ?_, length := norm_eq_euclidean _,
      apart := ?_ }⟩
  · rw [components] at length
    exact Nat.succ.inj length
  · simp only [Cycle.grow, components, List.headD_cons, List.tail_cons]
  · rw [← basis, ← components]
    exact orthogonalizeTwice_sum _ w
  · rw [← basis]
    exact fun orthonormal => orthogonalizeTwice_apart orthonormal w

variable {c g : Cycle α n} {e v w : Fin n → α} {a : α} {col : List α}

theorem Cycle.Extends.frame (h : c.Extends g w a col) :
    g.frame = c.frame ++ [g.scale⁻¹ • entries g.next] := by
  rw [Cycle.frame, h.basis, entries_divBy]

theorem Cycle.length_frame (c : Cycle α n) : c.frame.length = c.basis.length + 1 := by
  rw [Cycle.frame, List.length_append, List.length_map, List.length_singleton]

theorem Cycle.Extends.next (h : c.Extends g w a col) :
    entries g.next = g.scale • g.scale⁻¹ • entries g.next := by
  rw [h.length]
  exact (smul_inv_smul_of_square (euclidean_square _).symm).symm

theorem Cycle.Extends.length_basis (h : c.Extends g w a col) :
    g.basis.length = c.basis.length + 1 := by
  rw [← c.length_frame, ← h.basis, List.length_map]

theorem getElem?_snoc {X : Type} {xs : List X} {x y : X} {i : Nat}
    (entry : (xs ++ [x])[i]? = some y) : xs[i]? = some y ∨ i = xs.length ∧ y = x := by
  grind

/-- The new column, beside the old ones. -/
theorem Cycle.Hessenberg.grow {columns : List (Column α)} (h : c.Hessenberg L columns)
    (extended : c.Extends g w a col) (image : w = L (entries (divBy c.next c.scale))) :
    g.Hessenberg L (columns ++ [⟨a :: col, g.scale⟩]) := by
  have framed := c.length_frame
  refine ⟨?_, ?_, ?_⟩
  · rw [List.length_append, List.length_singleton, h.count, extended.length_basis]
  · intro i column entry
    rcases getElem?_snoc entry with old | ⟨rfl, rfl⟩
    · exact h.reach i column old
    · rw [List.length_cons, extended.size, h.count]
  · intro i v' column vector entry
    rw [extended.basis, Cycle.frame] at vector
    rw [extended.frame]
    rcases getElem?_snoc entry with old | ⟨rfl, rfl⟩
    · have before := (List.getElem?_eq_some_iff.mp old).1
      rw [List.getElem?_append_left (by rwa [List.length_map, ← h.count])] at vector
      have reach := h.reach i column old
      rw [h.image i v' column vector old, combine_append_of_le]
      rw [List.length_append, List.length_singleton, reach, framed, ← h.count]
      omega
    · rw [h.count, ← List.length_map, List.getElem?_concat_length, Option.some.injEq] at vector
      have reach : (a :: col).length = c.frame.length := by
        rw [List.length_cons, extended.size, framed]
      rw [← vector, ← image, extended.sum, combine_snoc reach, ← extended.next]

theorem Cycle.Framed.orthonormal_frame (h : c.Framed L e) (alive : c.scale ≠ 0) :
    IsOrthonormal c.frame := by
  have unit : entries (divBy c.next c.scale) ⬝ᵥ entries (divBy c.next c.scale) = 1 := by
    rw [entries_divBy, h.length]
    exact inv_smul_dotProduct_self (euclidean_square _).symm (h.length ▸ alive)
  refine h.orthonormal.snoc (fun v hv => ?_) unit
  rw [entries_divBy, dotProduct_smul, h.outside v hv, smul_zero]

theorem Cycle.Framed.euclidean_vector (h : c.Framed L e) (alive : c.scale ≠ 0) :
    euclidean (entries (divBy c.next c.scale)) = 1 := by
  have unit := (h.orthonormal_frame alive).unit _
    (List.mem_append_right _ (List.mem_singleton_self _))
  exact euclidean_eq zero_le_one (unit.trans (mul_one 1).symm)

/-- A cycle that has not stopped growing keeps its invariant. -/
theorem Cycle.Framed.grow (h : c.Framed L e) (alive : c.scale ≠ 0) (threshold : 0 ≤ (noise : α))
    (extended : c.Extends g w a col) (image : w = L (entries (divBy c.next c.scale))) :
    g.Framed L e := by
  have orthonormal := h.orthonormal_frame alive
  have outside := extended.apart orthonormal
  obtain ⟨columns, problem, hessenberg⟩ := h.columns
  have sized := h.sized.push extended.size a g.scale
  refine
    { orthonormal := extended.basis ▸ orthonormal, outside := extended.basis ▸ outside,
      length := extended.length, first := ?_, sized := ?_,
      columns := ⟨columns ++ [⟨a :: col, g.scale⟩], ?_, hessenberg.grow extended image⟩,
      rotated := fun pivots => ?_ }
  · have reach : [euclidean e].length ≤ c.frame.length := by
      rw [c.length_frame]
      exact Nat.le_add_left 1 _
    rw [extended.frame, combine_append_of_le reach]
    exact h.first
  · rw [extended.problem, extended.length_basis]
    exact sized
  · rw [extended.problem, problem, Triangular.ofColumns_snoc]
    rfl
  · rw [extended.problem] at pivots ⊢
    have before := ((h.sized.pivotal_push extended.size threshold a g.scale).mp pivots).1
    obtain ⟨axes, last, rotated, ⟨-, unitLast⟩ | ⟨dead, -⟩⟩ := h.rotated before
    · have square : entries g.next ⬝ᵥ entries g.next = g.scale * g.scale := by
        rw [extended.length, euclidean_square]
      obtain ⟨axes', last', rotated', known⟩ := rotated.push
        (extended.size.trans h.sized.rows.symm) unitLast threshold outside square pivots
      rw [← extended.frame, ← extended.sum, image] at rotated'
      have images : (g.basis.map entries).map L =
          (c.basis.map entries).map L ++ [L (entries (divBy c.next c.scale))] := by
        rw [extended.basis, Cycle.frame, List.map_append, List.map_singleton]
      rw [images]
      exact ⟨axes', last', rotated', known⟩
    · exact absurd dead alive

/-- A pivot is as large as the operator is on unit vectors at least. -/
theorem Cycle.Framed.le_radius (h : c.Framed L e) (alive : c.scale ≠ 0)
    (threshold : 0 ≤ (noise : α)) (extended : c.Extends g w a col)
    (image : w = L (entries (divBy c.next c.scale))) (pivots : Pivotal c.problem.rows) {m : α}
    (nonneg : 0 ≤ m) (bounded : ∀ v, m * euclidean v ≤ euclidean (L v)) :
    m ≤ Rotation.radius (Rotation.sweep c.problem.rotations a col).2 g.scale := by
  obtain ⟨axes, last, rotated, ⟨-, unit⟩ | ⟨dead, -⟩⟩ := h.rotated pivots
  swap
  · exact absurd dead alive
  have orthonormal := h.orthonormal_frame alive
  obtain ⟨ys, fits, cleared⟩ := rotated.exists_cleared
    (extended.size.trans h.sized.rows.symm) threshold pivots a
  -- The vector with these coordinates, and one along the new basis vector.
  obtain ⟨z, hz⟩ : ∃ z, z = combine (ys ++ [1]) c.frame := ⟨_, rfl⟩
  have sized : ys.length = (c.basis.map entries).length := by
    rw [fits, h.sized.rows, List.length_map]
  have long : 1 ≤ euclidean z := by
    have size : (ys ++ [1]).length = c.frame.length := by
      rw [List.length_append, sized, c.length_frame, List.length_map, List.length_singleton]
    rw [le_euclidean_iff zero_le_one, hz, orthonormal.combine_dotProduct_self size, squares_snoc]
    exact le_add_of_nonneg_left (squares_nonneg ys)
  have moved : L z = (Rotation.sweep c.problem.rotations a col).2 • last + entries g.next := by
    rw [hz, Cycle.frame, combine_snoc sized, one_smul, map_add, map_combine, ← image,
      extended.sum, ← add_assoc, cleared]
  have apart : ((Rotation.sweep c.problem.rotations a col).2 • last) ⬝ᵥ entries g.next = 0 := by
    rw [smul_dotProduct, (rotated.inside _ (extended.apart orthonormal)).2, smul_zero]
  have square : L z ⬝ᵥ L z =
      Rotation.radius (Rotation.sweep c.problem.rotations a col).2 g.scale *
        Rotation.radius (Rotation.sweep c.problem.rotations a col).2 g.scale := by
    rw [moved, Rotation.radius_mul_self, add_dotProduct_self apart, smul_dotProduct,
      dotProduct_smul, unit, smul_eq_mul, smul_eq_mul, mul_one, extended.length, euclidean_square]
  calc m = m * 1 := (mul_one m).symm
    _ ≤ m * euclidean z := mul_le_mul_of_nonneg_left long nonneg
    _ ≤ euclidean (L z) := bounded z
    _ = _ := euclidean_eq (Rotation.radius_nonneg _ _) square

/-- An operator that is above the threshold on unit vectors has no pivot in the noise. -/
theorem Cycle.Framed.pivotal_grow (h : c.Framed L e) (alive : c.scale ≠ 0)
    (threshold : 0 ≤ (noise : α)) (extended : c.Extends g w a col)
    (image : w = L (entries (divBy c.next c.scale))) (pivots : Pivotal c.problem.rows) {m : α}
    (above : noise < m) (bounded : ∀ v, m * euclidean v ≤ euclidean (L v)) :
    Pivotal g.problem.rows := by
  have nonneg : 0 ≤ m := threshold.trans above.le
  have radius := h.le_radius alive threshold extended image pivots nonneg bounded
  rw [extended.problem]
  exact (h.sized.pivotal_push extended.size threshold a g.scale).mpr
    ⟨pivots, above.trans_le radius⟩

/-! A cycle whose next vector is zero has nothing to grow by. -/

theorem orthogonalize_zero {w : Vector α n} (zero : entries w = 0) (basis : List (Vector α n)) :
    (orthogonalize basis w).1 = List.replicate basis.length 0 ∧
      entries (orthogonalize basis w).2 = 0 := by
  induction basis generalizing w with
  | nil => exact ⟨rfl, zero⟩
  | cons v basis ih =>
      have first : dot w v = 0 := by rw [dot_eq_dotProduct, zero, zero_dotProduct]
      have same : entries (subMul w (dot w v) v) = 0 := by
        rw [entries_subMul, zero, first, zero_smul, sub_zero]
      obtain ⟨components, left⟩ := ih same
      refine ⟨?_, left⟩
      change dot w v :: (orthogonalize basis (subMul w (dot w v) v)).1 = _
      rw [components, first]
      rfl

theorem orthogonalizeTwice_zero {w : Vector α n} (zero : entries w = 0)
    (basis : List (Vector α n)) :
    (orthogonalizeTwice basis w).1 = List.replicate basis.length 0 ∧
      entries (orthogonalizeTwice basis w).2 = 0 := by
  obtain ⟨first, left⟩ := orthogonalize_zero zero basis
  obtain ⟨second, rest⟩ := orthogonalize_zero left basis
  refine ⟨?_, rest⟩
  simp only [orthogonalizeTwice, first, second, List.zipWith_replicate, Nat.min_self, add_zero]

section Blank

variable {w : Vector α n} (zero : entries w = 0) (c : Cycle α n) (v : Vector α n)

include zero

theorem scale_grow_zero : (c.grow v w).cycle.scale = 0 := by
  change norm (orthogonalizeTwice (c.basis ++ [v]) w).2 = 0
  rw [norm_eq_euclidean, (orthogonalizeTwice_zero zero _).2, euclidean_eq_zero_iff]

theorem not_pivotal_grow_zero (threshold : 0 ≤ (noise : α)) :
    ¬Pivotal (c.grow v w).cycle.problem.rows := by
  intro pivots
  obtain ⟨components, -⟩ := orthogonalizeTwice_zero zero (c.basis ++ [v])
  have scale := scale_grow_zero zero c v
  have pivot := pivots _ (List.mem_append_right _ (List.mem_singleton_self _))
  change norm (orthogonalizeTwice (c.basis ++ [v]) w).2 = 0 at scale
  change noise < |(Rotation.align _ (norm (orthogonalizeTwice (c.basis ++ [v]) w).2)).upper
    (Rotation.sweep _ ((orthogonalizeTwice (c.basis ++ [v]) w).1.headD 0)
      (orthogonalizeTwice (c.basis ++ [v]) w).1.tail).2
    (norm (orthogonalizeTwice (c.basis ++ [v]) w).2)| at pivot
  rw [scale, components, List.length_append, List.length_singleton, List.replicate_succ,
    List.headD_cons, List.tail_cons, Rotation.sweep_zero, Rotation.upper, mul_zero, mul_zero,
    add_zero, abs_zero] at pivot
  exact absurd pivot (not_lt.mpr threshold)

end Blank

/-! ## What a cycle says about its residual -/

theorem entries_improve (c : Cycle α n) (x : Vector α n) :
    entries (c.improve x) = entries x + combine c.problem.solution (c.basis.map entries) := by
  unfold Cycle.improve
  generalize c.problem.solution = ys
  generalize c.basis = vs
  induction ys generalizing vs x with
  | nil => exact (add_zero (entries x)).symm
  | cons y ys ih =>
      cases vs with
      | nil => exact (add_zero (entries x)).symm
      | cons v vs =>
          rw [List.zip_cons_cons, List.foldl_cons, ih, List.map_cons, combine_cons, ← add_assoc,
            ← entries_addMul, ← correct_eq_addMul]

/-- What the estimate of a cycle from the iterate `x` says: the residual that the cycle can
reach, and that it does reach, over an orthonormal basis that starts with the residual of `x`. -/
structure Cycle.Exact (L : (Fin n → α) →ₗ[α] (Fin n → α)) (b x : Vector α n) (c : Cycle α n) :
    Prop where
  orthonormal : IsOrthonormal (c.basis.map entries)
  first : residualOf L b x = combine [euclidean (residualOf L b x)] c.frame
  columns : ∃ columns, c.problem = .ofColumns (euclidean (residualOf L b x)) columns ∧
    c.Hessenberg L columns
  attained : c.problem.residual = euclidean (residualOf L b (c.improve x))
  least : ∀ ys, ys.length = c.basis.length → c.problem.residual ≤
    euclidean (entries b - L (entries x + combine ys (c.basis.map entries)))

theorem Cycle.Framed.exact {b x : Vector α n} (h : c.Framed L (residualOf L b x))
    (threshold : 0 ≤ (noise : α)) (pivots : Pivotal c.problem.rows) : c.Exact L b x := by
  obtain ⟨axes, last, rotated, known⟩ := h.rotated pivots
  have known : last ⬝ᵥ last = 1 ∨ c.problem.pending = 0 := known.imp And.right And.right
  have moved (ys : List α) : entries b - L (entries x + combine ys (c.basis.map entries)) =
      residualOf L b x - combine ys ((c.basis.map entries).map L) := by
    rw [map_add, map_combine, residualOf, sub_sub]
  refine ⟨h.orthonormal, h.first, h.columns, ?_, fun ys size => ?_⟩
  · rw [rotated.residual_eq known threshold pivots, ← moved, ← entries_improve]
    rfl
  · rw [moved]
    exact rotated.residual_le known (size.trans h.sized.rows.symm)

end MinimalResidual

end MatrixFree.Krylov
