import Mathlib
import MatrixFree.Proofs.Scalar.Exact

/-!
# Euclidean geometry over exact scalars

Inner products of flat vectors are dot products of their entries, and `euclidean` is the norm
that belongs to them: it is never negative, it vanishes only at zero, and it compares as the
squares do.  The root of an exact field is determined by its square, so a magnitude is known as
soon as its square is.
-/

namespace MatrixFree

namespace ExactField

variable {α : Type} [ExactField α]

/-- A root is the one number that is not negative and has the square. -/
theorem root_eq {x c : α} (nonneg : 0 ≤ c) (square : x = c * c) : root x = c := by
  have square' : root x * root x = c * c := by
    rw [root_mul_self (square ▸ mul_self_nonneg c), square]
  exact (mul_self_eq_mul_self_iff.mp square').elim id fun opposite => by
    have below : root x ≤ 0 := opposite ▸ neg_nonpos.mpr nonneg
    have zero : root x = 0 := le_antisymm below (root_nonneg x)
    rw [zero] at opposite ⊢
    exact (neg_eq_zero.mp opposite.symm).symm

end ExactField

namespace Flat

open ExactField

variable {α : Type} [ExactField α] {n : Nat}

omit [ExactField α] in
theorem entries_injective {x y : Vector α n} (same : entries x = entries y) : x = y := by
  ext i bound
  exact congrFun same ⟨i, bound⟩

theorem dot_eq_dotProduct (x y : Vector α n) : dot x y = entries x ⬝ᵥ entries y := dot_eq_sum x y

theorem dotProduct_self_nonneg (v : Fin n → α) : 0 ≤ v ⬝ᵥ v :=
  Finset.sum_nonneg fun i _ => mul_self_nonneg (v i)

theorem dotProduct_self_pos {v : Fin n → α} (nonzero : v ≠ 0) : 0 < v ⬝ᵥ v :=
  (dotProduct_self_nonneg v).lt_of_ne fun zero => nonzero (dotProduct_self_eq_zero.mp zero.symm)

/-- Pythagoras. -/
theorem add_dotProduct_self {u v : Fin n → α} (apart : u ⬝ᵥ v = 0) :
    (u + v) ⬝ᵥ (u + v) = u ⬝ᵥ u + v ⬝ᵥ v := by
  rw [add_dotProduct, dotProduct_add, dotProduct_add, dotProduct_comm v u, apart, add_zero,
    zero_add]

theorem euclidean_square (v : Fin n → α) : euclidean v * euclidean v = v ⬝ᵥ v := by
  rw [euclidean_mul_self]
  simp only [sq]
  rfl

theorem euclidean_nonneg (v : Fin n → α) : 0 ≤ euclidean v := root_nonneg _

theorem euclidean_eq {v : Fin n → α} {c : α} (nonneg : 0 ≤ c) (square : v ⬝ᵥ v = c * c) :
    euclidean v = c := by
  refine root_eq nonneg ?_
  rw [← square]
  simp only [sq]
  rfl

theorem euclidean_eq_zero_iff {v : Fin n → α} : euclidean v = 0 ↔ v = 0 := by
  rw [← dotProduct_self_eq_zero, ← euclidean_square, mul_self_eq_zero]

theorem euclidean_smul (c : α) (v : Fin n → α) : euclidean (c • v) = |c| * euclidean v := by
  refine euclidean_eq (mul_nonneg (abs_nonneg c) (euclidean_nonneg v)) ?_
  rw [smul_dotProduct, dotProduct_smul, ← euclidean_square, mul_mul_mul_comm, abs_mul_abs_self,
    smul_eq_mul, smul_eq_mul, mul_assoc]

/-- A vector is as long as its direction, so many times. -/
theorem smul_inv_smul_of_square {v : Fin n → α} {c : α} (square : v ⬝ᵥ v = c * c) :
    c • c⁻¹ • v = v := by
  by_cases zero : c = 0
  · rw [zero, mul_zero] at square
    rw [zero, zero_smul, dotProduct_self_eq_zero.mp square]
  · rw [smul_smul, mul_inv_cancel₀ zero, one_smul]

theorem inv_smul_dotProduct_self {v : Fin n → α} {c : α} (square : v ⬝ᵥ v = c * c)
    (nonzero : c ≠ 0) : (c⁻¹ • v) ⬝ᵥ (c⁻¹ • v) = 1 := by
  rw [dotProduct_smul, smul_dotProduct, square, smul_eq_mul, smul_eq_mul]
  field_simp

theorem entries_divBy (x : Vector α n) (c : α) : entries (divBy x c) = c⁻¹ • entries x := by
  funext i
  simp [entries, divBy, div_eq_inv_mul]

theorem le_euclidean_iff {v : Fin n → α} {c : α} (nonneg : 0 ≤ c) :
    c ≤ euclidean v ↔ c * c ≤ v ⬝ᵥ v := by
  rw [mul_self_le_mul_self_iff nonneg (euclidean_nonneg v), euclidean_square]

theorem euclidean_le_iff {v : Fin n → α} {c : α} (nonneg : 0 ≤ c) :
    euclidean v ≤ c ↔ v ⬝ᵥ v ≤ c * c := by
  rw [mul_self_le_mul_self_iff (euclidean_nonneg v) nonneg, euclidean_square]

/-! ## Lists of vectors -/

/-- The combination of vectors with the coefficients `cs`. -/
def combine (cs : List α) (vs : List (Fin n → α)) : Fin n → α :=
  (List.zipWith (· • ·) cs vs).sum

@[simp] theorem combine_nil (vs : List (Fin n → α)) : combine [] vs = 0 := rfl

@[simp] theorem combine_cons (c : α) (cs : List α) (v : Fin n → α) (vs : List (Fin n → α)) :
    combine (c :: cs) (v :: vs) = c • v + combine cs vs := List.sum_cons

theorem combine_append {cs : List α} {vs : List (Fin n → α)} (size : cs.length = vs.length)
    (ds : List α) (ws : List (Fin n → α)) :
    combine (cs ++ ds) (vs ++ ws) = combine cs vs + combine ds ws := by
  unfold combine
  rw [List.zipWith_append size, List.sum_append]

theorem combine_snoc {cs : List α} {vs : List (Fin n → α)} (size : cs.length = vs.length)
    (c : α) (v : Fin n → α) : combine (cs ++ [c]) (vs ++ [v]) = combine cs vs + c • v := by
  rw [combine_append size, combine_cons, combine_nil, add_zero]

theorem combine_zipWith_add {cs ds : List α} (size : cs.length = ds.length)
    (vs : List (Fin n → α)) :
    combine (List.zipWith (· + ·) cs ds) vs = combine cs vs + combine ds vs := by
  induction cs generalizing ds vs with
  | nil =>
      obtain rfl := List.length_eq_zero_iff.mp size.symm
      simp
  | cons c cs ih =>
      cases ds with
      | nil => cases size
      | cons d ds =>
          cases vs with
          | nil => simp [combine]
          | cons v vs =>
              rw [List.zipWith_cons_cons, combine_cons, combine_cons, combine_cons,
                ih (Nat.succ.inj size), add_smul]
              abel

/-- Vectors without a coefficient do not matter. -/
theorem combine_append_of_le {cs : List α} {vs : List (Fin n → α)} (few : cs.length ≤ vs.length)
    (ws : List (Fin n → α)) : combine cs (vs ++ ws) = combine cs vs := by
  induction cs generalizing vs with
  | nil => rfl
  | cons c cs ih =>
      cases vs with
      | nil => exact absurd few (Nat.not_succ_le_zero _)
      | cons v vs =>
          rw [List.cons_append, combine_cons, combine_cons, ih (Nat.le_of_succ_le_succ few)]

theorem combine_replicate_zero (k : Nat) (vs : List (Fin n → α)) :
    combine (List.replicate k 0) vs = 0 := by
  induction k generalizing vs with
  | zero => rfl
  | succ k ih =>
      cases vs with
      | nil => rfl
      | cons v vs => rw [List.replicate_succ, combine_cons, ih, zero_smul, add_zero]

theorem map_combine (L : (Fin n → α) →ₗ[α] (Fin n → α)) (cs : List α) (vs : List (Fin n → α)) :
    L (combine cs vs) = combine cs (vs.map L) := by
  induction cs generalizing vs with
  | nil => exact map_zero L
  | cons c cs ih =>
      cases vs with
      | nil => exact map_zero L
      | cons v vs => rw [combine_cons, List.map_cons, combine_cons, map_add, map_smul, ih]

theorem combine_map_mul (cs : List α) (vs : List (Fin n → α)) (y : α) :
    combine (cs.map (· * y)) vs = y • combine cs vs := by
  induction cs generalizing vs with
  | nil => exact (smul_zero y).symm
  | cons c cs ih =>
      cases vs with
      | nil => exact (smul_zero y).symm
      | cons v vs =>
          rw [List.map_cons, combine_cons, combine_cons, ih, smul_add, smul_smul, mul_comm]

theorem combine_zipWith_sub {cs ds : List α} (size : cs.length = ds.length)
    (vs : List (Fin n → α)) :
    combine (List.zipWith (· - ·) cs ds) vs = combine cs vs - combine ds vs := by
  have opposite : List.zipWith (· - ·) cs ds = List.zipWith (· + ·) cs (ds.map (· * -1)) := by
    rw [List.zipWith_map_right]
    simp only [mul_neg_one, sub_eq_add_neg]
  rw [opposite, combine_zipWith_add (size.trans (List.length_map _).symm), combine_map_mul,
    neg_one_smul, sub_eq_add_neg]

/-- What is orthogonal to all vectors is orthogonal to their combinations. -/
theorem combine_dotProduct {vs : List (Fin n → α)} {z : Fin n → α} (apart : ∀ v ∈ vs, v ⬝ᵥ z = 0)
    (cs : List α) : combine cs vs ⬝ᵥ z = 0 := by
  induction vs generalizing cs with
  | nil => cases cs <;> exact zero_dotProduct z
  | cons v vs ih =>
      cases cs with
      | nil => exact zero_dotProduct z
      | cons c cs =>
          obtain ⟨first, rest⟩ := List.forall_mem_cons.mp apart
          rw [combine_cons, add_dotProduct, smul_dotProduct, first, ih rest, smul_zero, add_zero]

/-- The sum of the squares. -/
def squares (cs : List α) : α := (cs.map fun c => c * c).sum

@[simp] theorem squares_cons (c : α) (cs : List α) : squares (c :: cs) = c * c + squares cs :=
  List.sum_cons

theorem squares_snoc (cs : List α) (c : α) : squares (cs ++ [c]) = squares cs + c * c := by
  rw [squares, List.map_append, List.sum_append, List.map_singleton, List.sum_singleton]
  rfl

theorem squares_nonneg (cs : List α) : 0 ≤ squares cs := by
  induction cs with
  | nil => exact le_rfl
  | cons c cs ih =>
      rw [squares_cons]
      exact add_nonneg (mul_self_nonneg c) ih

/-- Coordinates whose gaps have no squares are equal. -/
theorem eq_of_squares_sub {cs ds : List α} (size : cs.length = ds.length)
    (vanish : squares (List.zipWith (· - ·) cs ds) = 0) : cs = ds := by
  induction cs generalizing ds with
  | nil => exact (List.length_eq_zero_iff.mp size.symm).symm
  | cons c cs ih =>
      cases ds with
      | nil => cases size
      | cons d ds =>
          rw [List.zipWith_cons_cons, squares_cons,
            add_eq_zero_iff_of_nonneg (mul_self_nonneg _) (squares_nonneg _)] at vanish
          rw [sub_eq_zero.mp (mul_self_eq_zero.mp vanish.1), ih (Nat.succ.inj size) vanish.2]

/-- Vectors of length one that are orthogonal to each other. -/
structure IsOrthonormal (vs : List (Fin n → α)) : Prop where
  apart : vs.Pairwise fun u v => u ⬝ᵥ v = 0
  unit : ∀ v ∈ vs, v ⬝ᵥ v = 1

namespace IsOrthonormal

variable {vs : List (Fin n → α)} {v : Fin n → α}

theorem tail (h : IsOrthonormal (v :: vs)) : IsOrthonormal vs :=
  ⟨(List.pairwise_cons.mp h.apart).2, (List.forall_mem_cons.mp h.unit).2⟩

theorem head (h : IsOrthonormal (v :: vs)) : v ⬝ᵥ v = 1 ∧ ∀ u ∈ vs, v ⬝ᵥ u = 0 :=
  ⟨h.unit v List.mem_cons_self, (List.pairwise_cons.mp h.apart).1⟩

theorem nil : IsOrthonormal ([] : List (Fin n → α)) := ⟨.nil, nofun⟩

theorem snoc (h : IsOrthonormal vs) (apart : ∀ u ∈ vs, u ⬝ᵥ v = 0) (unit : v ⬝ᵥ v = 1) :
    IsOrthonormal (vs ++ [v]) := by
  refine ⟨List.pairwise_append.mpr ⟨h.apart, List.pairwise_singleton _ v, ?_⟩, ?_⟩
  · intro u hu w hw
    rw [List.mem_singleton.mp hw]
    exact apart u hu
  · intro u hu
    rcases List.mem_append.mp hu with old | new
    · exact h.unit u old
    · rw [List.mem_singleton.mp new]
      exact unit

/-- The coefficients are coordinates. -/
theorem combine_dotProduct_self (h : IsOrthonormal vs) {cs : List α}
    (size : cs.length = vs.length) : combine cs vs ⬝ᵥ combine cs vs = squares cs := by
  induction vs generalizing cs with
  | nil =>
      obtain rfl := List.length_eq_zero_iff.mp size
      exact zero_dotProduct _
  | cons v vs ih =>
      cases cs with
      | nil => cases size
      | cons c cs =>
          obtain ⟨unit, first⟩ := h.head
          have across : combine cs vs ⬝ᵥ v = 0 :=
            combine_dotProduct (fun u hu => dotProduct_comm u v ▸ first u hu) cs
          have apart : (c • v) ⬝ᵥ combine cs vs = 0 := by
            rw [smul_dotProduct, dotProduct_comm, across, smul_zero]
          rw [combine_cons, add_dotProduct_self apart, ih h.tail (Nat.succ.inj size),
            smul_dotProduct, dotProduct_smul, unit, smul_eq_mul, smul_eq_mul, mul_one,
            squares_cons]

end IsOrthonormal

end Flat

end MatrixFree
