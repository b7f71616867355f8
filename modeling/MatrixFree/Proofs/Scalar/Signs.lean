import MatrixFree.Proofs.Scalar.Counts
import MatrixFree.Proofs.Scalar.NaN

/-!
# Zeros and signs of binary64 numbers

Two numbers equal zero, and `Scalar.same` finds both (`same_zero_iff`).  What is not negative stays
so under sums, products and square roots, as long as no NaN comes in, and a square is never
negative.  So the norm of a vector without a NaN is a number that is not negative
(`Flat.zero_le_norm`), however large its entries are.
-/

namespace MatrixFree

namespace Binary64

open Float.Model Float.Model.UnpackedFloat

/-! ## Unpacked numbers -/

/-- A number that is not below zero. -/
inductive Nonneg : UnpackedFloat → Prop where
  | zero (s : Sign) : Nonneg (.zero s)
  | finite (m : Nat) (e : Int) (pos : 0 < m) : Nonneg (.finite .positive m e pos)
  | infinity : Nonneg (.infinity .positive)

theorem nonneg_iff {u : UnpackedFloat} :
    Nonneg u ↔ u.isNaN = false ∧ rank (.zero .positive) ≤ rank u := by
  constructor
  · rintro (s | ⟨m, e, pos⟩ | -)
    · exact ⟨rfl, le_refl _⟩
    · refine ⟨rfl, ?_⟩
      simp only [rank, Prod.Lex.toLex_le_toLex]
      exact .inl one_pos
    · refine ⟨rfl, ?_⟩
      simp only [rank, Prod.Lex.toLex_le_toLex]
      exact .inl two_pos
  · rintro ⟨number, above⟩
    rcases u with (_ | _) | _ | s | ⟨_ | _, m, e, pos⟩
    · simp [rank, Prod.Lex.toLex_le_toLex] at above
    · exact .infinity
    · cases number
    · exact .zero s
    · simp [rank, Prod.Lex.toLex_le_toLex] at above
    · exact .finite m e pos

/-- Without the sign bit a number is not negative. -/
theorem nonneg_unpack {b : BitVec 64} (sign : @unpackSign .binary64 b = 0#1)
    (number : (unpack .binary64 b).isNaN = false) : Nonneg (unpack .binary64 b) := by
  unfold UnpackedFloat.unpack at number ⊢
  rw [sign] at number ⊢
  dsimp only at number ⊢
  split_ifs at number ⊢
  · exact .infinity
  · cases number
  · exact .zero _
  · exact .finite _ _ _
  · exact .finite _ _ _

theorem Nonneg.unpack_pack {u : UnpackedFloat} (h : Nonneg u) :
    Nonneg (unpack .binary64 (pack .binary64 u)) := by
  have number : (unpack .binary64 (pack .binary64 u)).isNaN = false := by
    rw [isNaN_unpack_pack]
    exact (nonneg_iff.mp h).1
  cases h with
  | zero s => cases s <;> exact .zero _
  | infinity => exact nonneg_unpack (unpackSign_packComponents .positive _ _) number
  | finite m e pos =>
      refine nonneg_unpack ?_ number
      unfold UnpackedFloat.pack
      dsimp only
      split_ifs
      all_goals exact unpackSign_packComponents .positive _ _

theorem nonneg_roundWithAccuracy (m : Nat) (e : Int) (accuracy : Accuracy) :
    Nonneg (roundWithAccuracy .binary64 .positive m e accuracy) := by
  unfold roundWithAccuracy
  dsimp only
  split_ifs
  · exact .zero _
  · exact .finite _ _ _

theorem nonneg_normalize (m : Nat) (e : Int) :
    Nonneg (UnpackedFloat.normalize .binary64 m e .positive) := by
  unfold UnpackedFloat.normalize
  split
  · next below =>
    rw [Int.compare_eq_lt] at below
    omega
  · exact .zero _
  · exact nonneg_roundWithAccuracy _ _ _

theorem Nonneg.add {u v : UnpackedFloat} (hu : Nonneg u) (hv : Nonneg v) :
    Nonneg (UnpackedFloat.add .binary64 u v) := by
  cases hu with
  | zero s =>
      cases hv with
      | zero s' =>
          simp only [UnpackedFloat.add]
          split <;> exact .zero _
      | finite m e pos => exact .finite m e pos
      | infinity => exact .infinity
  | infinity => cases hv <;> exact .infinity
  | finite m e pos =>
      cases hv with
      | zero s' => exact .finite m e pos
      | infinity => exact .infinity
      | finite m' e' pos' => exact nonneg_normalize (_ + _) _

/-- A square is not negative. -/
theorem nonneg_mul_self {u : UnpackedFloat} (number : u.isNaN = false) :
    Nonneg (UnpackedFloat.mul .binary64 u u) := by
  rcases u with (_ | _) | _ | (_ | _) | ⟨_ | _, m, e, pos⟩
  · exact .infinity
  · exact .infinity
  · cases number
  · exact .zero _
  · exact .zero _
  · exact nonneg_roundWithAccuracy _ _ _
  · exact nonneg_roundWithAccuracy _ _ _

/-- A product with a positive number is no NaN, for no number is infinite and zero. -/
theorem Nonneg.finite_mul {u : UnpackedFloat} (h : Nonneg u) (m : Nat) (e : Int) (pos : 0 < m) :
    Nonneg (UnpackedFloat.mul .binary64 (.finite .positive m e pos) u) := by
  cases h with
  | zero s => exact .zero _
  | infinity => exact .infinity
  | finite m' e' pos' => exact nonneg_roundWithAccuracy _ _ _

theorem Nonneg.sqrt {u : UnpackedFloat} (h : Nonneg u) :
    Nonneg (UnpackedFloat.sqrt .binary64 u) := by
  cases h with
  | zero s => exact .zero s
  | infinity => exact .infinity
  | finite m e pos => exact nonneg_roundWithAccuracy _ _ _

/-! ## Numbers -/

variable {x y : Float}

theorem unpack_zero : (0.0 : Float).toModel.unpack = .zero .positive := rfl

theorem zero_le_iff : (0.0 : Float) ≤ x ↔ Nonneg x.toModel.unpack := by
  rw [le_iff, nonneg_iff, ← unpack_zero]
  exact and_iff_right rfl

/-- A product of a positive number and one that is not negative. -/
theorem zero_le_mul (pos : (0.0 : Float) < x) (finite : x.isFinite = true)
    (nonneg : (0.0 : Float) ≤ y) : (0.0 : Float) ≤ x * y := by
  have above : x.toModel.unpack.isNaN = false ∧ rank (.zero .positive) < rank x.toModel.unpack :=
    (lt_iff.mp pos).2
  have bounded : x.toModel.unpack.isFinite = true := finite
  have product (m : Nat) (e : Int) (hm : 0 < m) (hx : x.toModel.unpack = .finite .positive m e hm) :
      (0.0 : Float) ≤ x * y := by
    have packed := ((zero_le_iff.mp nonneg).finite_mul m e hm).unpack_pack
    rw [← hx] at packed
    exact zero_le_iff.mpr packed
  rcases hx : x.toModel.unpack with (_ | _) | _ | s | ⟨_ | _, m, e, hm⟩
  · rw [hx] at bounded
    cases bounded
  · rw [hx] at bounded
    cases bounded
  · rw [hx] at bounded
    cases bounded
  · rw [hx] at above
    exact absurd above.2 (lt_irrefl _)
  · rw [hx] at above
    simp [rank, Prod.Lex.toLex_lt_toLex] at above
  · exact product m e hm hx

/-- What is equal to zero is one of the two zeros. -/
theorem same_zero_iff : Scalar.same x 0 = true ↔ ∃ s, x.toModel.unpack = .zero s := by
  have equal : Scalar.same x 0 = true ↔ x ≤ 0.0 ∧ (0.0 : Float) ≤ x := by
    change (decide (x ≤ 0.0) && decide ((0.0 : Float) ≤ x)) = true ↔ _
    rw [Bool.and_eq_true, decide_eq_true_iff, decide_eq_true_iff]
  rw [equal, zero_le_iff, le_iff]
  constructor
  · rintro ⟨⟨-, -, below⟩, nonneg⟩
    have below : rank x.toModel.unpack ≤ rank (.zero .positive) := below
    generalize x.toModel.unpack = u at below nonneg
    cases nonneg with
    | zero s => exact ⟨s, rfl⟩
    | finite m e pos => simp [rank, Prod.Lex.toLex_le_toLex] at below
    | infinity => simp [rank, Prod.Lex.toLex_le_toLex] at below
  · rintro ⟨s, hx⟩
    have number : x.toModel.unpack.isNaN = false := by rw [hx]; rfl
    have place : rank x.toModel.unpack ≤ rank (.zero .positive) := by rw [hx]; exact le_refl _
    rw [hx]
    exact ⟨⟨number, rfl, place⟩, .zero s⟩

theorem le_of_same_zero (zero : Scalar.same x 0 = true) (nonneg : (0.0 : Float) ≤ y) : x ≤ y := by
  have below : x ≤ 0.0 := of_decide_eq_true (Bool.and_eq_true_iff.mp zero).1
  obtain ⟨hx, -, low⟩ := le_iff.mp below
  obtain ⟨-, hy, high⟩ := le_iff.mp nonneg
  exact le_iff.mpr ⟨hx, hy, low.trans high⟩

theorem abs_of_zero {s : Sign} (zero : x.toModel.unpack = .zero s) :
    x.abs.toModel.unpack = .zero .positive := by
  change unpack .binary64 (pack .binary64 x.toModel.unpack.abs) = _
  rw [zero]
  cases s <;> rfl

theorem sqrt_of_zero {s : Sign} (zero : x.toModel.unpack = .zero s) :
    x.sqrt.toModel.unpack = .zero s := by
  change unpack .binary64 (pack .binary64 (UnpackedFloat.sqrt .binary64 x.toModel.unpack)) = _
  rw [zero]
  cases s <;> rfl

theorem zero_le_mul_self (number : x.isNaN = false) : (0.0 : Float) ≤ x * x :=
  zero_le_iff.mpr (nonneg_mul_self number).unpack_pack

theorem zero_le_add (hx : (0.0 : Float) ≤ x) (hy : (0.0 : Float) ≤ y) : (0.0 : Float) ≤ x + y :=
  zero_le_iff.mpr ((zero_le_iff.mp hx).add (zero_le_iff.mp hy)).unpack_pack

theorem zero_le_sqrt (hx : (0.0 : Float) ≤ x) : (0.0 : Float) ≤ x.sqrt :=
  zero_le_iff.mpr (zero_le_iff.mp hx).sqrt.unpack_pack

end Binary64

namespace Flat

open Binary64

variable {n : Nat}

/-- What holds of zero, of the products and of sums holds of an inner product. -/
theorem dot_induction {x y : Vector Float n} {P : Float → Prop} (zero : P 0.0)
    (add : ∀ {a b}, P a → P b → P (a + b)) (product : ∀ i (h : i < n), P (x[i] * y[i])) :
    P (dot x y) := by
  unfold dot
  rw [← Vector.foldl_toList]
  refine List.foldlRecOn _ _ zero fun sum held p mem => ?_
  obtain ⟨i, inside, rfl⟩ := Vector.getElem_of_mem (Vector.mem_toList_iff.mp mem)
  rw [Vector.getElem_zipWith]
  exact add held (product i inside)

/-- The norm of numbers is not negative, and in particular a number. -/
theorem zero_le_norm {x : Vector Float n} (numbers : ¬HasNaN x) : (0.0 : Float) ≤ norm x := by
  have zero : (0.0 : Float) ≤ 0.0 := zero_le_iff.mpr (.zero .positive)
  refine zero_le_sqrt (dot_induction zero zero_le_add fun i inside => ?_)
  refine zero_le_mul_self (eq_false_of_ne_true fun nan => numbers ?_)
  exact ⟨x[i], Vector.getElem_mem inside, nan⟩

end Flat

end MatrixFree
