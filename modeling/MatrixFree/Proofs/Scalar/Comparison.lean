import Mathlib

/-!
# Comparisons of binary64 numbers

A comparison of binary64 numbers is a test that a NaN always fails.  Off the NaNs it is an
order: `place` sends each number to a place in a linear order, the two zeros to the same one,
and `lt_iff`, `le_iff` say that a number is below another if its place is.  What a proof needs
of `<` and `≤`, transitivity above all, is then a fact about places.

## Main results

* `lt_iff`, `le_iff` — the two comparisons, by places.
* `lt_trans`, `lt_of_not_lt` — the laws of an order, where no NaN is in the way.
* `isNaN_abs` — a magnitude is NaN only where the number is.
-/

namespace MatrixFree.Binary64

open Float.Model Float.Model.UnpackedFloat

/-! ## The order of unpacked numbers -/

/-- The place of an unpacked number: first the sign and whether it is finite, then exponent
and mantissa. -/
def rank : UnpackedFloat → ℤ ×ₗ ℤ ×ₗ ℤ
  | .infinity .negative => toLex (-2, toLex (0, 0))
  | .finite .negative mantissa exponent _ => toLex (-1, toLex (-exponent, -mantissa))
  | .zero _ => toLex (0, toLex (0, 0))
  | .finite .positive mantissa exponent _ => toLex (1, toLex (exponent, mantissa))
  | .infinity .positive => toLex (2, toLex (0, 0))
  | .notANumber => toLex (0, toLex (0, 0))

theorem compare_neg_neg (x y : ℤ) : compare (-x) (-y) = (compare x y).swap := by
  rw [← Std.OrientedOrd.eq_swap]
  simp only [← cmp_eq_compare, cmp, cmpUsing, neg_lt_neg_iff]

theorem compare_natCast (m n : ℕ) : compare (m : ℤ) n = compare m n := by
  simp only [← cmp_eq_compare, cmp, cmpUsing, Nat.cast_lt]

/-- Numbers compare as their places do. -/
theorem compare_rank {a b : UnpackedFloat} (ha : a.isNaN = false) (hb : b.isNaN = false) :
    a.compare b = some (compare (rank a) (rank b)) := by
  -- Where the first components differ they decide, and the rest is not looked at.
  rcases a with (_ | _) | _ | _ | ⟨_ | _, m, e, hm⟩ <;>
    rcases b with (_ | _) | _ | _ | ⟨_ | _, m', e', hm'⟩ <;>
    simp only [UnpackedFloat.compare, UnpackedFloat.isNaN, rank, Prod.Lex.compare_def,
      compareLex, compareOn, ofLex_toLex, compare_neg_neg, compare_natCast, Ordering.swap_then,
      reduceCtorEq] at ha hb ⊢ <;>
    rfl

theorem compare_nan_right (a : UnpackedFloat) : a.compare .notANumber = none := by
  cases a <;> rfl

/-- Only numbers compare. -/
theorem not_isNaN_of_compare {a b : UnpackedFloat} (h : a.compare b ≠ none) :
    a.isNaN = false ∧ b.isNaN = false := by
  constructor
  · cases a with
    | notANumber => exact absurd rfl h
    | _ => rfl
  · cases b with
    | notANumber => exact absurd (compare_nan_right a) h
    | _ => rfl

/-! ## Magnitudes -/

/-- Three components make a NaN if the exponent is all ones and the mantissa is not zero. -/
theorem isNaN_unpack_packComponents {spec : Format} (s : Sign) (e : BitVec spec.exponentBits)
    (m : BitVec spec.mantissaBitsWithoutImplicit) :
    (UnpackedFloat.unpack spec (packComponents spec s e m)).isNaN = true ↔
      e = -1#_ ∧ m ≠ 0#_ := by
  unfold UnpackedFloat.unpack
  simp only [unpackExponent_packComponents, unpackMantissa_packComponents]
  split
  · split <;> simp_all [UnpackedFloat.isNaN]
  · split
    · split <;> simp_all [UnpackedFloat.isNaN]
    · simp_all [UnpackedFloat.isNaN]

/-- Packing makes no number a NaN, and no NaN a number. -/
theorem isNaN_unpack_pack (u : UnpackedFloat) :
    (UnpackedFloat.unpack .binary64 (UnpackedFloat.pack .binary64 u)).isNaN = u.isNaN := by
  rw [Bool.eq_iff_iff]
  fun_cases UnpackedFloat.pack .binary64 u with
  | case1 =>
      rw [packedNaN, isNaN_unpack_packComponents]
      decide
  | case2 s =>
      rw [packedInfinity, isNaN_unpack_packComponents]
      simp [UnpackedFloat.isNaN]
  | case3 s =>
      rw [packedZero, isNaN_unpack_packComponents]
      simp [UnpackedFloat.isNaN]
  | case4 s =>
      rw [packedInfinity, isNaN_unpack_packComponents]
      simp [UnpackedFloat.isNaN]
  | case5 s m e hm bits exponent fits normal =>
      -- A finite number has an exponent below all ones.
      have below : BitVec.ofNat Format.binary64.exponentBits exponent ≠ -1#_ := by
        intro all
        have value := congrArg BitVec.toNat all
        simp [Format.binary64] at value fits
        omega
      rw [isNaN_unpack_packComponents]
      exact ⟨fun nan => absurd nan.1 below, fun nan => nomatch nan⟩
  | case6 s m e hm bits exponent fits subnormal =>
      rw [isNaN_unpack_packComponents]
      simp [UnpackedFloat.isNaN, Format.binary64]

theorem isNaN_abs (x : Float) : x.abs.isNaN = x.isNaN := by
  have kept : x.toModel.unpack.abs.isNaN = x.toModel.unpack.isNaN := by
    cases x.toModel.unpack <;> rfl
  exact (isNaN_unpack_pack _).trans kept

/-! ## The order of the numbers -/

/-- The place of a number among the numbers. -/
def place (x : Float) : ℤ ×ₗ ℤ ×ₗ ℤ := rank x.toModel.unpack

theorem lt_iff_compare {x y : Float} :
    x < y ↔ x.toModel.unpack.compare y.toModel.unpack = some .lt := by
  change decide ((_ == _) = true) = true ↔ _
  rw [decide_eq_true_iff, beq_iff_eq]

theorem le_iff_compare {x y : Float} :
    x ≤ y ↔ (x.toModel.unpack.compare y.toModel.unpack).any (·.isLE) = true := by
  change decide (_ = true) = true ↔ _
  rw [decide_eq_true_iff]
  rfl

/-- `x < y` holds of two numbers with `x` placed below `y`. -/
theorem lt_iff {x y : Float} :
    x < y ↔ x.isNaN = false ∧ y.isNaN = false ∧ place x < place y := by
  rw [lt_iff_compare]
  constructor
  · intro below
    obtain ⟨hx, hy⟩ := not_isNaN_of_compare (by rw [below]; exact Option.some_ne_none _)
    rw [compare_rank hx hy, Option.some_inj, compare_lt_iff_lt] at below
    exact ⟨hx, hy, below⟩
  · rintro ⟨hx, hy, below⟩
    rw [compare_rank hx hy, Option.some_inj, compare_lt_iff_lt]
    exact below

/-- `x ≤ y` holds of two numbers with `x` placed not above `y`. -/
theorem le_iff {x y : Float} :
    x ≤ y ↔ x.isNaN = false ∧ y.isNaN = false ∧ place x ≤ place y := by
  rw [le_iff_compare]
  constructor
  · intro below
    obtain ⟨hx, hy⟩ := not_isNaN_of_compare (by rintro none; rw [none] at below; cases below)
    rw [compare_rank hx hy, Option.any_some, Ordering.isLE_iff_ne_gt, ← ne_eq,
      compare_le_iff_le] at below
    exact ⟨hx, hy, below⟩
  · rintro ⟨hx, hy, below⟩
    rw [compare_rank hx hy, Option.any_some, Ordering.isLE_iff_ne_gt, ← ne_eq,
      compare_le_iff_le]
    exact below

theorem not_lt_of_isNaN {x : Float} (nan : x.isNaN = true) (y : Float) : ¬x < y :=
  fun below => Bool.false_ne_true ((lt_iff.mp below).1.symm.trans nan)

theorem lt_trans {x y z : Float} (hxy : x < y) (hyz : y < z) : x < z := by
  obtain ⟨hx, -, below⟩ := lt_iff.mp hxy
  obtain ⟨-, hz, below'⟩ := lt_iff.mp hyz
  exact lt_iff.mpr ⟨hx, hz, below.trans below'⟩

/-- A number that another is not below is below all that the other is below. -/
theorem lt_of_not_lt {x y z : Float} (hx : x.isNaN = false) (hy : y.isNaN = false)
    (above : ¬x < y) (hxz : x < z) : y < z := by
  obtain ⟨-, hz, below⟩ := lt_iff.mp hxz
  have reach : place y ≤ place x := not_lt.mp fun place => above (lt_iff.mpr ⟨hx, hy, place⟩)
  exact lt_iff.mpr ⟨hy, hz, reach.trans_lt below⟩

end MatrixFree.Binary64
