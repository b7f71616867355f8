import MatrixFree.Proofs.Scalar.Signs

/-!
# Zeros in flat vectors

A vector of zeros, of either sign, is subtracted without a trace: what is finite stays the same bit
for bit, and a zero stays a zero.  The first is a matter of the representation, for a difference is
unpacked, left as it is and packed again (`Binary64.pack_unpack`).  So the norm of what is finite
does not change (`Flat.norm_sub_of_allZero`), and an inner product with zeros is a zero
(`Flat.isZero_dot`).
-/

namespace MatrixFree

namespace Binary64

open Float.Model Float.Model.UnpackedFloat

/-! ## There and back -/

theorem toBitVec_ofBitVec (b : BitVec 1) : (Sign.ofBitVec b).toBitVec = b := by
  revert b
  decide

/-- A word is its three components. -/
theorem packComponents_unpack (b : BitVec Format.binary64.numBits) :
    packComponents .binary64 (.ofBitVec (unpackSign b)) (unpackExponent b) (unpackMantissa b) =
      b := by
  unfold packComponents
  rw [toBitVec_ofBitVec]
  refine BitVec.eq_of_getLsbD_eq fun i inside => ?_
  have inside : i < 64 := inside
  simp only [BitVec.getLsbD_append, unpackSign, unpackExponent, unpackMantissa,
    BitVec.getLsbD_cast, BitVec.getLsbD_extractLsb]
  by_cases low : i < 52
  · simp [low]
  · by_cases middle : i - 52 < 11
    · have place : 52 + (i - 52) = i := by omega
      simp [low, middle, place]
    · obtain rfl : i = 63 := by omega
      simp only [low, middle, if_false]
      rfl

/-- A mantissa of 52 bits behind the implicit one. -/
theorem toNat_implicit (m : BitVec 52) : (1#1 ++ m).toNat = 2 ^ 52 + m.toNat := by
  rw [BitVec.toNat_append, ← Nat.shiftLeft_add_eq_or_of_lt m.isLt]
  rfl

theorem pack_subnormal (s : Sign) {m : BitVec 52} (pos : 0 < m.toNat) :
    UnpackedFloat.pack .binary64 (.finite s m.toNat (-1074) pos) =
      packComponents .binary64 s 0#11 m := by
  have short : m.toNat.log2 + 1 ≠ Format.binary64.mantissaBits := by
    have below := (Nat.log2_lt (Nat.ne_of_gt pos)).mpr m.isLt
    change _ ≠ 53
    omega
  simp only [UnpackedFloat.pack, if_neg short, BitVec.ofNat_toNat]
  rfl

theorem pack_normal (s : Sign) {e : BitVec 11} (m : BitVec 52) (ones : e ≠ -1#11)
    (pos : 0 < (1#1 ++ m).toNat) :
    UnpackedFloat.pack .binary64 (.finite s (1#1 ++ m).toNat ((e.toNat : Int) - 1075) pos) =
      packComponents .binary64 s e m := by
  have bits : (1#1 ++ m).toNat.log2 = 52 := by
    have small := m.isLt
    refine (Nat.log2_eq_iff (Nat.ne_of_gt pos)).mpr ?_
    rw [toNat_implicit]
    omega
  have long : (1#1 ++ m).toNat.log2 + 1 = Format.binary64.mantissaBits := by rw [bits]; rfl
  have below : e.toNat + 1 < 2 ^ 11 := by
    have small := e.isLt
    have other : e.toNat ≠ 2 ^ 11 - 1 := fun all => ones (BitVec.eq_of_toNat_eq all)
    omega
  have biased : ((e.toNat : Int) - 1075 + Format.binary64.exponentBias + (52 : Nat)).toNat =
      e.toNat := by
    change ((e.toNat : Int) - 1075 + 1023 + 52).toNat = e.toNat
    omega
  have mantissa : BitVec.ofNat 52 (1#1 ++ m).toNat = m := by
    refine BitVec.eq_of_toNat_eq ?_
    rw [BitVec.toNat_ofNat, toNat_implicit, Nat.add_mod_left, Nat.mod_eq_of_lt m.isLt]
  simp only [UnpackedFloat.pack]
  rw [if_pos long, biased, if_neg (Nat.not_le.mpr below), mantissa, BitVec.ofNat_toNat,
    BitVec.setWidth_eq]

/-- What was unpacked from a word is packed into it again: there is one NaN only. -/
theorem pack_unpack {b : BitVec Format.binary64.numBits} (valid : Format.binary64.Valid b) :
    UnpackedFloat.pack .binary64 (UnpackedFloat.unpack .binary64 b) = b := by
  have whole := packComponents_unpack b
  unfold UnpackedFloat.unpack
  dsimp only
  split
  · next ones =>
    split
    · next empty =>
      rw [ones, empty] at whole
      exact whole
    · next full => exact (valid.eq_packedNaN ones full).symm
  · next ones =>
    split
    · next zero =>
      split
      · next empty =>
        rw [zero, empty] at whole
        exact whole
      · next full =>
        rw [zero] at whole
        simp only [zero]
        exact (pack_subnormal _ _).trans whole
    · exact (pack_normal _ _ ones _).trans whole

theorem ofModel_pack_unpack (x : Float) : Float.ofModel (.pack x.toModel.unpack) = x := by
  obtain ⟨⟨⟨b⟩, valid⟩⟩ := x
  have same := pack_unpack valid
  simp only [Float.Model.unpack, Float.Model.pack]
  congr

/-! ## The two zeros -/

/-- A zero, of either sign. -/
def IsZero (x : Float) : Prop := ∃ s, x.toModel.unpack = .zero s

variable {x y : Float}

/-- A zero is packed and unpacked as it is. -/
theorem unpack_pack_zero (s : Sign) :
    UnpackedFloat.unpack .binary64 (UnpackedFloat.pack .binary64 (.zero s)) = .zero s := by
  cases s <;> rfl

theorem isZero_zero : IsZero 0.0 := ⟨_, unpack_zero⟩

theorem IsZero.isFinite (zero : IsZero x) : x.isFinite = true := by
  obtain ⟨s, zero⟩ := zero
  change x.toModel.unpack.isFinite = true
  rw [zero]
  rfl

theorem IsZero.add (hx : IsZero x) (hy : IsZero y) : IsZero (x + y) := by
  obtain ⟨s, hx⟩ := hx
  obtain ⟨s', hy⟩ := hy
  change IsZero (.ofModel (.pack (UnpackedFloat.add .binary64 x.toModel.unpack y.toModel.unpack)))
  rw [hx, hy]
  cases s <;> cases s' <;> exact ⟨_, unpack_pack_zero _⟩

theorem isZero_mul (finite : x.isFinite = true) (zero : IsZero y) : IsZero (x * y) := by
  obtain ⟨s, zero⟩ := zero
  have bounded : x.toModel.unpack.isFinite = true := finite
  change IsZero (.ofModel (.pack (UnpackedFloat.mul .binary64 x.toModel.unpack y.toModel.unpack)))
  rw [zero]
  generalize x.toModel.unpack = u at bounded ⊢
  rcases u with _ | _ | s' | ⟨s', m, e, pos⟩
  · cases bounded
  · cases bounded
  · exact ⟨_, unpack_pack_zero _⟩
  · exact ⟨_, unpack_pack_zero _⟩

/-- A difference with a zero keeps every number that is not a zero, and every zero as one. -/
theorem sub_of_isZero (finite : x.isFinite = true) (zero : IsZero y) :
    x - y = x ∨ IsZero x ∧ IsZero (x - y) := by
  obtain ⟨s, zero⟩ := zero
  have bounded : x.toModel.unpack.isFinite = true := finite
  have difference : x - y =
      .ofModel (.pack (UnpackedFloat.sub .binary64 x.toModel.unpack (.zero s))) := by
    rw [← zero]
    rfl
  rcases unpacked : x.toModel.unpack with _ | _ | s' | ⟨s', m, e, pos⟩
  · rw [unpacked] at bounded
    cases bounded
  · rw [unpacked] at bounded
    cases bounded
  · refine .inr ⟨⟨s', unpacked⟩, ?_⟩
    rw [difference, unpacked]
    cases s <;> cases s' <;> exact ⟨_, unpack_pack_zero _⟩
  · refine .inl ?_
    have kept : UnpackedFloat.sub .binary64 x.toModel.unpack (.zero s) = x.toModel.unpack := by
      rw [unpacked]
      rfl
    rw [difference, kept, ofModel_pack_unpack]

theorem isFinite_sub_of_isZero (finite : x.isFinite = true) (zero : IsZero y) :
    (x - y).isFinite = true := by
  rcases sub_of_isZero finite zero with same | ⟨-, zero⟩
  · rw [same]
    exact finite
  · exact zero.isFinite

theorem mul_self_of_isZero (zero : IsZero x) : x * x = 0.0 := by
  obtain ⟨s, zero⟩ := zero
  change Float.ofModel (.pack (UnpackedFloat.mul .binary64 x.toModel.unpack x.toModel.unpack)) = _
  rw [zero]
  cases s <;> rfl

theorem square_sub_of_isZero (finite : x.isFinite = true) (zero : IsZero y) :
    (x - y) * (x - y) = x * x := by
  rcases sub_of_isZero finite zero with same | ⟨hx, hd⟩
  · rw [same]
  · rw [mul_self_of_isZero hx, mul_self_of_isZero hd]

end Binary64

namespace Flat

open Binary64

variable {n : Nat}

/-- Every entry is a zero. -/
def AllZero (y : Vector Float n) : Prop := ∀ v ∈ y, IsZero v

/-- Every entry is finite. -/
def AllFinite (x : Vector Float n) : Prop := ∀ v ∈ x, v.isFinite = true

instance (x : Vector Float n) : Decidable (AllFinite x) :=
  decidable_of_iff _ Vector.all_eq_true_iff_forall_mem

variable {x y : Vector Float n}

theorem AllFinite.sub_of_allZero (finite : AllFinite x) (zeros : AllZero y) :
    AllFinite (sub x y) := by
  intro v mem
  obtain ⟨i, inside, rfl⟩ := Vector.getElem_of_mem mem
  rw [sub, Vector.getElem_zipWith]
  exact isFinite_sub_of_isZero (finite _ (Vector.getElem_mem inside))
    (zeros _ (Vector.getElem_mem inside))

/-- Without the zeros the norm is the same, bit for bit. -/
theorem norm_sub_of_allZero (finite : AllFinite x) (zeros : AllZero y) :
    norm (sub x y) = norm x := by
  have squares : Vector.zipWith (· * ·) (sub x y) (sub x y) = Vector.zipWith (· * ·) x x := by
    ext i inside
    rw [Vector.getElem_zipWith, Vector.getElem_zipWith, sub, Vector.getElem_zipWith]
    exact square_sub_of_isZero (finite _ (Vector.getElem_mem inside))
      (zeros _ (Vector.getElem_mem inside))
  unfold norm dot
  rw [squares]

/-- An inner product with zeros. -/
theorem isZero_dot (finite : AllFinite x) (zeros : AllZero y) : IsZero (dot x y) :=
  dot_induction isZero_zero IsZero.add fun _ inside =>
    isZero_mul (finite _ (Vector.getElem_mem inside)) (zeros _ (Vector.getElem_mem inside))

end Flat

end MatrixFree
