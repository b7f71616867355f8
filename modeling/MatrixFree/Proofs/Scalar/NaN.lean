import MatrixFree.Flat
import MatrixFree.Proofs.Scalar.Comparison

/-!
# NaNs in flat vectors

Arithmetic on a NaN answers a NaN.  So a single entry that is a NaN makes the norm of a vector a
NaN (`Flat.isNaN_norm`), whatever the other entries are, and no test on a residual can miss it.
-/

namespace MatrixFree

namespace Binary64

open Float.Model Float.Model.UnpackedFloat

theorem unpack_of_isNaN {x : Float} (nan : x.isNaN = true) : x.toModel.unpack = .notANumber := by
  have kept : x.toModel.unpack.isNaN = true := nan
  cases unpacked : x.toModel.unpack with
  | notANumber => rfl
  | _ =>
      rw [unpacked] at kept
      cases kept

/-- Packing keeps a NaN. -/
theorem isNaN_of_unpacked {u : UnpackedFloat} (nan : u = .notANumber) :
    (UnpackedFloat.unpack .binary64 (UnpackedFloat.pack .binary64 u)).isNaN = true := by
  rw [isNaN_unpack_pack, nan]
  rfl

theorem add_notANumber (u : UnpackedFloat) :
    UnpackedFloat.add .binary64 u .notANumber = .notANumber := by
  cases u <;> rfl

theorem sub_notANumber (u : UnpackedFloat) :
    UnpackedFloat.sub .binary64 u .notANumber = .notANumber := by
  cases u <;> rfl

theorem mul_notANumber (u : UnpackedFloat) :
    UnpackedFloat.mul .binary64 u .notANumber = .notANumber := by
  cases u <;> rfl

section

variable {x : Float} (nan : x.isNaN = true) (y : Float)

include nan

theorem isNaN_add_left : (x + y).isNaN = true := by
  have sum : UnpackedFloat.add .binary64 x.toModel.unpack y.toModel.unpack = .notANumber := by
    rw [unpack_of_isNaN nan]
    rfl
  exact isNaN_of_unpacked sum

theorem isNaN_add_right : (y + x).isNaN = true := by
  have sum : UnpackedFloat.add .binary64 y.toModel.unpack x.toModel.unpack = .notANumber := by
    rw [unpack_of_isNaN nan, add_notANumber]
  exact isNaN_of_unpacked sum

theorem isNaN_sub_left : (x - y).isNaN = true := by
  have difference :
      UnpackedFloat.sub .binary64 x.toModel.unpack y.toModel.unpack = .notANumber := by
    rw [unpack_of_isNaN nan]
    rfl
  exact isNaN_of_unpacked difference

theorem isNaN_sub_right : (y - x).isNaN = true := by
  have difference :
      UnpackedFloat.sub .binary64 y.toModel.unpack x.toModel.unpack = .notANumber := by
    rw [unpack_of_isNaN nan, sub_notANumber]
  exact isNaN_of_unpacked difference

theorem isNaN_mul_right : (y * x).isNaN = true := by
  have product : UnpackedFloat.mul .binary64 y.toModel.unpack x.toModel.unpack = .notANumber := by
    rw [unpack_of_isNaN nan, mul_notANumber]
  exact isNaN_of_unpacked product

omit y

theorem isNaN_sqrt : x.sqrt.isNaN = true := by
  have root : UnpackedFloat.sqrt .binary64 x.toModel.unpack = .notANumber := by
    rw [unpack_of_isNaN nan]
    rfl
  exact isNaN_of_unpacked root

theorem isFinite_of_isNaN : x.isFinite = false := by
  have kept : x.toModel.unpack = .notANumber := unpack_of_isNaN nan
  change x.toModel.unpack.isFinite = false
  rw [kept]
  rfl

end

end Binary64

namespace Flat

open Binary64

variable {n : Nat}

/-- Some entry is a NaN. -/
def HasNaN (x : Vector Float n) : Prop := ∃ v ∈ x, v.isNaN = true

theorem not_hasNaN_zeros : ¬HasNaN (Vector.replicate n (0.0 : Float)) := by
  rintro ⟨v, mem, nan⟩
  have zero : v = 0.0 := Vector.eq_of_mem_replicate mem
  have number : (0.0 : Float).isNaN = false := by decide +kernel
  rw [zero, number] at nan
  cases nan

/-- A sum with a NaN in it, or that starts from one, is a NaN. -/
theorem isNaN_foldl {vs : List Float} {acc : Float}
    (nan : acc.isNaN = true ∨ ∃ v ∈ vs, v.isNaN = true) :
    (vs.foldl (· + ·) acc).isNaN = true := by
  induction vs generalizing acc with
  | nil =>
      rcases nan with nan | ⟨v, mem, -⟩
      · exact nan
      · cases mem
  | cons v vs ih =>
      rw [List.foldl_cons]
      refine ih ?_
      rcases nan with nan | ⟨u, mem, nan⟩
      · exact Or.inl (isNaN_add_left nan v)
      · rcases List.mem_cons.mp mem with rfl | later
        · exact Or.inl (isNaN_add_right nan acc)
        · exact Or.inr ⟨u, later, nan⟩

theorem HasNaN.sub {y : Vector Float n} (nan : HasNaN y) (x : Vector Float n) :
    HasNaN (sub x y) := by
  obtain ⟨v, mem, nan⟩ := nan
  obtain ⟨i, inside, rfl⟩ := Vector.getElem_of_mem mem
  refine ⟨(Flat.sub x y)[i], Vector.getElem_mem inside, ?_⟩
  unfold Flat.sub
  rw [Vector.getElem_zipWith]
  exact isNaN_sub_right nan x[i]

theorem HasNaN.subMul {x : Vector Float n} (nan : HasNaN x) (c : Float) (y : Vector Float n) :
    HasNaN (subMul x c y) := by
  obtain ⟨v, mem, nan⟩ := nan
  obtain ⟨i, inside, rfl⟩ := Vector.getElem_of_mem mem
  refine ⟨(Flat.subMul x c y)[i], Vector.getElem_mem inside, ?_⟩
  unfold Flat.subMul
  rw [Vector.getElem_zipWith]
  exact isNaN_sub_left nan (c * y[i])

theorem isNaN_norm {x : Vector Float n} (nan : HasNaN x) : (norm x).isNaN = true := by
  obtain ⟨v, mem, nan⟩ := nan
  obtain ⟨i, inside, rfl⟩ := Vector.getElem_of_mem mem
  have square : ∃ p ∈ (Vector.zipWith (· * ·) x x).toList, p.isNaN = true := by
    refine ⟨(Vector.zipWith (· * ·) x x)[i], ?_, ?_⟩
    · exact Vector.mem_toList_iff.mpr (Vector.getElem_mem inside)
    · rw [Vector.getElem_zipWith]
      exact isNaN_mul_right nan x[i]
  have sum : (dot x x).isNaN = true := by
    unfold dot
    rw [← Vector.foldl_toList]
    exact isNaN_foldl (Or.inr square)
  exact isNaN_sqrt sum

end Flat

end MatrixFree
