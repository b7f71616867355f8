import MatrixFree.Engine.Shell
import MatrixFree.Grid.Mesh
import MatrixFree.Proofs.Scalar.Counts

/-!
# Checks of global sizes

A mesh that is partitioned is checked against the width of the whole grid, and a shell operator
against a global size that is given.  Both sum a local count over the processes, and the sum is
exact for the counts that binary64 holds (`Communicator.Exact`): all up to `2 ^ 53`, and above that
ever fewer.  The end of a slice is computed in words, which is right as long as the slice does
not end behind the last word.

Where both are right the checks say what they seem to say: the slice lies inside the grid and is
the whole of it, the global size is the local one.  Elsewhere they do not: a correct size is
refused and another one accepted, and a slice that lies outside the grid is accepted because its
end wraps around (`Engine.sizes_checked`).
-/

namespace MatrixFree

open Communicator Binary64

/-! ## Partitioned meshes -/

namespace Grid.Mesh

variable {identity nx ny nz xOffset globalNx : Nat}

/-- A mesh is checked for a slice that ends inside the grid, as far as words can tell, and adds up
to it, as far as binary64 can tell. -/
theorem exists_partitioned_iff {comm : Communicator} :
    (∃ m, partitioned identity comm nx ny nz xOffset globalNx = .ok m) ↔
      sliceEnd xOffset nx ≤ globalNx ∧ comm.total nx = globalNx := by
  unfold partitioned
  split_ifs with outside differs
  · exact ⟨nofun, fun checked => absurd checked.1 (Nat.not_le.mpr outside)⟩
  · exact ⟨nofun, fun checked => absurd checked.2 differs⟩
  · exact ⟨fun _ => ⟨Nat.not_lt.mp outside, Decidable.not_not.mp differs⟩, fun _ => ⟨_, rfl⟩⟩

theorem sliceEnd_of_lt (fits : xOffset + nx < wordCount) : sliceEnd xOffset nx = xOffset + nx :=
  Nat.mod_eq_of_lt fits

/-- A slice that ends behind the last word seems to end before its own length. -/
theorem sliceEnd_lt_of_ge (hx : xOffset < wordCount) (hn : nx < wordCount)
    (wraps : wordCount ≤ xOffset + nx) : sliceEnd xOffset nx < nx := by
  unfold sliceEnd
  rw [Nat.mod_eq_sub_mod wraps, Nat.mod_eq_of_lt (by omega)]
  omega

end Grid.Mesh

namespace Engine

/-! ## Shell operators -/

/-- A shell operator is checked for its shape and for a global size that is the sum of the local
ones, and gets that sum. -/
theorem Shell.create_eq_ok_iff {γ σ : Type} {comm : Communicator} {rows cols : Nat}
    {global : Option Nat} {context : γ} {s : Shell γ σ} :
    create comm rows cols global context = .ok s ↔
      rows = cols ∧ (global = none ∨ global = some (comm.total rows)) ∧
        s = ⟨comm, rows, comm.total rows, context, none⟩ := by
  unfold create
  dsimp only
  split_ifs with shape
  · exact ⟨nofun, fun checked => absurd checked.1 shape⟩
  · have square : rows = cols := Decidable.not_not.mp shape
    cases global with
    | none => simp [square, eq_comm]
    | some g =>
        dsimp only
        split_ifs with differs
        · simp [differs]
        · obtain rfl := Decidable.not_not.mp differs
          simp [square, eq_comm]

/-! ## The checks -/

/-- **What the checks of global sizes decide**, on one process and for all words.  For a count that
binary64 holds and a slice whose end is a word they are the comparisons of natural numbers that
they seem to be.  For any other count the right size is refused, and a slice whose end is no
word is accepted wherever it lies. -/
theorem sizes_checked (identity ny nz : Nat) {γ σ : Type} (context : γ) :
    (∀ nx xOffset globalNx, nx < wordCount → xOffset < wordCount →
      let Accepted := ∃ m, Grid.Mesh.partitioned identity .serial nx ny nz xOffset globalNx = .ok m
      (Accepted ↔ (xOffset + nx) % wordCount ≤ globalNx ∧
        min (nearest nx) (wordCount - 1) = globalNx) ∧
      (Exact nx → xOffset + nx < wordCount →
        (Accepted ↔ xOffset + nx ≤ globalNx ∧ nx = globalNx)) ∧
      (Exact nx → wordCount ≤ xOffset + nx → (Accepted ↔ nx = globalNx)) ∧
      (¬Exact nx → Accepted → nx ≠ globalNx)) ∧
    ∀ rows cols, ∀ global : Option Nat, rows < wordCount →
      let total := min (nearest rows) (wordCount - 1)
      (∀ s : Shell γ σ, Shell.create .serial rows cols global context = .ok s ↔
        rows = cols ∧ (global = none ∨ global = some total) ∧
          s = ⟨.serial, rows, total, context, none⟩) ∧
      (Exact rows ↔ total = rows) := by
  constructor
  · intro nx xOffset globalNx hn hx Accepted
    have accepted : Accepted ↔
        Grid.Mesh.sliceEnd xOffset nx ≤ globalNx ∧ serial.total nx = globalNx :=
      Grid.Mesh.exists_partitioned_iff
    have back : Exact nx → serial.total nx = nx := (serial_total_eq_self_iff hn).mpr
    refine ⟨?_, ?_, ?_, ?_⟩
    · rw [accepted, serial_total hn]
      rfl
    · intro exact fits
      rw [accepted, back exact, Grid.Mesh.sliceEnd_of_lt fits]
    · intro exact wraps
      rw [accepted, back exact]
      refine ⟨And.right, ?_⟩
      rintro rfl
      exact ⟨Nat.le_of_lt (Grid.Mesh.sliceEnd_lt_of_ge hx hn wraps), rfl⟩
    · rintro inexact checked rfl
      exact inexact ((serial_total_eq_self_iff hn).mp (accepted.mp checked).2)
  · intro rows cols global hr total
    have sum : serial.total rows = total := serial_total hr
    refine ⟨?_, ?_⟩
    · intro s
      rw [Shell.create_eq_ok_iff, sum]
    · rw [← serial_total_eq_self_iff hr, sum]

/-- A slice that ends behind the last word is accepted as the whole of a grid two points wide, and a
shell operator with one row more than binary64 can count gets another global size. -/
theorem sizes_checked_beyond :
    2 < wordCount ∧ 2 ^ 64 - 1 < wordCount ∧ 2 ^ 53 + 1 < wordCount ∧
    (∃ m, Grid.Mesh.partitioned 0 .serial 2 1 1 (2 ^ 64 - 1) 2 = .ok m) ∧
    Shell.create .serial (2 ^ 53 + 1) (2 ^ 53 + 1) none () =
      .ok (⟨.serial, 2 ^ 53 + 1, 2 ^ 53, (), none⟩ : Shell Unit Unit) := by
  have two : 2 < wordCount := by decide
  have last : 2 ^ 64 - 1 < wordCount := by decide
  have large : 2 ^ 53 + 1 < wordCount := by decide
  obtain ⟨meshes, shells⟩ := sizes_checked 0 1 1 (σ := Unit) ()
  refine ⟨two, last, large, ?_, ?_⟩
  · exact ((meshes 2 (2 ^ 64 - 1) 2 two last).2.2.1
      (exact_of_le (by decide)) (by decide)).mpr rfl
  · refine ((shells (2 ^ 53 + 1) (2 ^ 53 + 1) none large).1 _).mpr ⟨rfl, Or.inl rfl, ?_⟩
    have even : min (nearest (2 ^ 53 + 1)) (wordCount - 1) = 2 ^ 53 := by decide +kernel
    rw [even]

/-- With one point, or one row, more than binary64 can count the right size is refused. -/
theorem sizes_refused :
    Grid.Mesh.partitioned 0 .serial (2 ^ 53 + 1) 1 1 0 (2 ^ 53 + 1) =
        .error (.sizeMismatch (2 ^ 53 + 1) (2 ^ 53)) ∧
      Shell.create .serial (2 ^ 53 + 1) (2 ^ 53 + 1) (some (2 ^ 53 + 1)) () =
        (.error (.sizeMismatch (2 ^ 53) (2 ^ 53 + 1)) : Except EngineError (Shell Unit Unit)) := by
  have even : serial.total (2 ^ 53 + 1) = 2 ^ 53 := by decide +kernel
  constructor
  · decide +kernel
  · unfold Shell.create
    rw [even]
    rfl

end Engine

end MatrixFree
