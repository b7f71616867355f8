import MatrixFree.Proofs.Krylov.Hessenberg
import MatrixFree.Proofs.Krylov.Stored.Kernels

/-!
# Least squares on storage

The storage of a cycle takes a Hessenberg matrix one column after the other, and rotates each column
as soon as it is there (`Cycle.feed`).  The storage may be larger than the matrix, with rows of
lengths of their own, and hold anything but a right-hand side along the first axis.

After `k` columns it holds their triangular problem, with zeros below the diagonal (`Cycle.Fed`).
A column is kept as it is by the steps that follow, except for its right-hand side, and so one step
(`Cycle.Fed.next`) gives the whole run (`Cycle.exists_feed`), over any scalars.  Over an exact field
the problem has a meaning (`Triangular.rotated_ofMatrix`), and with it the numbers that the run and
back substitution leave (`Cycle.feed_solves`).
-/

namespace MatrixFree.Krylov.Stored

open Matrix

variable {α : Type} {m : Nat}

/-- A loop over the numbers below `m`, by what holds before each of them. -/
theorem exists_foldlM_finRange {S : Type} {f : S → Fin m → Except Fault S} (P : Nat → S → Prop)
    {s : S} (start : P 0 s) (step : ∀ (j : Fin m) s, P j s → ∃ s', f s j = .ok s' ∧ P (j + 1) s') :
    ∃ s', (List.finRange m).foldlM f s = .ok s' ∧ P m s' := by
  induction m with
  | zero => exact ⟨s, rfl, start⟩
  | succ m ih =>
      obtain ⟨s', run, held⟩ :=
        ih (f := fun s j => f s j.castSucc) fun j s held => step j.castSucc s held
      obtain ⟨s'', made, held'⟩ := step (Fin.last m) s' held
      refine ⟨s'', ?_, held'⟩
      rw [List.finRange_succ_last, List.foldlM_append, List.foldlM_map, run, ok_bind,
        List.foldlM_cons, made]
      rfl

namespace MinimalResidual

/-! ## Storage as it is -/

/-- The sizes that the storage has. -/
def Cycle.sizes (c : Cycle α) : Sizes where
  rows := c.matrix.size
  width i := (c.matrix.getD i #[]).size
  rhs := c.rhs.size
  cosines := c.cosines.size
  sines := c.sines.size

theorem eq_line {β : Type} (xs : Array β) (d : β) : xs = line xs.size (xs.getD · d) := by
  refine Array.ext (size_line _ _).symm fun i _ _ => ?_
  simp [line]

/-- Any storage holds something. -/
theorem Cycle.laysIn_sizes [Zero α] (c : Cycle α) :
    c.LaysIn c.sizes (fun i j => (c.matrix.getD i #[]).getD j 0) (c.rhs.getD · 0)
      (c.cosines.getD · 0) (c.sines.getD · 0) := by
  refine ⟨(eq_line c.matrix #[]).trans (congrArg (line _) ?_), eq_line _ 0, eq_line _ 0, eq_line _ 0⟩
  exact funext fun i => eq_line _ 0

/-! ## Columns -/

section Feed

variable [Scalar α] (divide : α → α → Except Fault α) (H : Matrix (Fin (m + 1)) (Fin m) α)

/-- Enter column `j` of `H`. -/
def Cycle.enter (c : Cycle α) (j : Fin m) : Except Fault (Cycle α) := do
  let matrix ← (List.finRange (m + 1)).foldlM (fun rows (i : Fin (m + 1)) =>
    writeAt rows i j (H i j)) c.matrix
  return { c with matrix }

/-- Enter the columns of `H`, and rotate each when it is there. -/
def Cycle.feed (c : Cycle α) : Except Fault (Cycle α) :=
  (List.finRange m).foldlM (fun c j => do (← c.enter H j).rotate divide j) c

variable {divide} {H} {c : Cycle α} {z : Sizes} {beta : α} {k : Nat} {f : Nat → Nat → α}
  {g cs sn : Nat → α}

/-- The storage holds the problem of the first `k` columns of `H`. -/
structure Cycle.Fed (c : Cycle α) (z : Sizes) (beta : α) (H : Matrix (Fin (m + 1)) (Fin m) α)
    (k : Nat) (f : Nat → Nat → α) (g cs sn : Nat → α) : Prop where
  laid : c.LaysIn z f g cs sn
  clear : ∀ i, k < i → g i = 0
  triangular : ∀ i l, l < k → l < i → i ≤ m → f i l = 0
  problem : problem f g cs sn k = .ofMatrix beta H k

/-- Rows with the first `k` entries of column `j`, and with the other columns of `f`. -/
def Entered (z : Sizes) (H : Matrix (Fin (m + 1)) (Fin m) α) (f : Nat → Nat → α) (j : Fin m)
    (k : Nat) (rows : Array (Array α)) : Prop :=
  ∃ f', rows = ragged z.rows z.width f' ∧ (∀ (i l : Nat), l ≠ j → f' i l = f i l) ∧
    ∀ i, i < k → f' i j = entry H i j

theorem Entered.write {rows : Array (Array α)} {i : Fin (m + 1)} {j : Fin m}
    (entered : Entered z H f j i rows) (room : z.HasRoom m) :
    ∃ rows', writeAt rows i j (H i j) = .ok rows' ∧ Entered z H f j (i + 1) rows' := by
  obtain ⟨f', rfl, others, column⟩ := entered
  have last : (i : Nat) ≤ m := Nat.le_of_lt_succ i.isLt
  have row : (i : Nat) < z.rows := last.trans_lt room.rows
  have across : (j : Nat) < z.width i := j.isLt.trans_le (room.width i last)
  refine ⟨_, writeAt_ragged f' row across _, _, rfl, fun i' l other => ?_, fun i' below => ?_⟩
  · rw [set_apply, if_neg fun both => other both.2]
    exact others i' l other
  · rw [set_apply]
    split
    · next here => rw [here.1, entry_val]
    · next other => exact column i' (by omega)

/-- Entering a column faults nowhere, and leaves the other columns. -/
theorem Cycle.exists_enter (laid : c.LaysIn z f g cs sn) (room : z.HasRoom m) (j : Fin m) :
    ∃ c' f', c.enter H j = .ok c' ∧ c'.LaysIn z f' g cs sn ∧
      (∀ (i l : Nat), l ≠ j → f' i l = f i l) ∧ ∀ i, i < m + 1 → f' i j = entry H i j := by
  have start : Entered z H f j 0 c.matrix := ⟨f, laid.matrix, fun _ _ _ => rfl, nofun⟩
  obtain ⟨matrix, run, f', rfl, others, column⟩ :=
    exists_foldlM_finRange (Entered z H f j) start fun _ _ entered => entered.write room
  refine ⟨{ c with matrix := ragged z.rows z.width f' }, f', ?_,
    ⟨rfl, laid.rhs, laid.cosines, laid.sines⟩, others, column⟩
  unfold Cycle.enter
  rw [run]
  rfl

section Step

variable (radius : ∀ d, Scalar.lt (Scalar.abs d) Scalar.noise = false → Divisor divide d)
  (hessenberg : IsHessenberg H) (room : z.HasRoom m)

include radius hessenberg room

theorem Cycle.Fed.next (j : Fin m) (fed : c.Fed z beta H j f g cs sn) :
    ∃ c', (c.enter H j >>= fun c => c.rotate divide j) = .ok c' ∧
      ∃ f' g' cs' sn', c'.Fed z beta H (j + 1) f' g' cs' sn' := by
  obtain ⟨c₁, f₁, entered, laid, others, column⟩ := Cycle.exists_enter (H := H) fed.laid room j
  obtain ⟨c', f', g', cs', sn', made, -, -, laid', kept, cleared, beyond, pushed⟩ :=
    Cycle.rotate_laysIn radius laid room j.isLt (fed.clear (j + 1) (Nat.lt_succ_self j))
  refine ⟨c', ?_, f', g', cs', sn', laid', fun i above => ?_, fun i l hl below hi => ?_, ?_⟩
  · rw [entered, ok_bind, made]
  · rw [beyond i above]
    exact fed.clear i (Nat.lt_of_succ_lt above)
  · rcases Nat.lt_succ_iff_lt_or_eq.mp hl with old | rfl
    · rw [kept i l fun same => absurd same old.ne, others i l old.ne]
      exact fed.triangular i l old below hi
    · rcases Nat.lt_or_eq_of_le (Nat.succ_le_of_lt below) with deep | rfl
      · rw [kept i j fun _ => deep, column i (Nat.lt_succ_of_le hi), hessenberg.entry deep]
      · exact cleared
  · have top : f₁ 0 j = entry H 0 j := column 0 (Nat.succ_pos m)
    have corner : f₁ (j + 1) j = entry H (j + 1) j := column _ (Nat.succ_lt_succ j.isLt)
    have middle : (List.range' 1 j).map (f₁ · j) = (List.range' 1 j).map (entry H · j) := by
      refine List.map_congr_left fun i mem => column i ?_
      have bounds := List.mem_range'_1.mp mem
      have last := j.isLt
      omega
    rw [pushed, top, corner, middle, problem_congr fun i l hl => others i l hl.ne, fed.problem]
    rfl

/-- Feeding a matrix faults nowhere. -/
theorem Cycle.exists_feed (fed : c.Fed z beta H 0 f g cs sn) :
    ∃ c', c.feed divide H = .ok c' ∧ ∃ f' g' cs' sn', c'.Fed z beta H m f' g' cs' sn' := by
  refine exists_foldlM_finRange (fun k (c : Cycle α) => ∃ f g cs sn, c.Fed z beta H k f g cs sn)
    ⟨f, g, cs, sn, fed⟩ ?_
  rintro j c ⟨f, g, cs, sn, fed⟩
  exact fed.next radius hessenberg room j

end Step

theorem Cycle.fed_zero (first : c.rhs = line c.rhs.size (Pi.single 0 beta)) :
    c.Fed c.sizes beta H 0 (fun i j => (c.matrix.getD i #[]).getD j 0) (Pi.single 0 beta)
      (c.cosines.getD · 0) (c.sines.getD · 0) where
  laid := ⟨c.laysIn_sizes.matrix, first, c.laysIn_sizes.cosines, c.laysIn_sizes.sines⟩
  clear i above := by rw [Pi.single_eq_of_ne above.ne']
  triangular := nofun
  problem := by
    unfold MinimalResidual.problem
    rw [Pi.single_eq_same]
    rfl

end Feed

/-! ## The solution -/

section Solution

open Flat ExactField

variable [ExactField α] {divide : α → α → Except Fault α} {H : Matrix (Fin (m + 1)) (Fin m) α}
  {c : Cycle α} {z : Sizes} {beta : α} {f : Nat → Nat → α} {g cs sn : Nat → α}

/-- The norm of an array with zeros from some place on. -/
theorem norm_line {n k : Nat} (inside : k < n) (clear : ∀ i, k < i → g i = 0) {b : α}
    (square : squares ((List.range' 0 k).map g) + g k * g k = b * b) :
    norm (line n g) = .ok |b| := by
  let v : Vector α n := ⟨line n g, size_line g n⟩
  have rest : ∀ i ∈ Finset.range n, i ∉ Finset.range (k + 1) → g i * g i = 0 := by
    intro i _ outside
    have beyond : k < i := Nat.lt_of_succ_le (Nat.not_lt.mp (mt Finset.mem_range.mpr outside))
    rw [clear i beyond, zero_mul]
  have listed : squares ((List.range' 0 k).map g) = ∑ i ∈ Finset.range k, g i * g i := by
    rw [squares, List.map_map, ← List.range_eq_range']
    rfl
  have sum : entries v ⬝ᵥ entries v = |b| * |b| := by
    calc entries v ⬝ᵥ entries v = ∑ i : Fin n, g i * g i := by simp [v, entries, line, dotProduct]
      _ = ∑ i ∈ Finset.range n, g i * g i := (Finset.sum_range fun i => g i * g i).symm
      _ = ∑ i ∈ Finset.range (k + 1), g i * g i :=
        (Finset.sum_subset (Finset.range_mono inside) rest).symm
      _ = |b| * |b| := by rw [Finset.sum_range_succ, ← listed, square, abs_mul_abs_self]
  refine (norm_toArray v).trans ?_
  rw [norm_eq_euclidean, euclidean_eq (abs_nonneg b) sum]

namespace Cycle.Fed

variable (fed : c.Fed z beta H m f g cs sn) (room : z.HasRoom m)

include fed

theorem rows_eq : (Triangular.ofMatrix beta H m).rows = (List.range' 0 m).map (row f g m) := by
  rw [← fed.problem]
  rfl

theorem pending_eq : (Triangular.ofMatrix beta H m).pending = g m := by
  rw [← fed.problem]
  rfl

include room

theorem readAt_eq {i j : Nat} (hi : i < m) (hj : j < m) : readAt c.matrix i j = .ok (f i j) := by
  rw [fed.laid.matrix]
  exact readAt_ragged f (hi.trans room.rows) (hj.trans_le (room.width i hi.le))

/-- The pivots are on the diagonal. -/
theorem pivotal_iff : Pivotal (Triangular.ofMatrix beta H m).rows ↔
    ∀ i < m, ∃ pivot, readAt c.matrix i i = .ok pivot ∧ noise < |pivot| := by
  unfold Pivotal
  rw [fed.rows_eq, List.forall_mem_map]
  refine ⟨fun pivots i hi => ⟨f i i, fed.readAt_eq room hi hi, ?_⟩, fun pivots i mem => ?_⟩
  · exact pivots i (List.mem_range'_1.mpr ⟨Nat.zero_le i, by rwa [Nat.zero_add]⟩)
  · have bounds := List.mem_range'_1.mp mem
    have hi : i < m := by omega
    obtain ⟨pivot, entry, large⟩ := pivots i hi
    rw [fed.readAt_eq room hi hi] at entry
    obtain rfl := Except.ok.inj entry
    exact large

theorem norm_rhs (square : squares ((Triangular.ofMatrix beta H m).rows.map Row.rhs) +
      (Triangular.ofMatrix beta H m).pending * (Triangular.ofMatrix beta H m).pending =
        beta * beta) : norm c.rhs = .ok |beta| := by
  rw [fed.rows_eq, fed.pending_eq, List.map_map] at square
  rw [fed.laid.rhs]
  exact norm_line room.rhs fed.clear square

/-- Back substitution on storage gives the unknowns of the problem. -/
theorem exists_backSubstitute (divides : ∀ d, noise ≤ |d| → Divisor divide d) :
    ∃ rhs, slice c.rhs m = .ok rhs ∧ ∃ y : Vector α m,
      backSubstitute divide c.matrix rhs m = .ok y.toArray ∧
      y.toList = (Triangular.ofMatrix beta H m).solution := by
  have solution : (Triangular.ofMatrix beta H m).solution.length = m := by
    rw [Triangular.solution, length_backSubstitute, (Triangular.sized_ofMatrix beta H m).rows]
  have pivot (d : α) (large : Scalar.lt Scalar.noise (Scalar.abs d) = true) : Divisor divide d :=
    divides d (of_decide_eq_true large).le
  refine ⟨line m g, ?_, ⟨_, solution⟩, ?_, rfl⟩
  · rw [fed.laid.rhs, slice_line g room.rhs.le]
  · rw [fed.laid.matrix, backSubstitute_eq pivot room.rows.le fun i hi => room.width i hi.le,
      ← fed.rows_eq]

end Cycle.Fed

/-- **Least squares on storage.**  Over an exact field, feed the storage of a cycle any Hessenberg
matrix `H`, column by column.  The storage has room for it, and maybe more, and holds anything but a
right-hand side `beta` times the first axis; a division need not succeed below the threshold.  The
run faults nowhere, and what it leaves is upper triangular.  If no pivot is in the noise, and then
no radius was, the right-hand side still has the norm `|beta|`, back substitution answers a vector
`y`, and the entry of the right-hand side below the triangle is, up to its sign, the least norm of
`beta e₁ - H z` over all `z`, which is attained at `y` and nowhere else. -/
theorem Cycle.feed_solves (threshold : 0 ≤ (noise : α))
    (divides : ∀ d, noise ≤ |d| → Divisor divide d) (hessenberg : IsHessenberg H)
    (room : c.sizes.HasRoom m) (first : c.rhs = line c.rhs.size (Pi.single 0 beta)) :
    ∃ c', c.feed divide H = .ok c' ∧
      (∀ i l, l < i → i < m → readAt c'.matrix i l = .ok 0) ∧
      ((∀ i < m, ∃ pivot, readAt c'.matrix i i = .ok pivot ∧ noise < |pivot|) →
        norm c'.rhs = .ok |beta| ∧
        ∃ rhs rest, slice c'.rhs m = .ok rhs ∧ read c'.rhs m = .ok rest ∧ ∃ y : Vector α m,
          backSubstitute divide c'.matrix rhs m = .ok y.toArray ∧
          (∀ z, |rest| ≤ euclidean (Pi.single 0 beta - H *ᵥ z)) ∧
          ∀ z, |rest| = euclidean (Pi.single 0 beta - H *ᵥ z) ↔ z = entries y) := by
  have radius (d : α) (large : Scalar.lt (Scalar.abs d) Scalar.noise = false) : Divisor divide d :=
    divides d (not_lt.mp (of_decide_eq_false large))
  obtain ⟨c', run, f, g, cs, sn, fed⟩ :=
    Cycle.exists_feed radius hessenberg room (Cycle.fed_zero (H := H) first)
  refine ⟨c', run, fun i l below hi => ?_, fun large => ?_⟩
  · rw [fed.readAt_eq room hi (below.trans hi), fed.triangular i l (below.trans hi) below hi.le]
  · have pivots := (fed.pivotal_iff room).mpr large
    obtain ⟨rhs, sliced, y, solved, unknowns⟩ := fed.exists_backSubstitute room divides
    have rest : read c'.rhs m = .ok (Triangular.ofMatrix beta H m).pending := by
      rw [fed.laid.rhs, fed.pending_eq, read_line g room.rhs]
    refine ⟨fed.norm_rhs room (Triangular.square_ofMatrix threshold hessenberg pivots), rhs, _,
      sliced, rest, y, solved, Triangular.residual_ofMatrix_le threshold hessenberg pivots,
      fun z => ?_⟩
    have values : List.ofFn (entries y) = y.toList := List.ext_getElem (by simp) (by simp [entries])
    refine (Triangular.residual_ofMatrix_eq_iff threshold hessenberg pivots z).trans ?_
    rw [← unknowns, ← values, List.ofFn_inj]

/-- Three equations for two unknowns, in storage for more of both that has been in use. -/
theorem Cycle.feed_solves_reused :
    let H : Matrix (Fin 3) (Fin 2) ℝ := !![3, 0; 4, 5; 0, 4]
    let c : Cycle ℝ :=
      { basis := #[], matrix := #[#[7, 7, 7], #[7, 7], #[7, 7, 7], #[7]], rhs := #[25, 0, 0, 0],
        cosines := #[7, 7, 7], sines := #[7, 7], columns := 3 }
    let divide (a d : ℝ) : Except Fault ℝ := .ok (a / d)
    0 ≤ (noise : ℝ) ∧ (∀ d, noise ≤ |d| → Divisor divide d) ∧ IsHessenberg H ∧
      c.sizes.HasRoom 2 ∧ c.rhs = line c.rhs.size (Pi.single 0 25) ∧
      ∃ c', c.feed divide H = .ok c' ∧
        (∀ i < 2, ∃ pivot, readAt c'.matrix i i = .ok pivot ∧ noise < |pivot|) ∧
        readAt c'.matrix 1 0 = .ok 0 ∧ norm c'.rhs = .ok |25| ∧
        ∃ rhs rest, slice c'.rhs 2 = .ok rhs ∧ read c'.rhs 2 = .ok rest ∧ ∃ y : Vector ℝ 2,
          backSubstitute divide c'.matrix rhs 2 = .ok y.toArray ∧
          |rest| = euclidean (Pi.single 0 25 - H *ᵥ entries y) := by
  intro H c divide
  have threshold : 0 ≤ (noise : ℝ) := by norm_num [noise]
  have divides (d : ℝ) (_ : noise ≤ |d|) : Divisor divide d := fun _ => rfl
  have hessenberg : IsHessenberg H := by
    intro i j below
    fin_cases i <;> fin_cases j <;> simp_all [H]
  have room : c.sizes.HasRoom 2 := by
    refine ⟨by decide, fun i hi => ?_, by decide, by decide, by decide⟩
    interval_cases i <;> decide
  have first : c.rhs = line c.rhs.size (Pi.single 0 25) := by
    refine Array.ext (size_line _ _).symm fun i inside _ => ?_
    change i < 4 at inside
    interval_cases i <;> simp [line, c]
  have large (j : Fin 2) : noise < |H j.succ j| := by
    fin_cases j <;> change (noise : ℝ) < |4| <;> norm_num [noise]
  have radius (d : ℝ) (_ : Scalar.lt (Scalar.abs d) Scalar.noise = false) : Divisor divide d :=
    fun _ => rfl
  obtain ⟨_, run', _, _, _, _, fed⟩ :=
    Cycle.exists_feed radius hessenberg room (Cycle.fed_zero (H := H) first)
  obtain ⟨c', run, triangular, solves⟩ :=
    Cycle.feed_solves threshold divides hessenberg room first
  obtain rfl := Except.ok.inj (run.symm.trans run')
  have pivots := (fed.pivotal_iff room).mp (Triangular.pivotal_ofMatrix threshold 25 large)
  obtain ⟨length, rhs, rest, sliced, read, y, solved, -, least⟩ := solves pivots
  exact ⟨threshold, divides, hessenberg, room, first, c', run, pivots,
    triangular 1 0 Nat.zero_lt_one Nat.one_lt_two, length, rhs, rest, sliced, read, y, solved,
    (least _).mpr rfl⟩

end Solution

end MinimalResidual

end MatrixFree.Krylov.Stored
