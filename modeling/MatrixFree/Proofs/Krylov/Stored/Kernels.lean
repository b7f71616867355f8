import MatrixFree.Proofs.Krylov.Stored.Access

/-!
# Cycles on storage

The parts of a cycle of minimal residuals, one after the other: the passes of the orthogonalization,
the sweep of a new column through the earlier rotations, the rotation that is added, and the
triangular system from its last row up.  Each makes its accesses in range, and the entries that it
leaves are those that the lists of `Krylov.MinimalResidual` hold (`Cycle.grow_eq`,
`Cycle.improve_eq`).

A matrix in storage is larger than the problem that it holds.  What lies outside the columns that
are there is neither read nor known (`Lays`).
-/

namespace MatrixFree.Krylov.Stored

/-- The tests of the methods let no divisor through by which `divide` does not divide. -/
structure Divides {α : Type} [Scalar α] (divide : α → α → Except Fault α) (criteria : Criteria α) :
    Prop where
  /-- The radius of a rotation. -/
  radius : ∀ d, Scalar.lt (Scalar.abs d) Scalar.noise = false → Divisor divide d
  /-- A pivot of a triangular system. -/
  pivot : ∀ d, Scalar.lt Scalar.noise (Scalar.abs d) = true → Divisor divide d
  /-- The norm of the next basis vector. -/
  scale : ∀ {n : Nat} (basis : List (Vector α n)) (w : Vector α n),
    let next := Flat.norm (Krylov.MinimalResidual.orthogonalizeTwice basis w).2
    Scalar.le (Scalar.abs next) (Scalar.noise * Flat.norm w) = false → Divisor divide next
  /-- The norm of a residual. -/
  residual : ∀ d origin i, criteria.check d origin i = .iterating → Divisor divide d
  /-- The square of the norm of a residual. -/
  square : ∀ d origin i, criteria.check (Scalar.sqrt d) origin i = .iterating → Divisor divide d
  /-- The curvature along a search direction. -/
  curvature : ∀ d, Krylov.ConjugateGradient.curvatureVerdict d = none → Divisor divide d
  /-- A scalar of the biconjugate recurrence. -/
  product : ∀ d, Krylov.BiconjugateGradient.vanishes d = false → Divisor divide d

theorem Divides.of_total {α : Type} [Scalar α] {divide : α → α → Except Fault α}
    (total : ∀ d, Divisor divide d) (criteria : Criteria α) : Divides divide criteria :=
  ⟨fun d _ => total d, fun d _ => total d, fun _ _ _ => total _, fun d _ _ _ => total d,
    fun d _ _ _ => total d, fun d _ => total d, fun d _ => total d⟩

namespace MinimalResidual

variable {α : Type} [Scalar α] {m n rows cols : Nat}

/-! ## Orthogonalization -/

section Orthogonalize

variable {basis : Array (Array α)} {i j : Nat}

omit [Scalar α] in
theorem getElem?_add_succ {v : Vector α n} {vs : List (Vector α n)}
    (stored : ∀ k u, (v :: vs)[k]? = some u → basis[i + k]? = some u.toArray) :
    basis[i]? = some v.toArray ∧ ∀ k u, vs[k]? = some u → basis[i + 1 + k]? = some u.toArray := by
  refine ⟨stored 0 v rfl, fun k u found => ?_⟩
  rw [Nat.add_assoc, Nat.add_comm 1 k]
  exact stored (k + 1) u found

theorem project_eq (enter : α → α → α) {v : Vector α n} (stored : basis[i]? = some v.toArray)
    (hi : i < rows) (hj : j < cols) (f : Nat → Nat → α) (w : Vector α n) :
    project enter basis j (table rows cols f, w.toArray) i =
      .ok (table rows cols (set f i j (enter (f i j) (Flat.dot w v))),
        (Flat.subMul w (Flat.dot w v) v).toArray) := by
  simp only [project, read_of_getElem? stored, dotOf_toArray, readAt_table f hi hj,
    writeAt_table f hi hj, merge_subMul, ok_bind, pure, Except.pure]

/-- A pass against the vectors `vs`, which are in storage from `i` on. -/
theorem foldlM_project (enter : α → α → α) (rows : Nat) (hj : j < cols) {vs : List (Vector α n)}
    (stored : ∀ k v, vs[k]? = some v → basis[i + k]? = some v.toArray)
    (room : i + vs.length ≤ rows) (f : Nat → Nat → α) (w : Vector α n) :
    ∃ f', (List.range' i vs.length).foldlM (project enter basis j) (table rows cols f, w.toArray) =
        .ok (table rows cols f', (Krylov.MinimalResidual.orthogonalize vs w).2.toArray) ∧
      (∀ k l, (l = j → k < i) → f' k l = f k l) ∧
      (List.range' i vs.length).map (f' · j) =
        List.zipWith enter ((List.range' i vs.length).map (f · j))
          (Krylov.MinimalResidual.orthogonalize vs w).1 := by
  induction vs generalizing i f w with
  | nil => exact ⟨f, rfl, fun _ _ _ => rfl, rfl⟩
  | cons v vs ih =>
      rw [List.length_cons] at room
      obtain ⟨here, later⟩ := getElem?_add_succ stored
      let c := Flat.dot w v
      obtain ⟨f', run, frame, column⟩ := ih later (by omega) (set f i j (enter (f i j) c))
        (Flat.subMul w c v)
      refine ⟨f', ?_, ?_, ?_⟩
      · rw [List.length_cons, List.range'_succ, List.foldlM_cons,
          project_eq enter here (by omega) hj, ok_bind]
        exact run
      · intro k l outside
        rw [frame k l fun same => Nat.lt_succ_of_lt (outside same), set_apply, if_neg]
        rintro ⟨rfl, same⟩
        exact Nat.lt_irrefl _ (outside same)
      · have head : f' i j = enter (f i j) c := by
          rw [frame i j fun _ => Nat.lt_succ_self i, set_self]
        have tail : (List.range' (i + 1) vs.length).map (set f i j (enter (f i j) c) · j) =
            (List.range' (i + 1) vs.length).map (f · j) := by
          refine List.map_congr_left fun k mem => ?_
          have above := (List.mem_range'_1.mp mem).1
          rw [set_of_row_ne f j _ (by omega)]
        rw [List.length_cons, List.range'_succ, List.map_cons, List.map_cons, head, column, tail]
        rfl

/-- Both passes together leave the components in column `j`. -/
theorem orthogonalize_twice (rows : Nat) (hj : j < cols) (hrows : j < rows) {vs : List (Vector α n)}
    (length : vs.length = j + 1)
    (stored : ∀ (k : Nat) (v : Vector α n), vs[k]? = some v → basis[k]? = some v.toArray)
    (f : Nat → Nat → α) (w : Vector α n) :
    ∃ f' between,
      orthogonalize (fun _ c => c) basis j (table rows cols f, w.toArray) = .ok between ∧
      orthogonalize (· + ·) basis j between =
        .ok (table rows cols f', (Krylov.MinimalResidual.orthogonalizeTwice vs w).2.toArray) ∧
      (∀ k l, l ≠ j → f' k l = f k l) ∧
      (List.range' 0 (j + 1)).map (f' · j) =
        (Krylov.MinimalResidual.orthogonalizeTwice vs w).1 := by
  have stored' (k : Nat) (v : Vector α n) (found : vs[k]? = some v) :
      basis[0 + k]? = some v.toArray := by
    rw [Nat.zero_add]
    exact stored k v found
  obtain ⟨f₁, run₁, frame₁, column₁⟩ :=
    foldlM_project (fun _ c => c) rows hj stored' (by omega) f w
  obtain ⟨f₂, run₂, frame₂, column₂⟩ :=
    foldlM_project (· + ·) rows hj stored' (by omega) f₁
      (Krylov.MinimalResidual.orthogonalize vs w).2
  rw [length] at run₁ column₁ run₂ column₂
  refine ⟨f₂, _, run₁, run₂, ?_, ?_⟩
  · intro k l other
    rw [frame₂ k l fun same => absurd same other, frame₁ k l fun same => absurd same other]
  · have whole : List.zipWith (fun _ c => c) ((List.range' 0 (j + 1)).map (f · j))
        (Krylov.MinimalResidual.orthogonalize vs w).1 =
        (Krylov.MinimalResidual.orthogonalize vs w).1 := by
      refine List.ext_getElem ?_ fun k _ _ => List.getElem_zipWith
      rw [List.length_zipWith, List.length_map, List.length_range',
        Krylov.MinimalResidual.length_orthogonalize, length, Nat.min_self]
    rw [column₂, column₁, whole]
    rfl

end Orthogonalize

/-! ## Rotations -/

section Rotations

/-- The rotation with the number `i`. -/
def rotation (cs sn : Nat → α) (i : Nat) : Rotation α := ⟨cs i, sn i⟩

variable (cs sn : Nat → α) {i j cosines sines : Nat} {width : Nat → Nat}

theorem turn_eq (hc : i < cosines) (hs : i < sines) (hrows : i + 1 < rows) (hi : j < width i)
    (hj : j < width (i + 1)) (f : Nat → Nat → α) :
    turn (line cosines cs) (line sines sn) j (ragged rows width f) i =
      let r := rotation cs sn i
      .ok (ragged rows width
        (set (set f (i + 1) j (r.lower (f i j) (f (i + 1) j))) i j
          (r.upper (f i j) (f (i + 1) j)))) := by
  have before : i < rows := by omega
  simp only [turn, read_line _ hc, read_line _ hs, readAt_ragged f before hi,
    readAt_ragged f hrows hj, writeAt_ragged _ hrows hj, writeAt_ragged _ before hi, ok_bind]
  rfl

/-- A sweep through the rotations from `i` on. -/
theorem foldlM_turn {count : Nat} (hc : i + count ≤ cosines) (hs : i + count ≤ sines)
    (hrows : i + count < rows) (hj : ∀ k, k ≤ i + count → j < width k) (f : Nat → Nat → α) :
    ∃ f', (List.range' i count).foldlM (turn (line cosines cs) (line sines sn) j)
        (ragged rows width f) = .ok (ragged rows width f') ∧
      (∀ k l, (l = j → k < i ∨ i + count < k) → f' k l = f k l) ∧
      Rotation.sweep ((List.range' i count).map (rotation cs sn)) (f i j)
          ((List.range' (i + 1) count).map (f · j)) =
        ((List.range' i count).map (f' · j), f' (i + count) j) := by
  induction count generalizing i f with
  | zero => exact ⟨f, rfl, fun _ _ _ => rfl, rfl⟩
  | succ count ih =>
      let r := rotation cs sn i
      let below := r.lower (f i j) (f (i + 1) j)
      let turned := set (set f (i + 1) j below) i j (r.upper (f i j) (f (i + 1) j))
      obtain ⟨f', run, frame, swept⟩ := ih (i := i + 1) (by omega) (by omega) (by omega)
        (fun k hk => hj k (by omega)) turned
      have first : turn (line cosines cs) (line sines sn) j (ragged rows width f) i =
          .ok (ragged rows width turned) :=
        turn_eq cs sn (by omega) (by omega) (by omega) (hj i (by omega)) (hj (i + 1) (by omega)) f
      refine ⟨f', ?_, ?_, ?_⟩
      · rw [List.range'_succ, List.foldlM_cons, first, ok_bind]
        exact run
      · intro k l outside
        rw [frame k l fun same => by have := outside same; omega]
        simp only [turned, set_apply]
        rw [if_neg fun both => by have := outside both.2; omega,
          if_neg fun both => by have := outside both.2; omega]
      · have top : f' i j = r.upper (f i j) (f (i + 1) j) := by
          rw [frame i j fun _ => .inl (Nat.lt_succ_self i)]
          exact set_self _ i j _
        have next : turned (i + 1) j = below := by
          simp [turned, set_apply]
        have rest : (List.range' (i + 1 + 1) count).map (turned · j) =
            (List.range' (i + 1 + 1) count).map (f · j) := by
          refine List.map_congr_left fun k mem => ?_
          have above := (List.mem_range'_1.mp mem).1
          simp only [turned]
          rw [set_of_row_ne _ j _ (by omega), set_of_row_ne _ j _ (by omega)]
        rw [next, rest] at swept
        rw [List.range'_succ, List.range'_succ, List.map_cons, List.map_cons, List.map_cons,
          Rotation.sweep, swept, top, Nat.add_right_comm]
        rfl

/-- The whole sweep of column `j`. -/
theorem sweep_eq (hc : j ≤ cosines) (hs : j ≤ sines) (hrows : j < rows)
    (hj : ∀ k, k ≤ j → j < width k) (f : Nat → Nat → α) :
    ∃ f', sweep (line cosines cs) (line sines sn) j (ragged rows width f) =
        .ok (ragged rows width f') ∧
      (∀ k l, (l = j → j < k) → f' k l = f k l) ∧
      Rotation.sweep ((List.range' 0 j).map (rotation cs sn)) (f 0 j)
          ((List.range' 1 j).map (f · j)) = ((List.range' 0 j).map (f' · j), f' j j) := by
  have all : 0 + j = j := Nat.zero_add j
  obtain ⟨f', run, frame, swept⟩ := foldlM_turn cs sn (all.trans_le hc) (all.trans_le hs)
    (all.trans_lt hrows) (fun k hk => hj k (hk.trans_eq all)) f
  simp only [Nat.zero_add] at swept
  refine ⟨f', run, fun k l beyond => frame k l fun same => .inr ?_, swept⟩
  rw [Nat.zero_add]
  exact beyond same

theorem align_eq {divide : α → α → Except Fault α}
    (radius : ∀ d, Scalar.lt (Scalar.abs d) Scalar.noise = false → Divisor divide d) (a b : α) :
    align divide a b = .ok ((Rotation.align a b).cos, (Rotation.align a b).sin) := by
  unfold align Rotation.align
  dsimp only
  split
  · rfl
  · next large =>
      have divisor := radius _ (eq_false_of_ne_true large)
      rw [divisor, divisor]
      rfl

end Rotations

/-! ## The triangular problem -/

section Problem

/-- Row `i` of a problem with `k` columns. -/
def row (f : Nat → Nat → α) (g : Nat → α) (k i : Nat) : Row α :=
  ⟨f i i, (List.range' (i + 1) (k - (i + 1))).map (f i), g i⟩

/-- The problem that is in storage when `k` columns are. -/
def problem (f : Nat → Nat → α) (g cs sn : Nat → α) (k : Nat) : Triangular α :=
  ⟨(List.range' 0 k).map (rotation cs sn), (List.range' 0 k).map (row f g k), g k⟩

/-- The sizes of the storage of a cycle. -/
structure Sizes where
  rows : Nat
  /-- The length of each row. -/
  width : Nat → Nat
  rhs : Nat
  cosines : Nat
  sines : Nat

/-- Room for `m` columns, and maybe more. -/
structure Sizes.HasRoom (z : Sizes) (m : Nat) : Prop where
  rows : m < z.rows
  width : ∀ i, i ≤ m → m ≤ z.width i
  rhs : m < z.rhs
  cosines : m ≤ z.cosines
  sines : m ≤ z.sines

/-- The sizes with which a cycle begins. -/
def Sizes.full (restart : Nat) : Sizes :=
  ⟨restart + 1, fun _ => restart, restart + 1, restart, restart⟩

theorem Sizes.hasRoom_full (restart : Nat) : (full restart).HasRoom restart :=
  ⟨Nat.lt_succ_self _, fun _ _ => Nat.le_refl _, Nat.lt_succ_self _, Nat.le_refl _, Nat.le_refl _⟩

/-- Storage of these sizes, with the entries that are in it. -/
structure Cycle.LaysIn (c : Cycle α) (z : Sizes) (f : Nat → Nat → α) (g cs sn : Nat → α) :
    Prop where
  matrix : c.matrix = ragged z.rows z.width f
  rhs : c.rhs = line z.rhs g
  cosines : c.cosines = line z.cosines cs
  sines : c.sines = line z.sines sn

/-- The storage of a cycle, with the entries that are in it. -/
structure Cycle.Lays (c : Cycle α) (restart : Nat) (f : Nat → Nat → α) (g cs sn : Nat → α) :
    Prop where
  matrix : c.matrix = table (restart + 1) restart f
  rhs : c.rhs = line (restart + 1) g
  cosines : c.cosines = line restart cs
  sines : c.sines = line restart sn

variable {f f' : Nat → Nat → α} {g cs sn : Nat → α} {j k : Nat}

omit [Scalar α] in
theorem row_extend {i : Nat} (hi : i < j) {g' : Nat → α} (pivot : ∀ l, l < j → f' i l = f i l)
    (rhs : g' i = g i) : row f' g' (j + 1) i = (row f g j i).extend (f' i j) := by
  have more : List.range' (i + 1) (j + 1 - (i + 1)) = List.range' (i + 1) (j - (i + 1)) ++ [j] := by
    rw [show j + 1 - (i + 1) = j - (i + 1) + 1 by omega, List.range'_1_concat]
    congr 2
    omega
  have old : (List.range' (i + 1) (j - (i + 1))).map (f' i) =
      (List.range' (i + 1) (j - (i + 1))).map (f i) := by
    refine List.map_congr_left fun l mem => pivot l ?_
    have bounds := List.mem_range'_1.mp mem
    omega
  simp only [row, Row.extend, more, List.map_append, List.map_singleton, old, pivot i hi, rhs]

omit [Scalar α] in
/-- Other columns are no part of a problem. -/
theorem problem_congr (same : ∀ i l, l < k → f' i l = f i l) :
    problem f' g cs sn k = problem f g cs sn k := by
  have rows : (List.range' 0 k).map (row f' g k) = (List.range' 0 k).map (row f g k) := by
    refine List.map_congr_left fun i mem => ?_
    have bound := List.mem_range'_1.mp mem
    have right : (List.range' (i + 1) (k - (i + 1))).map (f' i) =
        (List.range' (i + 1) (k - (i + 1))).map (f i) := by
      refine List.map_congr_left fun l mem => same i l ?_
      have bounds := List.mem_range'_1.mp mem
      omega
    simp only [row, right, same i i (by omega)]
  simp only [problem, rows]

/-- The new column, swept and rotated, makes the problem that `Triangular.push` makes. -/
theorem problem_push {f₁ : Nat → Nat → α} (swept : Rotation.sweep
      ((List.range' 0 j).map (rotation cs sn)) (f 0 j) ((List.range' 1 j).map (f · j)) =
        ((List.range' 0 j).map (f₁ · j), f₁ j j))
    (frame : ∀ i l, l < j → f₁ i l = f i l) (clear : g (j + 1) = 0) (b : α) :
    let r := Rotation.align (f₁ j j) b
    problem (set (set f₁ j j (r.upper (f₁ j j) b)) (j + 1) j 0)
        (Function.update (Function.update g (j + 1) (r.lower (g j) (g (j + 1)))) j
          (r.upper (g j) (g (j + 1))))
        (Function.update cs j r.cos) (Function.update sn j r.sin) (j + 1) =
      (problem f g cs sn j).push (f 0 j) ((List.range' 1 j).map (f · j)) b := by
  intro r
  have rotations : (List.range' 0 j).map
        (rotation (Function.update cs j r.cos) (Function.update sn j r.sin)) =
      (List.range' 0 j).map (rotation cs sn) := by
    refine List.map_congr_left fun i mem => ?_
    have below := List.mem_range'_1.mp mem
    have other : i ≠ j := by omega
    simp only [rotation, Function.update_of_ne other]
  have rows : (List.range' 0 j).map (row (set (set f₁ j j (r.upper (f₁ j j) b)) (j + 1) j 0)
        (Function.update (Function.update g (j + 1) (r.lower (g j) (g (j + 1)))) j
          (r.upper (g j) (g (j + 1)))) (j + 1)) =
      (List.range' 0 j).map fun i => (row f g j i).extend (f₁ i j) := by
    refine List.map_congr_left fun i mem => ?_
    have below := List.mem_range'_1.mp mem
    have here : i ≠ j := by omega
    have next : i ≠ j + 1 := by omega
    rw [row_extend (f := f) (g := g) (by omega)]
    · rw [set_of_row_ne _ _ _ next, set_of_row_ne _ _ _ here]
    · intro l hl
      rw [set_of_row_ne _ _ _ next, set_of_row_ne _ _ _ here, frame i l hl]
    · rw [Function.update_of_ne here, Function.update_of_ne next]
  have last : row (set (set f₁ j j (r.upper (f₁ j j) b)) (j + 1) j 0)
        (Function.update (Function.update g (j + 1) (r.lower (g j) (g (j + 1)))) j
          (r.upper (g j) (g (j + 1)))) (j + 1) j =
      ⟨r.upper (f₁ j j) b, [], r.upper (g j) 0⟩ := by
    have other : j ≠ j + 1 := by omega
    simp only [row, set_of_row_ne _ _ _ other, set_self, Nat.sub_self, List.range'_zero,
      List.map_nil, Function.update_self, clear]
  have pending : Function.update (Function.update g (j + 1) (r.lower (g j) (g (j + 1)))) j
      (r.upper (g j) (g (j + 1))) (j + 1) = r.lower (g j) 0 := by
    have other : j + 1 ≠ j := by omega
    rw [Function.update_of_ne other, Function.update_self, clear]
  have newest : rotation (Function.update cs j r.cos) (Function.update sn j r.sin) j = r := by
    simp only [rotation, Function.update_self]
  have all : List.range' 0 (j + 1) = List.range' 0 j ++ [j] := by
    rw [List.range'_1_concat, Nat.zero_add]
  simp only [problem, Triangular.push, swept, all, List.map_append, List.map_singleton, rotations,
    rows, last, pending, newest, List.zipWith_map, List.zipWith_self]
  rfl

/-- The storage of a cycle holds a problem in its first `k` columns, and nothing further on the
right-hand side. -/
def Cycle.Holds (c : Cycle α) (restart k : Nat) (p : Triangular α) : Prop :=
  ∃ f g cs sn, c.Lays restart f g cs sn ∧ (∀ i, k < i → g i = 0) ∧ problem f g cs sn k = p

section Rotate

variable {divide : α → α → Except Fault α} {criteria : Criteria α} {c : Cycle α} {restart : Nat}

section Radius

variable (radius : ∀ d, Scalar.lt (Scalar.abs d) Scalar.noise = false → Divisor divide d)
  {z : Sizes} (lays : c.LaysIn z f g cs sn) (room : z.HasRoom k) (hj : j < k)

include radius lays room hj

/-- What is done after the sweep, which has made `f'` of the entries. -/
theorem Cycle.rotate_of_sweep
    (run : sweep c.cosines c.sines j c.matrix = .ok (ragged z.rows z.width f')) :
    let r := Rotation.align (f' j j) (f' (j + 1) j)
    c.rotate divide j = .ok
      { basis := c.basis
        matrix := ragged z.rows z.width
          (set (set f' j j (r.upper (f' j j) (f' (j + 1) j))) (j + 1) j 0)
        rhs := line z.rhs (Function.update (Function.update g (j + 1) (r.lower (g j) (g (j + 1)))) j
          (r.upper (g j) (g (j + 1))))
        cosines := line z.cosines (Function.update cs j r.cos)
        sines := line z.sines (Function.update sn j r.sin)
        columns := j + 1 } := by
  intro r
  have row : j < z.rows := hj.trans room.rows
  have under : j + 1 < z.rows := Nat.lt_of_le_of_lt hj room.rows
  have upper : j < z.rhs := hj.trans room.rhs
  have lower : j + 1 < z.rhs := Nat.lt_of_le_of_lt hj room.rhs
  have cosine : j < z.cosines := hj.trans_le room.cosines
  have sine : j < z.sines := hj.trans_le room.sines
  have across : j < z.width j := hj.trans_le (room.width j hj.le)
  have across' : j < z.width (j + 1) := hj.trans_le (room.width (j + 1) hj)
  unfold Cycle.rotate
  rw [run, lays.rhs, lays.cosines, lays.sines]
  simp only [ok_bind, readAt_ragged _ row across, readAt_ragged _ under across', align_eq radius,
    write_line _ cosine, write_line _ sine, writeAt_ragged _ row across,
    writeAt_ragged _ under across', read_line _ upper, read_line _ lower, write_line _ upper,
    write_line _ lower]
  rfl

/-- Rotating a new column adds it to the problem, and leaves alone what is not of the column or of
the two entries of the right-hand side. -/
theorem Cycle.rotate_laysIn (clear : g (j + 1) = 0) :
    ∃ c' f' g' cs' sn', c.rotate divide j = .ok c' ∧ c'.basis = c.basis ∧ c'.columns = j + 1 ∧
      c'.LaysIn z f' g' cs' sn' ∧ (∀ i l, (l = j → j + 1 < i) → f' i l = f i l) ∧
      f' (j + 1) j = 0 ∧ (∀ i, j + 1 < i → g' i = g i) ∧
      problem f' g' cs' sn' (j + 1) =
        (problem f g cs sn j).push (f 0 j) ((List.range' 1 j).map (f · j)) (f (j + 1) j) := by
  obtain ⟨f₁, run, frame, swept⟩ := sweep_eq cs sn (hj.le.trans room.cosines)
    (hj.le.trans room.sines) (hj.trans room.rows)
    (fun i hi => hj.trans_le (room.width i (hi.trans hj.le))) f
  rw [← lays.cosines, ← lays.sines, ← lays.matrix] at run
  have corner : f₁ (j + 1) j = f (j + 1) j := frame _ _ fun _ => Nat.lt_succ_self j
  have left (i l : Nat) (hl : l < j) : f₁ i l = f i l := frame i l fun same => by omega
  have made := Cycle.rotate_of_sweep radius lays room hj run
  rw [corner] at made
  refine ⟨_, _, _, _, _, made, rfl, rfl, ⟨rfl, rfl, rfl, rfl⟩, ?_, set_self .., ?_,
    problem_push swept left clear (f (j + 1) j)⟩
  · intro i l outside
    have here : ¬(i = j ∧ l = j) := fun both => by have := outside both.2; omega
    have next : ¬(i = j + 1 ∧ l = j) := fun both => by have := outside both.2; omega
    rw [set_apply, if_neg next, set_apply, if_neg here]
    exact frame i l fun same => Nat.lt_of_succ_lt (outside same)
  · intro i beyond
    have here : i ≠ j := by omega
    have next : i ≠ j + 1 := by omega
    rw [Function.update_of_ne here, Function.update_of_ne next]

end Radius

/-- A cycle of full size holds the problem with the new column. -/
theorem Cycle.rotate_eq (divides : Divides divide criteria) (lays : c.Lays restart f g cs sn)
    (hj : j < restart) (clear : ∀ i, j < i → g i = 0) :
    ∃ c', c.rotate divide j = .ok c' ∧ c'.basis = c.basis ∧ c'.columns = j + 1 ∧
      c'.Holds restart (j + 1)
        ((problem f g cs sn j).push (f 0 j) ((List.range' 1 j).map (f · j)) (f (j + 1) j)) := by
  have laid : c.LaysIn (.full restart) f g cs sn := ⟨lays.1, lays.2, lays.3, lays.4⟩
  obtain ⟨c', f', g', cs', sn', made, basis, columns, laid', -, -, kept, pushed⟩ :=
    Cycle.rotate_laysIn divides.radius laid (Sizes.hasRoom_full restart) hj
      (clear (j + 1) (Nat.lt_succ_self j))
  refine ⟨c', made, basis, columns, f', g', cs', sn',
    ⟨laid'.1, laid'.2, laid'.3, laid'.4⟩, fun i beyond => ?_, pushed⟩
  rw [kept i beyond]
  exact clear i (Nat.lt_of_succ_lt beyond)

end Rotate

end Problem

/-! ## Growth -/

section Grow

open Krylov.MinimalResidual (orthogonalizeTwice)

variable {divide : α → α → Except Fault α} {criteria : Criteria α} {restart : Nat} {s : Cycle α}
  {c : Krylov.MinimalResidual.Cycle α n}

/-- The storage of a cycle before an iteration: the vector that the iteration adds is there, and so
is room for another column. -/
structure Cycle.Stores (s : Cycle α) (restart : Nat) (c : Krylov.MinimalResidual.Cycle α n) :
    Prop where
  basis : s.basis = ((c.basis ++ [Flat.divBy c.next c.scale]).map Vector.toArray).toArray
  columns : s.columns = c.basis.length
  room : c.basis.length < restart
  problem : s.Holds restart c.basis.length c.problem

/-- The storage of a cycle after an iteration, whether or not another one follows. -/
structure Cycle.Grows (s : Cycle α) (restart : Nat) (g : Krylov.MinimalResidual.Grown α n) :
    Prop where
  basis : s.basis = ((g.cycle.basis ++
    if g.exhausted then [] else [Flat.divBy g.cycle.next g.cycle.scale]).map Vector.toArray).toArray
  columns : s.columns = g.cycle.basis.length
  room : g.cycle.basis.length ≤ restart
  problem : s.Holds restart g.cycle.basis.length g.cycle.problem

/-- A cycle that goes on is ready for its next iteration. -/
theorem Cycle.Grows.stores {g : Krylov.MinimalResidual.Grown α n} (grows : s.Grows restart g)
    (growing : g.exhausted = false) (room : g.cycle.basis.length < restart) :
    s.Stores restart g.cycle := by
  refine ⟨?_, grows.columns, room, grows.problem⟩
  rw [grows.basis, growing, if_neg Bool.false_ne_true]

omit [Scalar α] in
theorem getElem?_toArray {vs : List (Vector α n)} (more : List (Vector α n)) {k : Nat}
    {v : Vector α n} (found : vs[k]? = some v) :
    ((vs ++ more).map Vector.toArray).toArray[k]? = some v.toArray := by
  rw [List.getElem?_toArray, List.getElem?_map,
    List.getElem?_append_left (List.getElem?_eq_some_iff.mp found).1, found]
  rfl

theorem Cycle.Stores.getElem?_basis (stores : s.Stores restart c) {k : Nat} {v : Vector α n}
    (found : (c.basis ++ [Flat.divBy c.next c.scale])[k]? = some v) :
    s.basis[k]? = some v.toArray := by
  have kept := getElem?_toArray [] found
  rw [List.append_nil] at kept
  rw [stores.basis]
  exact kept

theorem Cycle.start_eq (positive : 1 ≤ restart)
    (room : Storage.HasRoom (restart + 1) Storage.vectorBytes) {beta : α}
    (divisor : Divisor divide beta) (r : Vector α n) :
    ∃ s, Cycle.start divide restart r.toArray beta = .ok s ∧ s.Stores restart (.start r beta) := by
  let g : Nat → α := Function.update (fun _ => 0) 0 beta
  let opened : Cycle α :=
    { basis := #[(Flat.divBy r beta).toArray]
      matrix := Array.replicate (restart + 1) (Array.replicate restart 0)
      rhs := line (restart + 1) g
      cosines := Array.replicate restart 0
      sines := Array.replicate restart 0
      columns := 0 }
  have made : Cycle.start divide restart r.toArray beta = .ok opened := by
    unfold Cycle.start
    rw [Storage.reserve_of_hasRoom room, ok_bind, mapM_divide divisor, ok_bind,
      replicate_eq_line (restart + 1) (0 : α), write_line _ (Nat.succ_pos restart)]
    rfl
  have lays : opened.Lays restart (fun _ _ => 0) g (fun _ => 0) (fun _ => 0) :=
    ⟨replicate_eq_table _ _ _, rfl, replicate_eq_line _ _, replicate_eq_line _ _⟩
  have clear (i : Nat) (above : 0 < i) : g i = 0 := Function.update_of_ne (by omega) _ _
  exact ⟨opened, made, rfl, rfl, positive, _, _, _, _, lays, clear, rfl⟩

/-- The new column holds the components of the image, with the norm of the rest below them. -/
theorem Cycle.fill_eq (stores : s.Stores restart c) (w : Vector α n) :
    let twice := orthogonalizeTwice (c.basis ++ [Flat.divBy c.next c.scale]) w
    let j := c.basis.length
    ∃ f g cs sn, s.fill w.toArray =
        .ok (table (restart + 1) restart f, twice.2.toArray, Flat.norm twice.2) ∧
      (s.rhs = line (restart + 1) g ∧ s.cosines = line restart cs ∧ s.sines = line restart sn) ∧
      (∀ i, j < i → g i = 0) ∧ problem f g cs sn j = c.problem ∧
      f 0 j = twice.1.headD 0 ∧ (List.range' 1 j).map (f · j) = twice.1.tail ∧
      f (j + 1) j = Flat.norm twice.2 := by
  intro twice j
  obtain ⟨f, g, cs, sn, lays, clear, held⟩ := stores.problem
  have room : j < restart := stores.room
  obtain ⟨f', between, first, second, frame, column⟩ :=
    orthogonalize_twice (restart + 1) room (by omega) List.length_append
      (fun _ _ => stores.getElem?_basis) f w
  have heads : twice.1 = f' 0 j :: (List.range' 1 j).map (f' · j) := by
    rw [← column, List.range'_succ, List.map_cons]
  let filled := set f' (j + 1) j (Flat.norm twice.2)
  have upper (k : Nat) (hk : k ≤ j) : filled k = f' k := set_of_row_ne _ _ _ (by omega)
  have run : s.fill w.toArray =
      .ok (table (restart + 1) restart filled, twice.2.toArray, Flat.norm twice.2) := by
    unfold Cycle.fill
    rw [stores.columns, lays.matrix]
    dsimp only
    rw [first, ok_bind, second, ok_bind]
    dsimp only
    rw [norm_toArray, ok_bind, writeAt_table _ (Nat.succ_lt_succ room) room]
    rfl
  refine ⟨filled, g, cs, sn, run, ⟨lays.rhs, lays.cosines, lays.sines⟩, clear, ?_, ?_, ?_, ?_⟩
  · rw [← held]
    refine problem_congr fun k l hl => ?_
    have other : l ≠ j := Nat.ne_of_lt hl
    simp only [filled, set_apply, other, and_false, if_false, frame k l other]
  · rw [upper 0 (Nat.zero_le j), heads]
    rfl
  · rw [heads, List.tail_cons]
    refine List.map_congr_left fun k mem => ?_
    have bounds := List.mem_range'_1.mp mem
    rw [upper k (by omega)]
  · exact set_self _ _ _ _

theorem Cycle.extend_eq (divides : Divides divide criteria) (stores : s.Stores restart c)
    (w : Vector α n) :
    let g := c.grow (Flat.divBy c.next c.scale) w
    extend divide s.basis g.cycle.next.toArray g.cycle.scale g.exhausted =
      .ok ((g.cycle.basis ++
        if g.exhausted then [] else [Flat.divBy g.cycle.next g.cycle.scale]).map
          Vector.toArray).toArray := by
  intro g
  have basis : s.basis = (g.cycle.basis.map Vector.toArray).toArray := stores.basis
  unfold extend
  cases growing : g.exhausted with
  | true =>
      rw [if_pos rfl, if_pos rfl, List.append_nil, basis]
      rfl
  | false =>
      have divisor : Divisor divide g.cycle.scale := divides.scale _ w growing
      rw [if_neg Bool.false_ne_true, if_neg Bool.false_ne_true, mapM_divide divisor, ok_bind, basis,
        List.map_append, List.push_toArray]
      rfl

/-- An iteration on storage extends the cycle as `Cycle.grow` does. -/
theorem Cycle.grow_eq (divides : Divides divide criteria) (stores : s.Stores restart c)
    (w : Vector α n) :
    let g := c.grow (Flat.divBy c.next c.scale) w
    ∃ s', s.grow divide w.toArray = .ok (s', g.exhausted) ∧ s'.Grows restart g := by
  intro g
  obtain ⟨f, rhs, cs, sn, filled, ⟨hrhs, hcs, hsn⟩, clear, held, head, tail, corner⟩ :=
    Cycle.fill_eq stores w
  have extended := Cycle.extend_eq divides stores w
  obtain ⟨s', rotated, basis, columns, holds⟩ :=
    Cycle.rotate_eq (c := { s with
      basis := ((g.cycle.basis ++ if g.exhausted then []
        else [Flat.divBy g.cycle.next g.cycle.scale]).map Vector.toArray).toArray
      matrix := table (restart + 1) restart f }) divides ⟨rfl, hrhs, hcs, hsn⟩ stores.room clear
  rw [held, head, tail, corner] at holds
  have length : g.cycle.basis.length = c.basis.length + 1 := List.length_append
  have run : s.grow divide w.toArray = .ok (s', g.exhausted) := by
    unfold Cycle.grow
    rw [norm_toArray, ok_bind, filled, ok_bind]
    refine (congrArg (· >>= _) extended).trans ?_
    rw [ok_bind, stores.columns]
    rw [stores.columns] at rotated
    exact (congrArg (· >>= _) rotated).trans rfl
  refine ⟨s', run, basis, columns.trans length.symm, ?_, ?_⟩
  · rw [length]
    exact stores.room
  · rw [length]
    exact holds

end Grow

/-! ## The end of a cycle -/

section Improve

variable {divide : α → α → Except Fault α} {criteria : Criteria α} {restart i k : Nat}
  {width : Nat → Nat} {f : Nat → Nat → α} {g y : Nat → α}

/-- The unknowns `js` are taken out of row `i`. -/
theorem foldlM_eliminate {js : List Nat} (others : ∀ j ∈ js, j ≠ i ∧ j < k) (hi : i < k)
    (hrows : k ≤ rows) (hcols : k ≤ width i) (a : α) :
    js.foldlM (eliminate (ragged rows width f) i) (line k (Function.update y i a)) =
      .ok (line k (Function.update y i (js.foldl (fun acc j => acc - f i j * y j) a))) := by
  induction js generalizing a with
  | nil => rfl
  | cons j js ih =>
      obtain ⟨⟨other, inside⟩, others⟩ := List.forall_mem_cons.mp others
      have first : eliminate (ragged rows width f) i (line k (Function.update y i a)) j =
          .ok (line k (Function.update y i (a - f i j * y j))) := by
        simp only [eliminate, read_line _ hi, read_line _ inside,
          readAt_ragged f (hi.trans_le hrows) (inside.trans_le hcols), write_line _ hi, ok_bind,
          Function.update_self, Function.update_of_ne other, Function.update_idem]
      rw [List.foldlM_cons, first, ok_bind, ih others, List.foldl_cons]

section Pivots

variable (pivot : ∀ d, Scalar.lt Scalar.noise (Scalar.abs d) = true → Divisor divide d)

include pivot

theorem solveRow_eq (hi : i < k) (hrows : k ≤ rows) (hcols : k ≤ width i) :
    solveRow divide (ragged rows width f) (line k g) k (line k y) i =
      .ok (line k (Function.update y i
        ((row f g k i).solve ((List.range' (i + 1) (k - (i + 1))).map y)))) := by
  have others : ∀ j ∈ List.range' (i + 1) (k - (i + 1)), j ≠ i ∧ j < k := by
    intro j mem
    have bounds := List.mem_range'_1.mp mem
    omega
  let rest := (List.range' (i + 1) (k - (i + 1))).foldl (fun acc j => acc - f i j * y j) (g i)
  have value : (row f g k i).solve ((List.range' (i + 1) (k - (i + 1))).map y) =
      if Scalar.lt Scalar.noise (Scalar.abs (f i i)) then rest / f i i else 0 := by
    simp only [row, Row.solve, List.zip_map', List.foldl_map]
    rfl
  simp only [solveRow, read_line _ hi, write_line _ hi, ok_bind,
    foldlM_eliminate others hi hrows hcols, readAt_ragged f (hi.trans_le hrows) (hi.trans_le hcols),
    value, Function.update_self]
  split
  · next large =>
      rw [pivot _ large, ok_bind, Function.update_idem]
  · rw [Function.update_idem]

/-- The rows before the first `i` give the unknowns before the first `i`. -/
theorem foldlM_solveRow (hi : i ≤ k) (hrows : k ≤ rows) (hcols : ∀ i, i < k → k ≤ width i)
    (solved : (List.range' i (k - i)).map y =
      Krylov.backSubstitute ((List.range' i (k - i)).map (row f g k))) :
    ∃ y', (List.range' 0 i).reverse.foldlM (solveRow divide (ragged rows width f) (line k g) k)
        (line k y) = .ok (line k y') ∧
      (List.range' 0 k).map y' = Krylov.backSubstitute ((List.range' 0 k).map (row f g k)) := by
  induction i generalizing y with
  | zero => exact ⟨y, rfl, solved⟩
  | succ i ih =>
      let below := (List.range' (i + 1) (k - (i + 1))).map y
      let y₁ := Function.update y i ((row f g k i).solve below)
      have here : (List.range' i (k - i)) = i :: List.range' (i + 1) (k - (i + 1)) := by
        rw [← List.range'_succ]
        congr 1
        omega
      have tail : (List.range' (i + 1) (k - (i + 1))).map y₁ = below := by
        refine List.map_congr_left fun j mem => Function.update_of_ne ?_ _ _
        have above := (List.mem_range'_1.mp mem).1
        omega
      have head : y₁ i = (row f g k i).solve below := Function.update_self ..
      have solved₁ : (List.range' i (k - i)).map y₁ =
          Krylov.backSubstitute ((List.range' i (k - i)).map (row f g k)) := by
        rw [here, List.map_cons, List.map_cons, tail, head, Krylov.backSubstitute, ← solved]
      obtain ⟨y', run, all⟩ := ih (by omega) solved₁
      refine ⟨y', ?_, all⟩
      rw [List.range'_1_concat, Nat.zero_add, List.reverse_append, List.reverse_singleton,
        List.singleton_append, List.foldlM_cons, solveRow_eq pivot hi hrows (hcols i hi), ok_bind]
      exact run

theorem backSubstitute_eq (hrows : k ≤ rows) (hcols : ∀ i, i < k → k ≤ width i) :
    backSubstitute divide (ragged rows width f) (line k g) k =
      .ok (Krylov.backSubstitute ((List.range' 0 k).map (row f g k))).toArray := by
  obtain ⟨y, run, solved⟩ :=
    foldlM_solveRow (f := f) (g := g) (y := fun _ => 0) pivot (Nat.le_refl k) hrows hcols <| by
      rw [Nat.sub_self]
      rfl
  unfold backSubstitute
  rw [replicate_eq_line, run, ← solved, ← toList_line]

end Pivots

theorem foldlM_addMultiple {basis : Array (Array α)} {ys : List α} {vs : List (Vector α n)}
    (enough : ys.length ≤ vs.length)
    (stored : ∀ k v, vs[k]? = some v → basis[i + k]? = some v.toArray) (x : Vector α m) :
    (ys.zipIdx i).foldlM (addMultiple basis) x.toArray =
      .ok ((ys.zip vs).foldl (fun x (c, v) => Flat.correct x c v) x).toArray := by
  induction ys generalizing vs i x with
  | nil => rfl
  | cons c ys ih =>
      cases vs with
      | nil => exact absurd enough (Nat.not_succ_le_zero _)
      | cons v vs =>
          obtain ⟨here, later⟩ := getElem?_add_succ stored
          have first : addMultiple basis x.toArray (c, i) = .ok (Flat.correct x c v).toArray := by
            simp only [addMultiple, read_of_getElem? here, merge_addMul, ok_bind, pure, Except.pure]
          rw [List.zipIdx_cons, List.foldlM_cons, first, ok_bind,
            ih (Nat.le_of_succ_le_succ enough) later]
          rfl

/-- The iterate at the end of a cycle is that of `Cycle.improve`. -/
theorem Cycle.improve_eq (divides : Divides divide criteria) {s : Cycle α}
    {g : Krylov.MinimalResidual.Grown α n} (grows : s.Grows restart g) (x : Vector α m) :
    s.improve divide x.toArray = .ok (g.cycle.improve x).toArray := by
  obtain ⟨f, rhs, cs, sn, lays, -, held⟩ := grows.problem
  have room := grows.room
  have rows : g.cycle.problem.rows = (List.range' 0 g.cycle.basis.length).map
      (row f rhs g.cycle.basis.length) := by
    rw [← held]
    rfl
  have solution : g.cycle.problem.solution.length ≤ g.cycle.basis.length := by
    rw [Triangular.solution, length_backSubstitute, rows, List.length_map, List.length_range']
  have stored (k : Nat) (v : Vector α n) (found : g.cycle.basis[k]? = some v) :
      s.basis[0 + k]? = some v.toArray := by
    rw [Nat.zero_add, grows.basis]
    exact getElem?_toArray _ found
  unfold Cycle.improve
  rw [lays.rhs, lays.matrix, grows.columns, slice_line _ (by omega), ok_bind]
  have solved : backSubstitute divide (table (restart + 1) restart f)
      (line g.cycle.basis.length rhs) g.cycle.basis.length =
        .ok (Krylov.backSubstitute ((List.range' 0 g.cycle.basis.length).map
          (row f rhs g.cycle.basis.length))).toArray :=
    backSubstitute_eq divides.pivot (Nat.le_succ_of_le room) fun _ _ => room
  refine (congrArg (· >>= _) solved).trans ?_
  rw [ok_bind, ← rows]
  exact foldlM_addMultiple solution stored x

end Improve

end MinimalResidual

end MatrixFree.Krylov.Stored
