import Mathlib
import MatrixFree.Proofs.Krylov.Stored.Program

/-!
# Accesses that succeed

An array of known size is told by a function from numbers to entries, and a matrix by one of two
numbers (`line`, `table`).  In these words an access in range answers a value of the function, or
changes one of them, and a chain of accesses is a computation with functions.

Arrays that come from vectors of one length pass every check that an operation on vectors
makes.
-/

namespace MatrixFree.Krylov.Stored

variable {α : Type}

@[simp] theorem ok_bind {X Y : Type} (x : X) (f : X → Except Fault Y) : (Except.ok x >>= f) = f x :=
  rfl

theorem read_of_getElem? {xs : Array α} {i : Nat} {a : α} (h : xs[i]? = some a) :
    read xs i = .ok a := by
  unfold read
  rw [h]

/-! ## Lines and tables -/

/-- The array with the entries `f 0`, …, `f (n - 1)`. -/
def line {β : Type} (n : Nat) (f : Nat → β) : Array β := Array.ofFn fun i : Fin n => f i

/-- Rows that have lengths of their own. -/
def ragged (rows : Nat) (width : Nat → Nat) (f : Nat → Nat → α) : Array (Array α) :=
  line rows fun i => line (width i) (f i)

/-- The rows of a matrix. -/
def table (rows cols : Nat) (f : Nat → Nat → α) : Array (Array α) :=
  line rows fun i => line cols (f i)

/-- Another value in row `i` and column `j`. -/
def set (f : Nat → Nat → α) (i j : Nat) (a : α) : Nat → Nat → α :=
  Function.update f i (Function.update (f i) j a)

theorem set_apply (f : Nat → Nat → α) (i j : Nat) (a : α) (k l : Nat) :
    set f i j a k l = if k = i ∧ l = j then a else f k l := by
  unfold set
  by_cases row : k = i
  · subst row
    by_cases col : l = j
    · simp [col]
    · simp [col]
  · simp [row]

@[simp] theorem set_self (f : Nat → Nat → α) (i j : Nat) (a : α) : set f i j a i j = a := by
  simp [set_apply]

theorem set_of_row_ne (f : Nat → Nat → α) {i k : Nat} (j : Nat) (a : α) (h : k ≠ i) :
    set f i j a k = f k := Function.update_of_ne h _ _

section Line

variable {β : Type} {n : Nat} (f : Nat → β)

@[simp] theorem size_line (n : Nat) : (line n f).size = n := Array.size_ofFn

theorem getElem?_line {i : Nat} (h : i < n) : (line n f)[i]? = some (f i) := by
  simp [line, h]

theorem read_line {i : Nat} (h : i < n) : read (line n f) i = .ok (f i) :=
  read_of_getElem? (getElem?_line f h)

theorem write_line {i : Nat} (h : i < n) (b : β) :
    write (line n f) i b = .ok (line n (Function.update f i b)) := by
  unfold write
  rw [if_pos (by rwa [size_line])]
  congr 1
  apply Array.ext
  · simp
  · intro j hj hj'
    have inside : j < (line n f).size := by simpa using hj
    rw [Array.getElem_setIfInBounds inside]
    by_cases same : i = j
    · subst same
      simp [line]
    · simp [line, same, Ne.symm same]

theorem slice_line {m : Nat} (h : m ≤ n) : slice (line n f) m = .ok (line m f) := by
  unfold slice
  rw [if_pos (by rwa [size_line])]
  congr 1
  apply Array.ext
  · simp [h]
  · intro j hj hj'
    simp [line]

theorem replicate_eq_line (n : Nat) (b : β) : Array.replicate n b = line n fun _ => b := by
  apply Array.ext
  · simp
  · intro j hj hj'
    simp [line]

theorem toList_line (n : Nat) : (line n f).toList = (List.range' 0 n).map f := by
  apply List.ext_getElem
  · simp [line]
  · intro i hi hi'
    simp [line]

end Line

section Table

variable {rows cols : Nat} {width : Nat → Nat} (f : Nat → Nat → α) {i j : Nat}

theorem replicate_eq_table (rows cols : Nat) (a : α) :
    Array.replicate rows (Array.replicate cols a) = table rows cols fun _ _ => a := by
  rw [replicate_eq_line, replicate_eq_line]
  rfl

theorem readAt_ragged (hi : i < rows) (hj : j < width i) :
    readAt (ragged rows width f) i j = .ok (f i j) := by
  unfold readAt ragged
  rw [read_line _ hi, ok_bind, read_line _ hj]

theorem writeAt_ragged (hi : i < rows) (hj : j < width i) (a : α) :
    writeAt (ragged rows width f) i j a = .ok (ragged rows width (set f i j a)) := by
  have row : (fun k => line (width k) (set f i j a k)) =
      Function.update (fun k => line (width k) (f k)) i
        (line (width i) (Function.update (f i) j a)) := by
    funext k
    by_cases same : k = i
    · subst same
      simp [set]
    · simp [set, same]
  unfold writeAt ragged
  rw [read_line _ hi, ok_bind, write_line _ hj, ok_bind, write_line _ hi, row]

theorem readAt_table (hi : i < rows) (hj : j < cols) :
    readAt (table rows cols f) i j = .ok (f i j) := readAt_ragged f hi hj

theorem writeAt_table (hi : i < rows) (hj : j < cols) (a : α) :
    writeAt (table rows cols f) i j a = .ok (table rows cols (set f i j a)) :=
  writeAt_ragged f hi hj a

end Table

/-! ## Vectors of one length -/

section Vectors

variable {m n : Nat}

theorem merge_toArray {β : Type} (f : α → β → α) (x : Vector α n) (y : Vector β n) :
    merge f x.toArray y.toArray = (Vector.zipWith f x y).toArray := by
  apply Array.ext
  · simp [merge]
  · intro i hi hi'
    have inside : i < n := by simpa using hi'
    simp [merge, inside]

variable [Scalar α]

theorem merge_addMul (x : Vector α m) (c : α) (y : Vector α n) :
    merge (fun a b => a + c * b) x.toArray y.toArray = (Flat.correct x c y).toArray := by
  simp [merge, Flat.correct]

theorem merge_subMul (x : Vector α n) (c : α) (y : Vector α n) :
    merge (fun a b => a - c * b) x.toArray y.toArray = (Flat.subMul x c y).toArray :=
  merge_toArray _ x y

theorem merge_addMul_self (x : Vector α n) (c : α) (y : Vector α n) :
    merge (fun b a => a + c * b) y.toArray x.toArray = (Flat.addMul x c y).toArray := by
  rw [merge_toArray, Vector.zipWith_comm]
  rfl

/-- A change by two vectors at once. -/
theorem merge_zip_addMul (x : Vector α n) (c d : α) (y z : Vector α n) :
    merge (fun b ac => ac.1 + c * (b - d * ac.2)) y.toArray (x.toArray.zip z.toArray) =
      (Flat.addMul x c (Flat.subMul y d z)).toArray := by
  apply Array.ext
  · simp [merge, Flat.addMul, Flat.subMul]
  · intro i hi hi'
    have inside : i < n := by simpa [Flat.addMul] using hi'
    simp [merge, Flat.addMul, Flat.subMul, Array.zip, inside]

theorem merge_zip_correct (x : Vector α m) (c d : α) (y z : Vector α n) :
    merge (fun a bc => a + c * bc.1 + d * bc.2) x.toArray (y.toArray.zip z.toArray) =
      (Flat.correct (Flat.correct x c y) d z).toArray := by
  apply Array.ext
  · simp [merge]
  · intro i hi hi'
    by_cases inside : i < n
    · simp [merge, Flat.correct, Array.zip, inside]
    · simp [merge, Flat.correct, Array.zip, inside]

theorem zipWith_subMul (x : Vector α n) (c : α) (y : Vector α n) :
    Array.zipWith (fun a b => a - c * b) x.toArray y.toArray = (Flat.subMul x c y).toArray := by
  simp [Flat.subMul]

theorem zipWith_sub (x y : Vector α n) :
    Array.zipWith (fun b a => a - b) y.toArray x.toArray = (Flat.sub x y).toArray := by
  rw [Array.zipWith_comm]
  simp [Flat.sub]

theorem dotOf_toArray (x y : Vector α n) : Flat.dotOf x.toArray y.toArray = .ok (Flat.dot x y) := by
  obtain ⟨xs, rfl⟩ := x
  obtain ⟨ys, h⟩ := y
  unfold Flat.dotOf
  rw [dif_pos h]

theorem norm_toArray (x : Vector α n) : norm x.toArray = .ok (Flat.norm x) := by
  unfold norm
  rw [dotOf_toArray]
  rfl

theorem zeros_toArray (n : Nat) : Array.replicate n (0 : α) = (Flat.zero n).toArray := rfl

/-- A divisor by which `divide` divides. -/
def Divisor (divide : α → α → Except Fault α) (d : α) : Prop := ∀ a, divide a d = .ok (a / d)

theorem mapM_divide {divide : α → α → Except Fault α} {d : α} (divisor : Divisor divide d)
    (x : Vector α n) : x.toArray.mapM (divide · d) = .ok (Flat.divBy x d).toArray := by
  have each : (divide · d) = fun a => (pure (a / d) : Except Fault α) := funext divisor
  rw [each, Array.mapM_pure]
  simp [Flat.divBy, pure, Except.pure]

end Vectors

end MatrixFree.Krylov.Stored
