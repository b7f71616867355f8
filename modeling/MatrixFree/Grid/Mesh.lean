import MatrixFree.Communicator
import MatrixFree.Failure
import MatrixFree.Grid.Box
import MatrixFree.Word

/-!
# Meshes

A mesh is this process's slice of a structured grid, which is cut in x only. Two meshes of the same
extents are still different partitions: a mesh carries an identity, given when it is made, and fields
belong together when their meshes are equal with the identity included.
-/

namespace MatrixFree.Grid

open Text

/-- A slice of a structured grid. -/
structure Mesh where
  /-- Tells apart meshes that agree in all else. -/
  identity : Nat
  nx : Nat
  ny : Nat
  nz : Nat
  /-- Points of the whole grid in x. -/
  globalNx : Nat
  /-- Position of the slice in the whole grid. -/
  xOffset : Nat
  comm : Communicator
deriving DecidableEq, Repr

namespace Mesh

/-- The whole grid on one process. -/
def serial (identity nx ny nz : Nat) : Mesh :=
  { identity, nx, ny, nz, globalNx := nx, xOffset := 0, comm := .serial }

/-- The end of a slice. Positions are 64-bit words and their sum wraps around. -/
def sliceEnd (xOffset nx : Nat) : Nat := (xOffset + nx) % wordCount

/-- The slice of `nx` points from `xOffset` on, of a grid `globalNx` points wide. The slice has to end
inside the grid, and the slices of all processes have to add up to it. -/
def partitioned (identity : Nat) (comm : Communicator) (nx ny nz xOffset globalNx : Nat) :
    Except EngineError Mesh :=
  if globalNx < sliceEnd xOffset nx then
    .error (.invalidArgument ("local x range " ++ toString xOffset ++ ".."
      ++ toString (sliceEnd xOffset nx) ++ " exceeds global nx " ++ toString globalNx))
  else if comm.total nx ≠ globalNx then .error (.sizeMismatch globalNx (comm.total nx))
  else .ok { identity, nx, ny, nz, globalNx, xOffset, comm }

/-- The mesh with all it holds, as a structured text. -/
def detail (m : Mesh) : String :=
  record "Mesh"
    [("nx", toString m.nx), ("ny", toString m.ny), ("nz", toString m.nz),
      ("global_nx", toString m.globalNx), ("x_offset", toString m.xOffset), ("comm", m.comm.text)]

end Mesh

namespace Kind

/-- The extents of a field of the kind on a mesh, outermost direction first. -/
def extents : Kind → Mesh → Box.Extents
  | volume, m => [m.nx, m.ny, m.nz]
  | sheet, m => [m.nx, m.ny]
  | plane, m => [m.nx, m.nz]

/-- The number of entries of a field of the kind on a mesh. Counts are 64-bit words, and the count of
a box that has more indices than there are words wraps around. -/
def count (k : Kind) (m : Mesh) : Nat := Box.count (k.extents m) % wordCount

/-- The position of an entry in the storage of a field, wrapped around like the count. -/
def position (k : Kind) (m : Mesh) (index : Box.Index) : Nat :=
  Box.offset (k.extents m) index % wordCount

/-- The indices of a field of the kind on a mesh, x outermost. -/
def indices (k : Kind) (m : Mesh) : List Box.Index := Box.indices (k.extents m)

/-- The indices of a field of the kind on a mesh can be counted in a word. -/
def Countable (k : Kind) (m : Mesh) : Prop := Box.count (k.extents m) < wordCount

variable {k : Kind} {m : Mesh}

theorem count_of_countable (h : k.Countable m) : k.count m = Box.count (k.extents m) :=
  Nat.mod_eq_of_lt h

theorem position_lt (h : k.Countable m) {index : Box.Index}
    (within : Box.Within index (k.extents m)) : k.position m index < k.count m := by
  rw [count_of_countable h]
  exact Nat.lt_of_le_of_lt (Nat.mod_le _ _) (Box.offset_lt within)

theorem length_indices (h : k.Countable m) : (k.indices m).length = k.count m := by
  rw [count_of_countable h]
  exact Box.length_indices _

end Kind

end MatrixFree.Grid
