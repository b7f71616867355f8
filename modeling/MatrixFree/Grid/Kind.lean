/-!
# Kinds of fields

A field has a value at every point of a slice of the grid. `Kind` says which directions of the grid
the slice extends in: all three, the first two, or the first and the last.
-/

namespace MatrixFree.Grid

/-- The directions in which a field extends. -/
inductive Kind where
  /-- All of x, y and z. -/
  | volume
  /-- x and y; constant in z. -/
  | sheet
  /-- x and z, at one position in y. -/
  | plane
deriving DecidableEq, Repr

/-- The name under which fields of the kind are reported. -/
def Kind.name : Kind → String
  | volume => "Field3D"
  | sheet => "Field2D"
  | plane => "FieldPerp"

end MatrixFree.Grid
