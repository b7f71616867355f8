import MatrixFree.Grid.Mesh
import MatrixFree.Scalar
import MatrixFree.Storage
import MatrixFree.Text.Number

/-!
# Fields

A field has one value at every index of its kind's box on a mesh, once it is allocated. The values
are stored in the order of the indices, and the number of stored values is part of the type. Where
the indices can be counted in a word, every index of the box has a value in storage
(`Kind.position_lt`). A field for whose values there is no room cannot be allocated, and where there
is no room for a list of the indices, nothing that goes through such a list can be done.

Values are numbers, unless another type is named. They are moved about and never calculated with: a
field over words of 64 bits holds bit patterns, many of which are the one NaN among numbers.

Reading and writing fault outside the box first, then on a field without values, and last on an index
for which the storage is too small. `copyTo` and `copyFrom` move all values to and from a flat
buffer; a refused copy leaves its target as it was.
-/

namespace MatrixFree.Grid

open Text

namespace Kind

/-- The bytes of an index, in which each direction has a coordinate. -/
def indexBytes (k : Kind) (m : Mesh) : Nat := (k.extents m).length * Storage.numberBytes

/-- Ask for a list of the indices on a mesh. Once there is a first index, the list starts with room for
those that differ from it in the last coordinate only. This first room is all that is asked for here:
the list grows when it is full, and that it then finds room is taken for granted. So the list of a sheet
with `2 ^ 59` rows of one index each is granted, although it would not fit. -/
def reserveIndices (k : Kind) (m : Mesh) : Except Fault Unit :=
  if Box.count (k.extents m) = 0 then .ok ()
  else Storage.reserve (Box.rowLength (k.extents m)) (k.indexBytes m)

end Kind

/-- A field of kind `k`, whose values each take the bytes of a number. -/
structure Field (k : Kind) (α : Type := Float) where
  mesh : Mesh
  /-- The position in y of a plane; zero for the kinds that extend in y. -/
  yIndex : Nat
  /-- The values by index; `none` until the field is allocated. -/
  values : Option (Vector α (k.count mesh))

namespace Field

variable {k : Kind} {α : Type}

/-- A field without values. -/
def new (m : Mesh) : Field k α := ⟨m, 0, none⟩

def extents (f : Field k α) : Box.Extents := k.extents f.mesh

/-- The number of entries. -/
def count (f : Field k α) : Nat := k.count f.mesh

/-- The list of the indices. -/
def indices (f : Field k α) : Except Fault (List Box.Index) := do
  k.reserveIndices f.mesh
  return k.indices f.mesh

/-- The position of an entry in storage. -/
def position (f : Field k α) (index : Box.Index) : Nat := k.position f.mesh index

def isAllocated (f : Field k α) : Bool := f.values.isSome

/-- Zero values, unless there are values already. -/
def allocate [Zero α] (f : Field k α) : Except Fault (Field k α) :=
  match f.values with
  | some _ => .ok f
  | none => do
    Storage.reserve f.count Storage.numberBytes
    return { f with values := some (Vector.replicate _ 0) }

/-- The number of entries of a field on a mesh, of which there must be room for all. -/
def storedCount (k : Kind) (m : Mesh) : Except Fault Nat := do
  return (← (new m : Field k).allocate).count

/-- The value at an index. -/
def get (f : Field k α) (index : Box.Index) : Except Fault α :=
  if Box.Within index f.extents then
    match f.values with
    | some values =>
      if h : f.position index < f.count then .ok (values.get ⟨_, h⟩)
      else .error (.outsideStorage f.count (f.position index))
    | none => .error (.readUnallocated k)
  else .error (.outsideExtents index f.extents)

/-- The field with another value at an index. -/
def set (f : Field k α) (index : Box.Index) (value : α) : Except Fault (Field k α) :=
  if Box.Within index f.extents then
    match f.values with
    | some values =>
      if h : f.position index < f.count then
        .ok { f with values := some (values.set (f.position index) value h) }
      else .error (.outsideStorage f.count (f.position index))
    | none => .error (.writtenUnallocated k)
  else .error (.outsideExtents index f.extents)

/-- The field whose value at every index is given by a function. -/
def ofFn (m : Mesh) (value : Box.Index → α) : Except Fault (Field k α) := do
  Storage.reserve (k.count m) Storage.numberBytes
  k.reserveIndices m
  return ⟨m, 0, some (Vector.ofFn fun p => value (Box.indexAt (k.extents m) p))⟩

/-- The field with the listed values in the order of the indices. Missing values are zero, and values
beyond the last index are left out. -/
def ofList [Zero α] (m : Mesh) (values : List α) : Except Fault (Field k α) := do
  Storage.reserve (k.count m) Storage.numberBytes
  k.reserveIndices m
  let values := values.toArray
  return ⟨m, 0, some (Vector.ofFn fun i => values.getD i 0)⟩

/-- The same value everywhere. -/
def fill [Zero α] (f : Field k α) (value : α) : Except Fault (Field k α) := do
  let f ← f.allocate
  return { f with values := some (Vector.replicate _ value) }

/-- Move a plane to another position in y. -/
def atY (f : Field k α) (y : Nat) : Field k α := { f with yIndex := y }

/-- The values in the order of the indices. -/
def toArray? (f : Field k α) : Option (Array α) := f.values.map Vector.toArray

/-- The values in the order of the indices; none before the field is allocated. -/
def toList (f : Field k α) : List α := (f.toArray?.getD #[]).toList

/-- The values in the order of the indices, read one by one. Reading stops at the first index without
a value: on a field without values at the first of all, and else at the end of storage. -/
def gather (f : Field k α) : Except Fault (List α) :=
  match f.values with
  | some values =>
    if f.count = Box.count f.extents then .ok values.toList
    else .error (.outsideStorage f.count f.count)
  | none => if Box.count f.extents = 0 then .ok [] else .error (.readUnallocated k)

/-- The values in the order of the indices, for a vector of `n` entries. -/
def toVector (f : Field k α) (n : Nat) : Except SessionError (Vector α n) :=
  match f.values with
  | none => .error .unallocated
  | some values =>
    if h : f.count = n then .ok (values.cast h) else .error (.localSizeMismatch n f.count)

/-- The field with the values of a vector, in the order of the indices, which are listed first. -/
def withVector (f : Field k α) {n : Nat} (x : Vector α n) :
    Except (Failure SessionError) (Field k α) :=
  match k.reserveIndices f.mesh with
  | .error fault => .error (.fault fault)
  | .ok () =>
    if h : n = f.count then .ok { f with values := some (x.cast h) }
    else .error (.error (.localSizeMismatch n f.count))

/-- Copy the values into a buffer of the same length. The answer holds the buffer afterwards. -/
def copyTo (f : Field k α) (buffer : Array α) : Except SessionError Unit × Array α :=
  match f.toVector buffer.size with
  | .ok values => (.ok (), values.toArray)
  | .error e => (.error e, buffer)

/-- Copy a buffer into the values, which are allocated if need be. The answer holds the field
afterwards. -/
def copyFrom (f : Field k α) (buffer : Array α) :
    Except (Failure SessionError) Unit × Field k α :=
  match f.withVector buffer.toVector with
  | .ok f => (.ok (), f)
  | .error e => (.error e, f)

/-- The stored values as a structured text. -/
def valuesDetail (f : Field k) : String :=
  optional (f.values.map fun values => bracketed (values.toList.map Number.entry))

/-- The field with all it holds, as a structured text. -/
def detail (f : Field k) : String :=
  record k.name
    ([("mesh", f.mesh.detail)] ++ (if k = .plane then [("y_index", toString f.yIndex)] else [])
      ++ [("data", f.valuesDetail)])

end Field

end MatrixFree.Grid
