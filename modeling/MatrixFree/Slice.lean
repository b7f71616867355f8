import MatrixFree.Storage
import MatrixFree.Text.Layout
import MatrixFree.Text.Number

/-!
# Slices of distributed vectors

The vectors of the engine. A slice holds this process's entries of a vector whose whole length is
kept beside them.
-/

namespace MatrixFree

open Text

/-- This process's part of a vector. -/
structure Slice where
  entries : Array Float
  globalSize : Nat

namespace Slice

/-- Zeros. -/
def zeros (size globalSize : Nat) : Except Fault Slice := do
  Storage.reserve size Storage.numberBytes
  return ⟨Array.replicate size 0.0, globalSize⟩

/-- The number of entries that this process holds. -/
def size (v : Slice) : Nat := v.entries.size

/-- The same value in every entry. -/
def fill (v : Slice) (value : Float) : Slice := { v with entries := v.entries.map fun _ => value }

/-- Another value in one entry. -/
def set (v : Slice) (i : Nat) (value : Float) : Slice :=
  { v with entries := v.entries.setIfInBounds i value }

/-- Other values in the leading entries, as far as both reach. -/
def overwrite (v : Slice) (values : List Float) : Slice :=
  { v with
    entries := (values.take v.size ++ v.entries.toList.drop values.length).toArray }

/-- Equal entries, compared as numbers, and equal whole length. -/
def same (v w : Slice) : Bool := v.entries == w.entries && v.globalSize = w.globalSize

/-- The slice with all it holds, as a structured text. -/
def detail (v : Slice) : String :=
  record "SolverVec"
    [("local", bracketed (v.entries.toList.map Number.entry)),
      ("global_len", toString v.globalSize)]

end Slice

end MatrixFree
