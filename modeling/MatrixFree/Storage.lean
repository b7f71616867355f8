import MatrixFree.Failure
import MatrixFree.Word

/-!
# Storage

Values are stored in blocks, and the bytes of a block are counted by a signed word. Asking for a
larger block is a fault, which comes before anything is stored.
-/

namespace MatrixFree.Storage

/-- The most bytes that a block has. -/
def limit : Nat := wordCount / 2 - 1

/-- The bytes of a number, and of a coordinate. -/
def numberBytes : Nat := 8

/-- The bytes of a vector in a list of vectors: where its numbers are, how many there are, and for how
many there is room. -/
def vectorBytes : Nat := 24

/-- There is a block for this many items of so many bytes each. -/
def HasRoom (count bytes : Nat) : Prop := count * bytes ≤ limit

instance (count bytes : Nat) : Decidable (HasRoom count bytes) := inferInstanceAs (Decidable (_ ≤ _))

/-- Ask for a block. -/
def reserve (count bytes : Nat) : Except Fault Unit :=
  if HasRoom count bytes then .ok () else .error .capacityOverflow

theorem reserve_of_hasRoom {count bytes : Nat} (h : HasRoom count bytes) :
    reserve count bytes = .ok () := if_pos h

theorem reserve_of_not_hasRoom {count bytes : Nat} (h : ¬HasRoom count bytes) :
    reserve count bytes = .error .capacityOverflow := if_neg h

end MatrixFree.Storage
