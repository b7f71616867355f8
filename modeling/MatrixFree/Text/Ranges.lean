/-!
# Character classes as ranges

A class of characters is a list of closed ranges of code points, ascending and apart.
-/

namespace MatrixFree.Text

/-- Closed ranges of code points. -/
abbrev Ranges := List (Nat × Nat)

namespace Ranges

/-- Some range holds the code point. -/
def holds (rs : Ranges) (code : Nat) : Bool := rs.any fun (low, high) => low ≤ code && code ≤ high

/-- Each range is nonempty, and a gap separates it from the next. -/
def Apart : Ranges → Prop
  | [] => True
  | [(low, high)] => low ≤ high
  | (low, high) :: (low', high') :: rs => low ≤ high ∧ high + 1 < low' ∧ Apart ((low', high') :: rs)

instance Apart.decide : (rs : Ranges) → Decidable (Apart rs)
  | [] => inferInstanceAs (Decidable True)
  | [(low, high)] => inferInstanceAs (Decidable (low ≤ high))
  | (low, high) :: (low', high') :: rs =>
    have := Apart.decide ((low', high') :: rs)
    inferInstanceAs (Decidable (low ≤ high ∧ high + 1 < low' ∧ Apart ((low', high') :: rs)))

end Ranges

end MatrixFree.Text
