import MatrixFree.Text.Ranges

/-!
# Blanks

The characters of the Unicode property White_Space. They separate the words of an options line and
may not stand in an option scope.
-/

namespace MatrixFree.Text

/-- The property White_Space. -/
def blankRanges : Ranges :=
  [(0x9, 0xD), (0x20, 0x20), (0x85, 0x85), (0xA0, 0xA0), (0x1680, 0x1680), (0x2000, 0x200A),
    (0x2028, 0x2029), (0x202F, 0x202F), (0x205F, 0x205F), (0x3000, 0x3000)]

example : blankRanges.Apart := by decide

def isBlank (c : Char) : Bool := blankRanges.holds c.toNat

/-- Collect the words of a text, given the word under way, which is spelled backwards. -/
def wordsFrom : (word : List Char) → List Char → List (List Char)
  | word, [] => if word = [] then [] else [word.reverse]
  | word, c :: cs =>
    if isBlank c then
      if word = [] then wordsFrom [] cs else word.reverse :: wordsFrom [] cs
    else wordsFrom (c :: word) cs

/-- The maximal runs of characters that are not blank, in order. -/
def words (s : String) : List String := (wordsFrom [] s.toList).map String.ofList

end MatrixFree.Text
