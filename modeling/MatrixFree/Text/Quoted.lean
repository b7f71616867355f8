import MatrixFree.Text.Printable

/-!
# Quoted text

A text between double quotes, in which the quote, the backslash and what is not printable are
escaped. A line break, a tab, a carriage return and NUL have a letter of their own; any other
character that does not show as itself is given by its code point in hexadecimal. An apostrophe
stands for itself.
-/

namespace MatrixFree.Text

/-- The letter behind the backslash, for the characters that have one. -/
def escapeLetter? : Char → Option Char
  | '\x00' => some '0'
  | '\t' => some 't'
  | '\r' => some 'r'
  | '\n' => some 'n'
  | '\\' => some '\\'
  | '"' => some '"'
  | _ => none

/-- Hexadecimal digits, lower case, without leading zeros. -/
def hexadecimal (n : Nat) : List Char := Nat.toDigits 16 n

/-- How a character is written inside quotes. -/
def quoteChar (c : Char) : List Char :=
  match escapeLetter? c with
  | some letter => ['\\', letter]
  | none => if isPrintable c then [c] else ['\\', 'u', '\x7b'] ++ hexadecimal c.toNat ++ ['\x7d']

def quoteChars (cs : List Char) : List Char := '"' :: (cs.flatMap quoteChar ++ ['"'])

/-- The text in quotes. -/
def quote (s : String) : String := String.ofList (quoteChars s.toList)

end MatrixFree.Text
