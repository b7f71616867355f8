import MatrixFree.Word

/-!
# Numerals

How a number is read from a word of text. A real numeral is an optional sign in front of digits with
at most one point, and an optional exponent; one digit beside the point is enough. `inf`,
`infinity` and `nan` are read in any case, with a sign as well. A natural numeral is digits behind an
optional plus. Neither admits blanks or separators.
-/

namespace MatrixFree.Text.Numeral

/-- The value of a decimal digit. -/
def digit? (c : Char) : Option Nat :=
  if '0' ≤ c ∧ c ≤ '9' then some (c.toNat - '0'.toNat) else none

/-- The number spelled by digits that follow those of `acc`. -/
def valueFrom (acc : Nat) (ds : List Char) : Nat :=
  ds.foldl (fun acc c => 10 * acc + (c.toNat - '0'.toNat)) acc

def isDigit (c : Char) : Bool := (digit? c).isSome

/-- ASCII letters in lower case, other characters as they are. -/
def lower (cs : List Char) : List Char := cs.map Char.toLower

/-- A sign in front of a text, `true` for minus, and the rest. -/
def splitSign : List Char → Bool × List Char
  | '+' :: cs => (false, cs)
  | '-' :: cs => (true, cs)
  | cs => (false, cs)

/-- The exponent behind the digits: nothing, or `e` with a signed run of digits. -/
def exponent? : List Char → Option Int
  | [] => some 0
  | c :: cs =>
    if c = 'e' ∨ c = 'E' then
      let (minus, ds) := splitSign cs
      if ds ≠ [] ∧ ds.all isDigit then
        let value : Int := valueFrom 0 ds
        some (if minus then -value else value)
      else none
    else none

/-- The magnitude `digits * 10 ^ exp` in binary64. Exponents beyond every binary64 number are
settled by comparing the leading digit. -/
def magnitude (digits : Nat) (exp : Int) : Float :=
  let top := exp + (Nat.toDigits 10 digits).length
  if digits = 0 ∨ top < -400 then 0.0
  else if 400 < top then 1.0 / 0.0
  else Float.ofScientific digits (exp < 0) exp.natAbs

/-- An unsigned numeral with digits. -/
def unsigned? (cs : List Char) : Option Float :=
  let whole := cs.takeWhile isDigit
  let rest := cs.dropWhile isDigit
  let (fraction, rest) := match rest with
    | '.' :: rest => (rest.takeWhile isDigit, rest.dropWhile isDigit)
    | rest => ([], rest)
  if whole = [] ∧ fraction = [] then none
  else (exponent? rest).map fun exp =>
    magnitude (valueFrom (valueFrom 0 whole) fraction) (exp - fraction.length)

/-- An unsigned word for a special value. -/
def special? (cs : List Char) : Option Float :=
  let word := String.ofList (lower cs)
  if word = "inf" ∨ word = "infinity" then some (1.0 / 0.0)
  else if word = "nan" then some (0.0 / 0.0)
  else none

/-- The real number that a word spells. -/
def real? (s : String) : Option Float :=
  let (minus, cs) := splitSign s.toList
  let value? := match unsigned? cs with
    | some x => some x
    | none => special? cs
  value?.map fun x => if minus then -x else x

/-- The natural number that a word spells, if it is a 64-bit word. -/
def natural? (s : String) : Option Nat :=
  let ds := match s.toList with
    | '+' :: cs => cs
    | cs => cs
  if ds ≠ [] ∧ ds.all isDigit ∧ valueFrom 0 ds < wordCount then some (valueFrom 0 ds) else none

end MatrixFree.Text.Numeral
