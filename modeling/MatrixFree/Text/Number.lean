import MatrixFree.Text.Decimal

/-!
# Numbers in text

The five shapes in which a number is written: plainly (`plain`), with an exponent (`scientific`),
inside the text of a record (`entry`), with twelve decimals and an exponent (`monitored`), and with a
fixed number of decimals (`places`). A sign stands in front of zero as well; an infinity and NaN have
one text in every shape.
-/

namespace MatrixFree.Text.Number

/-- The decimal digits of a natural number. -/
def digits (n : Nat) : List Char := Nat.toDigits 10 n

def zeros (n : Nat) : List Char := List.replicate n '0'

/-- Put the point in front of the last `places` digits. -/
def pointed (ds : List Char) (places : Nat) : List Char :=
  let ds := zeros (places + 1 - ds.length) ++ ds
  if places = 0 then ds
  else ds.take (ds.length - places) ++ '.' :: ds.drop (ds.length - places)

/-- All digits in their place, without an exponent. -/
def positional (d : Decimal) : List Char :=
  pointed (digits d.digits ++ zeros d.exp.toNat) (-d.exp).toNat

/-- The exponent of the leading digit. -/
def top (d : Decimal) : Int := d.exp + (((digits d.digits).length - 1 : Nat) : Int)

/-- The leading digit, the point, the other digits, and the exponent of the leading digit. -/
def exponential (ds : List Char) (top : Int) : List Char :=
  pointed ds (ds.length - 1) ++ 'e' :: (toString top).toList

/-- The digits of `d` with their exponent. -/
def withExponent (d : Decimal) : List Char := exponential (digits d.digits) (top d)

/-- A number by the text of its magnitude. -/
def signed (finite : Binary → List Char) (x : Float) : String :=
  match Magnitude.ofFloat x with
  | .nan => "NaN"
  | .infinite => if isNegative x then "-inf" else "inf"
  | .finite v => String.ofList (if isNegative x then '-' :: finite v else finite v)

/-- The fewest digits that read back, without an exponent. -/
def plain : Float → String := signed fun v => positional (.shortest v)

/-- The fewest digits that read back, with an exponent. -/
def scientific : Float → String := signed fun v => withExponent (.shortest v)

/-- Exponents of the leading digit for which a record writes all digits in their place. -/
def entryIsPositional (top : Int) : Bool := -5 < top ∧ top < 16

/-- Inside a record a number always shows a point or an exponent: a whole number ends in `.0`, and
very small and very large numbers have an exponent. -/
def entry : Float → String := signed fun v =>
  let d := Decimal.shortest v
  if v.m = 0 ∨ entryIsPositional v.leading then
    positional d ++ if 0 ≤ d.exp then ['.', '0'] else []
  else withExponent d

/-- Twelve decimals and an exponent. -/
def monitored : Float → String := signed fun v =>
  if v.m = 0 then exponential (zeros 13) 0 else withExponent (.rounded v 12)

/-- A fixed number of decimals. -/
def places (n : Nat) : Float → String := signed fun v =>
  pointed (digits (Decimal.toUnit v (-(n : Int))).digits) n

end MatrixFree.Text.Number
