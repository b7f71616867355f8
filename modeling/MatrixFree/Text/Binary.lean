import MatrixFree.Word

/-!
# Binary numbers taken apart

A finite binary64 number is `m * 2 ^ q` with a natural `m` and an integer `q`, up to its sign. Every
text of a number is computed from this pair in exact arithmetic.
-/

namespace MatrixFree.Text

/-- A finite magnitude `m * 2 ^ q`. -/
structure Binary where
  m : Nat
  q : Int
  /-- The gap to the number below is half the gap to the number above. -/
  narrowBelow : Bool

/-- What the bits of a binary64 number stand for. -/
inductive Magnitude where
  | nan
  | infinite
  | finite (x : Binary)

namespace Binary

/-- The number with biased exponent `e` and fraction `f`. -/
def ofFields (e f : Nat) : Binary :=
  if e = 0 then ⟨f, -1074, false⟩
  else ⟨twoPow 52 + f, (e : Int) - 1075, f = 0 ∧ 1 < e⟩

/-- Numerator of the value. -/
def num (x : Binary) : Nat := x.m * twoPow x.q.toNat

/-- Denominator of the value. -/
def den (x : Binary) : Nat := twoPow (-x.q).toNat

/-- The exponent of the leading decimal digit. Every positive binary64 number is above `10 ^ -400`,
so the integer part of `10 ^ 400` times the value has its leading digit. -/
def leading (x : Binary) : Int :=
  ((Nat.toDigits 10 (x.num * tenPow 400 / x.den)).length : Int) - 401

end Binary

/-- The sign bit. -/
def isNegative (x : Float) : Bool := x.toBits.toNat / twoPow 63 = 1

namespace Magnitude

/-- The magnitude of a number. -/
def ofFloat (x : Float) : Magnitude :=
  let bits := x.toBits.toNat
  let e := bits / twoPow 52 % twoPow 11
  let f := bits % twoPow 52
  if e = twoPow 11 - 1 then if f = 0 then infinite else nan
  else finite (.ofFields e f)

end Magnitude

end MatrixFree.Text
