import MatrixFree.Text.Binary

/-!
# Decimal digits of a binary number

Two ways to choose digits for a number `v`.

* `Decimal.shortest` takes the fewest digits that still read back as `v`, and among those the
  nearest to `v`; of two that are equally near it takes the larger.
* `Decimal.rounded` takes a given number of digits and rounds exactly, a half to the even neighbour.

Both work on a grid: the multiples of a power of ten. The only candidates on a grid are the two
neighbours of `v`.
-/

namespace MatrixFree.Text

/-- The number `digits * 10 ^ exp`. -/
structure Decimal where
  digits : Nat
  exp : Int
deriving DecidableEq, Repr

/-- A quotient rounded to the nearest natural number, a half to the even one. -/
def roundDiv (num den : Nat) : Nat :=
  let q := num / den
  let r := num % den
  if 2 * r < den then q
  else if den < 2 * r then q + 1
  else if q % 2 = 0 then q else q + 1

/-- The value of `a * 10 ^ i` compared with `b * 2 ^ j`. -/
def compareScaled (a : Nat) (i : Int) (b : Nat) (j : Int) : Ordering :=
  compare (a * tenPow i.toNat * twoPow (-j).toNat) (b * twoPow j.toNat * tenPow (-i).toNat)

namespace Binary

/-- The decimal lies among the numbers that are rounded to `x`: between the two midpoints to the
neighbours of `x`, which belong to `x` if `m` is even. -/
def readsBack (x : Binary) (d : Decimal) : Bool :=
  let low := compareScaled d.digits d.exp
    (if x.narrowBelow then 4 * x.m - 1 else 4 * x.m - 2) (x.q - 2)
  let high := compareScaled d.digits d.exp (4 * x.m + 2) (x.q - 2)
  let ends := x.m % 2 = 0
  (low = .gt ∨ ends ∧ low = .eq) ∧ (high = .lt ∨ ends ∧ high = .eq)

/-- The number counted in units of `10 ^ unit`, as a numerator and a denominator. -/
def inUnits (x : Binary) (unit : Int) : Nat × Nat :=
  (x.num * tenPow (-unit).toNat, x.den * tenPow unit.toNat)

/-- The neighbour of `x` on the grid of `10 ^ unit` that reads back as `x`, the nearer of two. -/
def onGrid (x : Binary) (unit : Int) : Option Decimal :=
  let (num, den) := x.inUnits unit
  let below : Decimal := ⟨num / den, unit⟩
  let above : Decimal := ⟨num / den + 1, unit⟩
  let nearerBelow : Bool := 2 * (num % den) < den
  match x.readsBack below, x.readsBack above with
  | true, true => some (if nearerBelow then below else above)
  | true, false => some below
  | false, true => some above
  | false, false => none

end Binary

namespace Decimal

/-- Drop trailing zeros from the digits, at most `fuel` of them. -/
def trim : (fuel : Nat) → Decimal → Decimal
  | 0, d => d
  | fuel + 1, d => if d.digits % 10 = 0 ∧ d.digits ≠ 0 then trim fuel ⟨d.digits / 10, d.exp + 1⟩ else d

/-- The fewest digits that read back, and the nearest of those. Seventeen always suffice. -/
def shortest (x : Binary) : Decimal :=
  if x.m = 0 then ⟨0, 0⟩
  else
    let top := x.leading
    let found := (List.range 17).findSome? fun (k : Nat) => x.onGrid (top - (k : Int))
    trim 400 (found.getD ⟨x.num, 0⟩)

/-- The number rounded to multiples of `10 ^ unit`. -/
def toUnit (x : Binary) (unit : Int) : Decimal :=
  let (num, den) := x.inUnits unit
  ⟨roundDiv num den, unit⟩

/-- A positive number rounded to `places` digits behind the leading one. Rounding up may carry into
a new leading digit, and the last digit is then dropped again. -/
def rounded (x : Binary) (places : Nat) : Decimal :=
  let d := toUnit x (x.leading - (places : Int))
  if d.digits = tenPow (places + 1) then ⟨tenPow places, d.exp + 1⟩ else d

end Decimal

end MatrixFree.Text
