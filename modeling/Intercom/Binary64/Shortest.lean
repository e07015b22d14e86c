import Intercom.Binary64

/-!
# The shortest decimal that reads back

`Binary64.shortest` gives the decimal `digits · 10 ^ exponent` with the fewest digits among those
that round to a given number, and of those the one nearest to it.

The reals that round to a number form an interval around it, closed exactly when its mantissa is
even. A grid of step `10 ^ k` has a point in that interval only if one of the two grid points next
to the number lies in it, so testing those two for one `k` after the other, from coarse to fine,
finds the coarsest grid with a hit.
-/

namespace Intercom.Binary64

/-- A positive decimal `digits · 10 ^ exponent`. -/
structure Decimal where
  digits : Nat
  exponent : Int
deriving DecidableEq, Inhabited

/-- The reals that round to one number, as numerators over a common denominator. -/
structure Interval where
  low : Nat
  centre : Nat
  high : Nat
  denominator : Nat
  closed : Bool

/-- The interval of a nonzero magnitude. Below a power of two the neighbours are half as far. -/
def interval (x : Binary64) : Interval :=
  let step := x.exponent - 2
  let scale := Nat.pow 2 step.toNat
  let below := if x.mantissa = Nat.pow 2 52 ∧ -1074 < x.exponent then 1 else 2
  { low := (4 * x.mantissa - below) * scale
    centre := 4 * x.mantissa * scale
    high := (4 * x.mantissa + 2) * scale
    denominator := Nat.pow 2 (-step).toNat
    closed := x.mantissa % 2 == 0 }

namespace Interval

/-- Whether the fraction `num / den` lies in the interval. -/
def contains (i : Interval) (num den : Nat) : Bool :=
  let point := num * i.denominator
  if i.closed then i.low * den ≤ point && point ≤ i.high * den
  else i.low * den < point && point < i.high * den

/-- The multiple of `10 ^ k` in the interval that is nearest to its centre, as a factor of that
step; of two equally near ones the even one. -/
def gridPoint? (i : Interval) (k : Int) : Option Nat :=
  let up := Nat.pow 10 k.toNat
  let down := Nat.pow 10 (-k).toNat
  let num := i.centre * down
  let den := i.denominator * up
  let below := num / den
  let above := below + 1
  match i.contains (below * up) down, i.contains (above * up) down with
  | false, false => none
  | true, false => some below
  | false, true => some above
  | true, true =>
      let left := 2 * (num % den)
      if left < den then some below
      else if den < left then some above
      else if below % 2 = 0 then some below
      else some above

/-- The hit on the coarsest of the grids `10 ^ k`, `10 ^ (k - 1)`, … -/
def firstHit (i : Interval) : Nat → Int → Decimal
  | 0, k => ⟨i.centre * Nat.pow 10 (-k).toNat / (i.denominator * Nat.pow 10 k.toNat), k⟩
  | steps + 1, k =>
      match i.gridPoint? k with
      | some factor => if factor = 0 then firstHit i steps (k - 1) else ⟨factor, k⟩
      | none => firstHit i steps (k - 1)

end Interval

/-- An exponent whose power of ten exceeds every magnitude with this binary exponent. -/
def decimalBound (exponent : Int) : Int :=
  (exponent + 55) * 30103 / 100000 + 1

/-- The shortest decimal of a nonzero magnitude. Seventeen digits always suffice, and a mantissa
has at most sixteen leading zeros, so the search ends before its steps do. -/
def shortest (x : Binary64) : Decimal :=
  x.interval.firstHit 40 (decimalBound x.exponent)

end Intercom.Binary64
