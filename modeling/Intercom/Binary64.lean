/-!
# Binary64 numbers, exactly

A finite number of the binary interchange format with 53 bits of precision, held as sign, mantissa
and exponent, so that every operation is exact arithmetic on naturals followed by one rounding.

`Binary64.ofRatio?` rounds a quotient to the nearest number of the format, a tie to the even
mantissa, and has no answer beyond the largest finite number. Sums are not needed here: a
decimal numeral is read with products and quotients only.

Results: a rounded quotient is at most half a unit below the exact one (`le_two_mul_divRound`).
-/

namespace Intercom

/-- The one pair of mantissa and exponent that stands for a magnitude: the mantissa has its 53rd
bit set, or the exponent is the least one. -/
def Binary64.Canonical (mantissa : Nat) (exponent : Int) : Prop :=
  mantissa < Nat.pow 2 53 ∧ -1074 ≤ exponent ∧ exponent ≤ 971 ∧
    (mantissa < Nat.pow 2 52 → exponent = -1074)

instance (mantissa : Nat) (exponent : Int) : Decidable (Binary64.Canonical mantissa exponent) := by
  unfold Binary64.Canonical
  infer_instance

/-- The number `± mantissa · 2 ^ exponent`; zero has a sign too. -/
structure Binary64 where
  negative : Bool
  mantissa : Nat
  exponent : Int
  canonical : Binary64.Canonical mantissa exponent
deriving DecidableEq

namespace Binary64

/-- Zero with a sign. -/
def zero (negative : Bool) : Binary64 :=
  ⟨negative, 0, -1074, by decide⟩

instance : Inhabited Binary64 := ⟨zero false⟩

/-- Whether the number is zero, of either sign. -/
def isZero (x : Binary64) : Bool :=
  x.mantissa == 0

/-- The number with the other sign. -/
def neg (x : Binary64) : Binary64 :=
  { x with negative := !x.negative }

/-- The quotient rounded to the nearest natural, a tie to the even one. -/
def divRound (num den : Nat) : Nat :=
  let down := num / den
  let left := 2 * (num % den)
  if left < den then down
  else if den < left then down + 1
  else if down % 2 = 0 then down
  else down + 1

/-- The exponent of the largest power of two that is at most `num / den`, both positive. -/
def floorLog2 (num den : Nat) : Int :=
  let guess : Int := (num.log2 : Int) - (den.log2 : Int)
  if den * Nat.pow 2 guess.toNat ≤ num * Nat.pow 2 (-guess).toNat then guess else guess - 1

/-- The number nearest to `± num / den`, a tie to the even mantissa; none past the largest. -/
def ofRatio? (negative : Bool) (num den : Nat) : Option Binary64 :=
  if num = 0 then some (zero negative)
  else
    let exponent := max (-1074) (floorLog2 num den - 52)
    let mantissa := divRound (num * Nat.pow 2 (-exponent).toNat) (den * Nat.pow 2 exponent.toNat)
    let carried := mantissa = Nat.pow 2 53
    let mantissa := if carried then Nat.pow 2 52 else mantissa
    let exponent := if carried then exponent + 1 else exponent
    if fits : Canonical mantissa exponent then some ⟨negative, mantissa, exponent, fits⟩ else none

/-- The number nearest to a natural. -/
def ofNat? (n : Nat) : Option Binary64 :=
  ofRatio? false n 1

/-- The number nearest to an integer. -/
def ofInt? (n : Int) : Option Binary64 :=
  ofRatio? (decide (n < 0)) n.natAbs 1

/-- The rounded product. -/
def mul? (x y : Binary64) : Option Binary64 :=
  let exponent := x.exponent + y.exponent
  ofRatio? (x.negative != y.negative) (x.mantissa * y.mantissa * Nat.pow 2 exponent.toNat)
    (Nat.pow 2 (-exponent).toNat)

/-- The rounded quotient; the divisor is not zero. -/
def div? (x y : Binary64) : Option Binary64 :=
  let exponent := x.exponent - y.exponent
  ofRatio? (x.negative != y.negative) (x.mantissa * Nat.pow 2 exponent.toNat)
    (y.mantissa * Nat.pow 2 (-exponent).toNat)

/-- A natural, shifted up by a number of bits. -/
def shifted (n bits : Nat) : Nat :=
  n * Nat.pow 2 bits

/-- The number in units of `2 ^ (-1074)`. Every number of the format is a whole multiple of it. -/
def units (x : Binary64) : Int :=
  let magnitude : Int := shifted x.mantissa (x.exponent + 1074).toNat
  if x.negative then -magnitude else magnitude

/-- Whether a number is at most another one. -/
def le (x y : Binary64) : Bool :=
  x.units ≤ y.units

/-- Whether a number is less than another one; the two zeros are equal. -/
def lt (x y : Binary64) : Bool :=
  x.units < y.units

/-- The units of 1. -/
def unitsOfOne : Nat :=
  shifted 1 1074

/-- Whether the number has no fraction. -/
def isWhole (x : Binary64) : Bool :=
  x.units % unitsOfOne == 0

/-- The number without its fraction as a word; outside the range of words the nearest one. -/
def toUInt64 (x : Binary64) : UInt64 :=
  UInt64.ofNat (min (x.units.toNat / unitsOfOne) (UInt64.size - 1))

/-- The word that a number equals: the number has no fraction, is not below 0 and is less than the
largest word, which the format rounds up to `2 ^ 64`. -/
def wholeWord? (x : Binary64) : Option UInt64 :=
  if (zero false).le x && x.isWhole && (ofNat? (UInt64.size - 1)).any fun top => x.lt top then
    some x.toUInt64
  else none

theorem le_two_mul_divRound {num den : Nat} (positive : 0 < den) :
    2 * num ≤ 2 * (divRound num den * den) + den := by
  have split := Nat.div_add_mod num den
  have comm : num / den * den = den * (num / den) := Nat.mul_comm _ _
  have less := Nat.mod_lt num positive
  unfold divRound
  dsimp only
  split
  · omega
  · split
    · rw [Nat.add_mul]; omega
    · split
      · omega
      · rw [Nat.add_mul]; omega

end Binary64

end Intercom
