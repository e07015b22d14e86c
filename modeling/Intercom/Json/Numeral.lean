import Intercom.Binary64.Shortest
import Intercom.Json.Number
import Intercom.Text.Digit

/-!
# Numerals

The written form of a number: how it is cut from a text (`Numeral.read?`), which number it stands
for (`Numeral.number?`), and how a number is written (`Number.text`).

A numeral is read with a significand of 64 bits. Digits join it from the left as long as it fits;
a later digit of the whole part counts as a power of ten, a later digit of the fraction is left
out. The significand is rounded to binary64 and then multiplied or divided by a power of ten that
is rounded itself, so a numeral with many digits may stand for a neighbour of the nearest number.
A magnitude past the largest binary64 number is refused, one below the least is a zero.
-/

namespace Intercom

/-- A numeral as written; the digits are the characters `0` to `9`. -/
structure Numeral where
  negative : Bool
  whole : List Char
  fraction : Option (List Char)
  /-- Whether the exponent is negative, and its digits. -/
  exponent : Option (Bool × List Char)
deriving DecidableEq

namespace Numeral

/-- The value of a digit. -/
def digit (c : Char) : Nat :=
  c.toNat - '0'.toNat

/-- The digits that a text starts with, and the rest. -/
def digits (text : List Char) : List Char × List Char :=
  text.span Char.isDigit

/-- The whole part: `0` alone or digits that do not start with `0`. -/
def readWhole? (text : List Char) : Option (List Char × List Char) :=
  match digits text with
  | ([], _) => none
  | ('0' :: _ :: _, _) => none
  | parts => some parts

/-- The fraction: nothing, or a point and at least one digit. -/
def readFraction? : List Char → Option (Option (List Char) × List Char)
  | '.' :: rest =>
      match digits rest with
      | ([], _) => none
      | (fraction, rest) => some (some fraction, rest)
  | rest => some (none, rest)

/-- The sign of an exponent, `true` for a minus. -/
def readSign : List Char → Bool × List Char
  | '-' :: rest => (true, rest)
  | '+' :: rest => (false, rest)
  | rest => (false, rest)

/-- The digits of an exponent after its mark. -/
def readExponentDigits? (text : List Char) : Option (Option (Bool × List Char) × List Char) :=
  let (negative, rest) := readSign text
  match digits rest with
  | ([], _) => none
  | (exponent, rest) => some (some (negative, exponent), rest)

/-- The exponent: nothing, or its mark, a sign or none, and at least one digit. -/
def readExponent? : List Char → Option (Option (Bool × List Char) × List Char)
  | 'e' :: rest => readExponentDigits? rest
  | 'E' :: rest => readExponentDigits? rest
  | rest => some (none, rest)

/-- A numeral without its sign. -/
def readMagnitude? (negative : Bool) (text : List Char) : Option (Numeral × List Char) := do
  let (whole, rest) ← readWhole? text
  let (fraction, rest) ← readFraction? rest
  let (exponent, rest) ← readExponent? rest
  some (⟨negative, whole, fraction, exponent⟩, rest)

/-- The numeral that a text starts with, and the rest. -/
def read? : List Char → Option (Numeral × List Char)
  | '-' :: rest => readMagnitude? true rest
  | rest => readMagnitude? false rest

/-- A significand with the digits that still fit in 64 bits, and the digits that do not. -/
def absorb (significand : Nat) : List Char → Nat × List Char
  | [] => (significand, [])
  | c :: rest =>
      let next := significand * 10 + digit c
      if next < UInt64.size then absorb next rest else (significand, c :: rest)

/-- The largest exponent that is counted; a written one beyond it acts as an infinite one. -/
def largestExponent : Nat := 2_147_483_647

/-- A magnitude times a power of ten. Two divisions by `10 ^ 308` leave nothing of a significand,
so the steps never run out. -/
def scale? : Nat → Binary64 → Int → Option Binary64
  | 0, magnitude, _ => some magnitude
  | steps + 1, magnitude, exponent =>
      if exponent.natAbs ≤ 308 then do
        let power ← Binary64.ofNat? (Nat.pow 10 exponent.natAbs)
        if 0 ≤ exponent then magnitude.mul? power else magnitude.div? power
      else if magnitude.isZero then some magnitude
      else if 0 ≤ exponent then none
      else do
        let power ← Binary64.ofNat? (Nat.pow 10 308)
        let smaller ← magnitude.div? power
        scale? steps smaller (exponent + 308)

/-- The magnitude `significand · 10 ^ exponent` with a sign. -/
def real? (negative : Bool) (significand : Nat) (exponent : Int) : Option Number := do
  let rounded ← Binary64.ofNat? significand
  let magnitude ← scale? 4 rounded exponent
  some (.real (if negative then magnitude.neg else magnitude))

/-- The number of a numeral without fraction and exponent whose digits all fit. -/
def whole? (negative : Bool) (significand : Nat) : Option Number :=
  if negative && significand = 0 then some (.real (Binary64.zero true))
  else
    let value : Int := if negative then -(significand : Int) else significand
    if kept : Number.Kept value then some (.integer value kept) else real? negative significand 0

/-- The number that a numeral stands for, unless it is too large. -/
def number? (numeral : Numeral) : Option Number :=
  let (significand, unread) := absorb 0 numeral.whole
  match numeral.fraction, numeral.exponent with
  | none, none =>
      if unread.isEmpty then whole? numeral.negative significand
      else real? numeral.negative significand unread.length
  | fraction, exponent =>
      let places := fraction.getD []
      let (significand, ignored) := absorb significand places
      let shift : Int := (unread.length : Int) - ((places.length : Int) - (ignored.length : Int))
      match exponent with
      | none => real? numeral.negative significand shift
      | some (down, written) =>
          let size := Text.numberOf 10 written
          if size ≤ largestExponent then
            real? numeral.negative significand (if down then shift - size else shift + size)
          else if significand ≠ 0 && !down then none
          else some (.real (Binary64.zero numeral.negative))

end Numeral

namespace Number

/-- The digits of a natural. -/
def naturalText (n : Nat) : List Char :=
  Nat.toDigits 10 n

/-- An integer in decimal. -/
def integerText (value : Int) : List Char :=
  if value < 0 then '-' :: naturalText value.natAbs else naturalText value.natAbs

/-- Which decimals are written without an exponent: those whose point stands after the place
`lowest` and at most after the place `highest`, counted from the first digit. -/
structure PointRange where
  lowest : Int
  highest : Int

/-- Reals are written without an exponent from `0.00001` up to, and not including, `10 ^ 16`. -/
def positional : PointRange := ⟨-4, 16⟩

/-- A decimal in positional notation, always with a fraction. The point stands after `point`
digits. -/
def positionalText (digits : List Char) (point : Int) : List Char :=
  if point ≤ 0 then '0' :: '.' :: (List.replicate (-point).toNat '0' ++ digits)
  else if digits.length ≤ point.toNat then
    digits ++ List.replicate (point.toNat - digits.length) '0' ++ ['.', '0']
  else digits.take point.toNat ++ '.' :: digits.drop point.toNat

/-- A decimal with one digit before the point and a signed exponent. -/
def scientificText (digits : List Char) (point : Int) : List Char :=
  let exponent := point - 1
  let mark := if exponent < 0 then ['e', '-'] else ['e', '+']
  let fraction := if digits.length ≤ 1 then [] else '.' :: digits.drop 1
  digits.take 1 ++ fraction ++ mark ++ naturalText exponent.natAbs

/-- The text of a nonnegative decimal. -/
def decimalText (decimal : Binary64.Decimal) : List Char :=
  let digits := naturalText decimal.digits
  let point := digits.length + decimal.exponent
  if positional.lowest ≤ point && point ≤ positional.highest then positionalText digits point
  else scientificText digits point

/-- A real by its shortest decimal; zero is `0.0`. -/
def realText (value : Binary64) : List Char :=
  let magnitude := if value.isZero then ['0', '.', '0'] else decimalText value.shortest
  if value.negative then '-' :: magnitude else magnitude

/-- The text of a number. -/
def text : Number → List Char
  | .integer value _ => integerText value
  | .real value => realText value

end Number

end Intercom
