/-!
# Digits

Digits of bases up to sixteen, in either case of their letters.

Results: a written digit reads as its value (`digitValue?_lowerDigit`), and digits in upper case are
letters or numbers (`upperDigit_isAlphanum`).
-/

namespace Intercom.Text

/-- The value of a digit. -/
def digitValue? (c : Char) : Option Nat :=
  if '0' ≤ c ∧ c ≤ '9' then some (c.toNat - '0'.toNat)
  else if 'a' ≤ c ∧ c ≤ 'f' then some (c.toNat - 'a'.toNat + 10)
  else if 'A' ≤ c ∧ c ≤ 'F' then some (c.toNat - 'A'.toNat + 10)
  else none

/-- The digit of a value below sixteen, in lower case. -/
def lowerDigit (n : Nat) : Char :=
  if n < 10 then Char.ofNat ('0'.toNat + n) else Char.ofNat ('a'.toNat + (n - 10))

/-- The digit of a value below sixteen, in upper case. -/
def upperDigit (n : Nat) : Char :=
  if n < 10 then Char.ofNat ('0'.toNat + n) else Char.ofNat ('A'.toNat + (n - 10))

/-- Whether a character is a digit of a base. -/
def isDigitOf (base : Nat) (c : Char) : Bool :=
  (digitValue? c).any fun value => value < base

/-- The number that digits denote in a base. -/
def numberOf (base : Nat) (digits : List Char) : Nat :=
  digits.foldl (fun total c => total * base + (digitValue? c).getD 0) 0

theorem digitValue?_lowerDigit {n : Nat} (small : n < 16) :
    digitValue? (lowerDigit n) = some n := by
  have all : ∀ m ∈ List.range 16, digitValue? (lowerDigit m) = some m := by decide
  exact all n (List.mem_range.mpr small)

theorem upperDigit_isAlphanum {n : Nat} (small : n < 16) : (upperDigit n).isAlphanum = true := by
  have all : ∀ m ∈ List.range 16, (upperDigit m).isAlphanum = true := by decide
  exact all n (List.mem_range.mpr small)

end Intercom.Text
