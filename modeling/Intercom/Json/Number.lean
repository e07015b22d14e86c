import Intercom.Binary64

/-!
# Numbers of a JSON value

An integer of 64 bits, signed or not, is kept as it is; every other number is a binary64 number.
A numeral written with a fraction or an exponent is never an integer, whatever its value.
-/

namespace Intercom

/-- The integers that are kept exactly: those of a signed or of an unsigned 64-bit word. -/
def Number.Kept (value : Int) : Prop :=
  -9_223_372_036_854_775_808 ≤ value ∧ value < 18_446_744_073_709_551_616

instance (value : Int) : Decidable (Number.Kept value) := by
  unfold Number.Kept
  infer_instance

/-- A number of a JSON value. -/
inductive Number where
  | integer (value : Int) (kept : Number.Kept value)
  | real (value : Binary64)
deriving DecidableEq

namespace Number

/-- The number of a natural below `2 ^ 64`. -/
def ofUInt64 (n : UInt64) : Number :=
  .integer n.toNat ⟨by omega, by have := n.toNat_lt; omega⟩

/-- The unsigned word that an integer is; a real is none, even if it is whole. -/
def toUInt64? : Number → Option UInt64
  | .integer value _ => if 0 ≤ value then some (UInt64.ofNat value.toNat) else none
  | .real _ => none

/-- The nearest binary64 number. -/
def toReal? : Number → Option Binary64
  | .integer value _ => Binary64.ofInt? value
  | .real value => some value

end Number

end Intercom
