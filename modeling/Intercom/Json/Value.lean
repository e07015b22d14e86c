import Intercom.Json.Number
import Intercom.Table

/-!
# JSON values

The values that JSON texts stand for. The members of an object are a table, so that they are in the
order of their keys and of members with one key the last counts.
-/

namespace Intercom

/-- A JSON value. -/
inductive Json where
  | null
  | bool (value : Bool)
  | number (value : Number)
  | string (value : String)
  | array (items : List Json)
  | object (members : List (String × Json))
deriving Inhabited

namespace Json

/-- The name of the kind of a value. -/
def kindName : Json → String
  | .null => "null"
  | .bool _ => "boolean"
  | .number _ => "number"
  | .string _ => "string"
  | .array _ => "array"
  | .object _ => "object"

/-- The value of a member; other values than objects have none. -/
def member? (key : String) : Json → Option Json
  | .object members => Table.find? key members
  | _ => none

/-- A value, unless it is `null`. -/
def nonNull? : Json → Option Json
  | .null => none
  | value => some value

/-- The text that a string holds. -/
def asString? : Json → Option String
  | .string value => some value
  | _ => none

/-- The truth value that a boolean holds. -/
def asBool? : Json → Option Bool
  | .bool value => some value
  | _ => none

mutual

/-- Equality of values is decidable. -/
def decideEq : (left right : Json) → Decidable (left = right)
  | .null, .null => isTrue rfl
  | .bool a, .bool b => decidable_of_iff (a = b) (by simp)
  | .number a, .number b => decidable_of_iff (a = b) (by simp)
  | .string a, .string b => decidable_of_iff (a = b) (by simp)
  | .array a, .array b =>
      have := decideItemsEq a b
      decidable_of_iff (a = b) (by simp)
  | .object a, .object b =>
      have := decideMembersEq a b
      decidable_of_iff (a = b) (by simp)
  | .null, .bool _ | .null, .number _ | .null, .string _ | .null, .array _ | .null, .object _
  | .bool _, .null | .bool _, .number _ | .bool _, .string _ | .bool _, .array _
  | .bool _, .object _ | .number _, .null | .number _, .bool _ | .number _, .string _
  | .number _, .array _ | .number _, .object _ | .string _, .null | .string _, .bool _
  | .string _, .number _ | .string _, .array _ | .string _, .object _ | .array _, .null
  | .array _, .bool _ | .array _, .number _ | .array _, .string _ | .array _, .object _
  | .object _, .null | .object _, .bool _ | .object _, .number _ | .object _, .string _
  | .object _, .array _ => isFalse nofun

/-- Equality of lists of values is decidable. -/
def decideItemsEq : (left right : List Json) → Decidable (left = right)
  | [], [] => isTrue rfl
  | a :: as, b :: bs =>
      have := decideEq a b
      have := decideItemsEq as bs
      decidable_of_iff (a = b ∧ as = bs) (by simp)
  | [], _ :: _ | _ :: _, [] => isFalse nofun

/-- Equality of lists of members is decidable. -/
def decideMembersEq : (left right : List (String × Json)) → Decidable (left = right)
  | [], [] => isTrue rfl
  | (k, a) :: as, (l, b) :: bs =>
      have := decideEq a b
      have := decideMembersEq as bs
      decidable_of_iff ((k = l ∧ a = b) ∧ as = bs) (by simp)
  | [], _ :: _ | _ :: _, [] => isFalse nofun

end

instance : DecidableEq Json := decideEq

end Json

end Intercom
