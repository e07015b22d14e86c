import Intercom.Json.Value

/-!
# Typed reading of values

`JsonShape α` says which JSON values are values of a type, and how a value of the type is shown as
JSON again. Integers are read from integers only, a real from any number.
-/

namespace Intercom

/-- Types whose values are JSON values of a certain shape. -/
class JsonShape (α : Type) where
  ofJson? : Json → Option α
  toJson : α → Json

namespace JsonShape

/-- An integer shown as JSON; those outside the words that JSON keeps do not occur. -/
def integer (value : Int) : Json :=
  if kept : Number.Kept value then .number (.integer value kept) else .null

/-- The integer that a value holds, if it lies within bounds. -/
def integerWithin? (low high : Int) : Json → Option Int
  | .number (.integer value _) => if low ≤ value ∧ value ≤ high then some value else none
  | _ => none

instance : JsonShape UInt64 where
  ofJson?
    | .number value => value.toUInt64?
    | _ => none
  toJson value := .number (.ofUInt64 value)

instance : JsonShape Int64 where
  ofJson? value := (integerWithin? Int64.minValue.toInt Int64.maxValue.toInt value).map Int64.ofInt
  toJson value := integer value.toInt

instance : JsonShape UInt8 where
  ofJson? value := (integerWithin? 0 255 value).map fun n => UInt8.ofNat n.toNat
  toJson value := integer value.toNat

instance : JsonShape Binary64 where
  ofJson?
    | .number value => value.toReal?
    | _ => none
  toJson value := .number (.real value)

instance : JsonShape Bool where
  ofJson? := Json.asBool?
  toJson := .bool

instance : JsonShape String where
  ofJson? := Json.asString?
  toJson := .string

instance : JsonShape Json where
  ofJson? := some
  toJson := id

instance {α : Type} [JsonShape α] : JsonShape (Option α) where
  ofJson?
    | .null => some none
    | value => (ofJson? value).map some
  toJson
    | none => .null
    | some value => toJson value

instance {α : Type} [JsonShape α] : JsonShape (List α) where
  ofJson?
    | .array items => items.mapM ofJson?
    | _ => none
  toJson items := .array (items.map toJson)

/-- Members of one shape, by key. -/
structure Dictionary (α : Type) where
  members : List (String × α)

instance {α : Type} [JsonShape α] : JsonShape (Dictionary α) where
  ofJson?
    | .object members =>
        (members.mapM fun member => (ofJson? member.2).map (member.1, ·)).map Dictionary.mk
    | _ => none
  toJson dictionary := .object (dictionary.members.map fun member => (member.1, toJson member.2))

end JsonShape

end Intercom
