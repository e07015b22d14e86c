import Intercom.Json.Written

/-!
# Records

A record with known fields is written as an object or as an array of the fields in their order.
In an object a known field stands at most once and unknown fields are passed over, so they only
have to be well formed; in an array no entry may be left over. A missing field and a field that
is `null` are told apart by the record's own reader.
-/

namespace Intercom.Record

/-- The known fields that a record gives, with their values. -/
abbrev Fields := List (String × Json)

/-- Whether no known name is the key of two members. -/
def namedOnce {α : Type} (names : List String) (members : List (String × α)) : Bool :=
  names.all fun name => (members.filter fun member => member.1 == name).length ≤ 1

/-- Members with their keys as text. -/
def keyed? : List (List Glyph × Written) → Option (List (String × Written))
  | [] => some []
  | (glyphs, member) :: rest =>
      match Glyph.text? glyphs, keyed? rest with
      | some key, some members => some ((key, member) :: members)
      | _, _ => none

/-- The values of written fields. -/
def values? (depth : Nat) : List (String × Written) → Option Fields
  | [] => some []
  | (name, member) :: rest =>
      match member.value? depth, values? depth rest with
      | some value, some fields => some ((name, value) :: fields)
      | _, _ => none

/-- The known fields of a written record that may enclose `depth` more levels. -/
def ofWritten? (names : List String) (depth : Nat) : Written → Option Fields
  | .object members =>
      match keyed? members with
      | none => none
      | some members =>
          if namedOnce names members then
            values? depth (members.filter fun member => names.contains member.1)
          else none
  | .array items => if items.length ≤ names.length then values? depth (names.zip items) else none
  | _ => none

/-- The known fields of a record held as a value. -/
def ofJson? (names : List String) : Json → Option Fields
  | .object members => some (members.filter fun member => names.contains member.1)
  | .array items => if items.length ≤ names.length then some (names.zip items) else none
  | _ => none

/-- The known fields of a record in a text. -/
def parse? (names : List String) (text : List Char) : Option Fields := do
  let written ← Written.read? text
  ofWritten? names (Written.depthLimit - 1) written

/-- A field that must be there. -/
def required? {α : Type} (fields : Fields) (name : String) (read : Json → Option α) : Option α :=
  (Table.find? name fields).bind read

/-- A field that may be missing, or else has to be of its type. -/
def withDefault? {α : Type} (fields : Fields) (name : String) (read : Json → Option α)
    (default : α) : Option α :=
  match Table.find? name fields with
  | none => some default
  | some value => read value

/-- A field that may be missing or `null`. -/
def optional? {α : Type} (fields : Fields) (name : String) (read : Json → Option α) :
    Option (Option α) :=
  match Table.find? name fields with
  | none => some none
  | some .null => some none
  | some value => (read value).map some

end Intercom.Record
