import Intercom.Json.Numeral
import Intercom.Json.Quoted
import Intercom.Json.Value

/-!
# Written JSON

A JSON text as a tree that still shows how it is written: numerals, glyphs of strings, and members
in the order of the text, repeated keys included. `Written.read?` is the grammar of JSON alone. It
knows no limit on depth, on the size of a number or on surrogate codes; those belong to the value
that a written text stands for (`Written.value?`). So a part of a text that nobody looks at only has
to be well formed.
-/

namespace Intercom

/-- A JSON text as written. -/
inductive Written where
  | null
  | bool (value : Bool)
  | number (numeral : Numeral)
  | string (glyphs : List Glyph)
  | array (items : List Written)
  | object (members : List (List Glyph × Written))
deriving Inhabited

namespace Written

/-- The four characters that may stand between the tokens of a JSON text. -/
def isSpace (c : Char) : Bool :=
  c = ' ' || c = '\t' || c = '\n' || c = '\r'

/-- A text without the space at its start. -/
def skipSpace (text : List Char) : List Char :=
  text.dropWhile isSpace

/-- The key of a member with the colon after it. -/
def readKey? (text : List Char) : Option (List Glyph × List Char) :=
  match skipSpace text with
  | '"' :: rest => do
      let (glyphs, rest) ← Glyph.read? rest
      match skipSpace rest with
      | ':' :: rest => some (glyphs, rest)
      | _ => none
  | _ => none

mutual

/-- The value that a text starts with, and the text after it. -/
def readValue? : Nat → List Char → Option (Written × List Char)
  | 0, _ => none
  | steps + 1, text =>
      match skipSpace text with
      | 'n' :: 'u' :: 'l' :: 'l' :: rest => some (.null, rest)
      | 't' :: 'r' :: 'u' :: 'e' :: rest => some (.bool true, rest)
      | 'f' :: 'a' :: 'l' :: 's' :: 'e' :: rest => some (.bool false, rest)
      | '"' :: rest => (Glyph.read? rest).map fun (glyphs, rest) => (.string glyphs, rest)
      | '[' :: rest =>
          match skipSpace rest with
          | ']' :: rest => some (.array [], rest)
          | rest => (readItems? steps rest).map fun (items, rest) => (.array items, rest)
      | '{' :: rest =>
          match skipSpace rest with
          | '}' :: rest => some (.object [], rest)
          | rest => (readMembers? steps rest).map fun (members, rest) => (.object members, rest)
      | rest => (Numeral.read? rest).map fun (numeral, rest) => (.number numeral, rest)

/-- The items of an array from its next one to its closing bracket. -/
def readItems? : Nat → List Char → Option (List Written × List Char)
  | 0, _ => none
  | steps + 1, text =>
      match readValue? steps text with
      | none => none
      | some (item, rest) =>
          match skipSpace rest with
          | ',' :: rest => (readItems? steps rest).map fun (items, rest) => (item :: items, rest)
          | ']' :: rest => some ([item], rest)
          | _ => none

/-- The members of an object from its next one to its closing brace. -/
def readMembers? : Nat → List Char → Option (List (List Glyph × Written) × List Char)
  | 0, _ => none
  | steps + 1, text =>
      match readKey? text with
      | none => none
      | some (key, rest) =>
          match readValue? steps rest with
          | none => none
          | some (value, rest) =>
              match skipSpace rest with
              | ',' :: rest =>
                  (readMembers? steps rest).map fun (members, rest) =>
                    ((key, value) :: members, rest)
              | '}' :: rest => some ([(key, value)], rest)
              | _ => none

end

/-- A text that is one JSON value, with space around it. Every second step at least takes a
character, which bounds the steps. -/
def read? (text : List Char) : Option Written := do
  let (written, rest) ← readValue? (2 * text.length + 2) text
  if (skipSpace rest).isEmpty then some written else none

/-- The number of arrays and objects that may enclose one another. -/
def depthLimit : Nat := 127

mutual

/-- The value that a written text stands for: no deeper than `depth`, every number finite, every
surrogate code in a pair, and of members with one key the last. -/
def value? : Nat → Written → Option Json
  | _, .null => some .null
  | _, .bool value => some (.bool value)
  | _, .number numeral => numeral.number?.map .number
  | _, .string glyphs => (Glyph.text? glyphs).map .string
  | 0, .array _ => none
  | depth + 1, .array items => (values? depth items).map .array
  | 0, .object _ => none
  | depth + 1, .object members =>
      (memberValues? depth members).map fun pairs => .object (Table.ofPairs pairs)

/-- The values of written items. -/
def values? : Nat → List Written → Option (List Json)
  | _, [] => some []
  | depth, item :: rest =>
      match value? depth item, values? depth rest with
      | some value, some values => some (value :: values)
      | _, _ => none

/-- Keys and values of written members. -/
def memberValues? : Nat → List (List Glyph × Written) → Option (List (String × Json))
  | _, [] => some []
  | depth, (glyphs, member) :: rest =>
      match Glyph.text? glyphs, value? depth member, memberValues? depth rest with
      | some key, some value, some pairs => some ((key, value) :: pairs)
      | _, _, _ => none

end

end Written

namespace Json

/-- The value of a JSON text. -/
def parse? (text : List Char) : Option Json := do
  let written ← Written.read? text
  written.value? Written.depthLimit

end Json

end Intercom
