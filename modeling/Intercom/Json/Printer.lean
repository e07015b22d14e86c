import Intercom.Json.Numeral
import Intercom.Json.Quoted
import Intercom.Json.Value

/-!
# Printed JSON

The compact text of a value: no space, members in the order of their keys, and only quotes,
backslashes and control characters escaped.
-/

namespace Intercom

namespace Json

mutual

/-- The compact text of a value. -/
def print : Json → List Char
  | .null => ['n', 'u', 'l', 'l']
  | .bool true => ['t', 'r', 'u', 'e']
  | .bool false => ['f', 'a', 'l', 's', 'e']
  | .number value => value.text
  | .string value => Quoted.encode value.toList
  | .array items => '[' :: (printItems items ++ [']'])
  | .object members => '{' :: (printMembers members ++ ['}'])

/-- Items with commas between them. -/
def printItems : List Json → List Char
  | [] => []
  | [item] => print item
  | item :: rest => print item ++ ',' :: printItems rest

/-- Members with commas between them. -/
def printMembers : List (String × Json) → List Char
  | [] => []
  | [(key, value)] => Quoted.encode key.toList ++ ':' :: print value
  | (key, value) :: rest =>
      Quoted.encode key.toList ++ ':' :: (print value ++ ',' :: printMembers rest)

end

/-- The compact text of a value as a string. -/
def text (value : Json) : String :=
  String.ofList value.print

end Json

end Intercom
