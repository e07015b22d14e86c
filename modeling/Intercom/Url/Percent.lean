import Intercom.Text.Digit
import Intercom.Text.Utf8

/-!
# Percent encoding

A character that may not stand in some part of a URL is written as the bytes of its UTF-8 form,
each as `%` and two hexadecimal digits. Which characters may stand is told by a predicate for each
part. Form encoding, which query pairs use, writes a space as `+`.

Results: a byte is written with `%`, letters and numbers alone (`byte_allowed`).
-/

namespace Intercom.Url.Percent

/-- A byte as `%` and two digits. -/
def byte (b : UInt8) : List Char :=
  ['%', Text.upperDigit (b.toNat / 16), Text.upperDigit (b.toNat % 16)]

/-- One character, as it is if it may stand. -/
def encodeChar (stands : Char → Bool) (c : Char) : List Char :=
  if stands c then [c] else (String.utf8EncodeChar c).flatMap byte

/-- A text with every character encoded that may not stand. -/
def encode (stands : Char → Bool) (text : List Char) : List Char :=
  text.flatMap (encodeChar stands)

/-- The printable ASCII characters. -/
def isPrintable (c : Char) : Bool :=
  0x20 ≤ c.toNat && c.toNat ≤ 0x7E

/-- The characters that stand in a path without structure. -/
def inRootlessPath (c : Char) : Bool :=
  isPrintable c

/-- The characters that stand in a fragment. -/
def inFragment (c : Char) : Bool :=
  isPrintable c && !(" \"<>\x60".toList.contains c)

/-- The characters that stand in a segment of a path. -/
def inPath (c : Char) : Bool :=
  inFragment c && !("#?\x7b\x7d".toList.contains c)

/-- The characters that stand in a user name or a password. -/
def inUserInfo (c : Char) : Bool :=
  inPath c && !("/:;=@[\\]^|".toList.contains c)

/-- The characters that stand in a query. -/
def inQuery (c : Char) : Bool :=
  isPrintable c && !(" \"#<>".toList.contains c)

/-- The characters that stand in the query of a web scheme. -/
def inSpecialQuery (c : Char) : Bool :=
  inQuery c && c != '\''

/-- The characters that stand in a pair of a form. -/
def inForm (c : Char) : Bool :=
  c.isAlphanum || "*-._".toList.contains c

/-- A text in a form: a space is a plus sign. -/
def encodeForm (text : List Char) : List Char :=
  text.flatMap fun c => if c = ' ' then ['+'] else encodeChar inForm c

/-- The bytes that encoded bytes stand for; a `%` without two digits stands for itself. -/
def decodeBytes : List UInt8 → List UInt8
  | 0x25 :: high :: low :: rest =>
      match Text.digitValue? (Char.ofUInt8 high), Text.digitValue? (Char.ofUInt8 low) with
      | some a, some b => UInt8.ofNat (a * 16 + b) :: decodeBytes rest
      | _, _ => 0x25 :: decodeBytes (high :: low :: rest)
  | b :: rest => b :: decodeBytes rest
  | [] => []

/-- The text that UTF-8 bytes stand for. -/
def textOfBytes? (bytes : List UInt8) : Option (List Char) :=
  (String.fromUTF8? ⟨bytes.toArray⟩).map String.toList

/-- The text that an encoded text stands for, if its bytes are UTF-8. -/
def decode? (text : List Char) : Option (List Char) :=
  textOfBytes? (decodeBytes (text.flatMap String.utf8EncodeChar))

/-- The text that a name or a value of a form stands for: a plus sign is a space, and bytes that are
not UTF-8 are replaced. -/
def decodeForm (text : List Char) : List Char :=
  let spaced := text.map fun c => if c = '+' then ' ' else c
  Text.Utf8.decode (decodeBytes (spaced.flatMap String.utf8EncodeChar))

theorem byte_allowed {b : UInt8} {c : Char} (member : c ∈ byte b) :
    c = '%' ∨ c.isAlphanum = true := by
  have bound := b.toNat_lt
  simp only [byte, List.mem_cons, List.not_mem_nil, or_false] at member
  rcases member with rfl | rfl | rfl
  · exact .inl rfl
  · exact .inr (Text.upperDigit_isAlphanum (by omega))
  · exact .inr (Text.upperDigit_isAlphanum (by omega))

end Intercom.Url.Percent
