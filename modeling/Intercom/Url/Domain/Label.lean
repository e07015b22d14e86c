import Intercom.Text.Direction
import Intercom.Text.Joining
import Intercom.Text.Marks
import Intercom.Text.Normal
import Intercom.Url.Domain.Mapping
import Intercom.Url.Domain.Punycode

/-!
# Labels

A label is the part of a domain name between two dots. It is shown in any characters and sent in
ASCII; a label that starts with `xn--` is given in the form in which it is sent.
-/

namespace Intercom.Url.Domain

/-- Whether a character is one of ASCII. -/
def isAscii (c : Char) : Bool :=
  c.toNat < 0x80

/-- Whether a character may stand in the host of a URL: beyond ASCII any, of ASCII no blank, no
control character and none that has a meaning in a URL. -/
def isAllowed (c : Char) : Bool :=
  !isAscii c || (0x20 < c.toNat && c.toNat < 0x7F && !("%#/:<>?@[\\]^|".toList.contains c))

namespace Label

open Text

/-! ## Joiners -/

/-- The character that keeps its neighbours from joining. -/
def nonJoiner : Char := '\u200C'

/-- The character that makes its neighbours join. -/
def joiner : Char := '\u200D'

/-- Whether the next character of a text joins in one of the ways; transparent characters do not
count. -/
def meets (ways : List Joining) (text : List Char) : Bool :=
  match text.find? fun c => joining c != .transparent with
  | some c => ways.contains (joining c)
  | none => false

/-- Whether a joiner or non-joiner may stand between the characters before it, the last of them
first, and those after it. Both may follow a virama, and a non-joiner may part two characters that
would join. -/
def joinerFits (c : Char) (before after : List Char) : Bool :=
  match before with
  | [] => false
  | previous :: _ =>
      combiningClass previous == viramaClass ||
        (c == nonJoiner && meets [.left, .both] before && meets [.right, .both] after)

/-- Whether all joiners of a text fit, when so many characters lie before it, the last first. -/
def joinersFit (before : List Char) : List Char → Bool
  | [] => true
  | c :: rest =>
      ((c != joiner && c != nonJoiner) || joinerFits c before rest) && joinersFit (c :: before) rest

/-! ## Direction -/

/-- What may stand in a label that runs from left to right. -/
def leftToRight : List Direction :=
  [.left, .europeanNumber, .europeanSeparator, .commonSeparator, .europeanTerminator, .neutral,
    .boundary, .mark]

/-- What may end a label that runs from left to right. -/
def leftToRightEnds : List Direction :=
  [.left, .europeanNumber]

/-- What may stand in a label that runs from right to left. -/
def rightToLeft : List Direction :=
  [.right, .arabicLetter, .arabicNumber, .europeanNumber, .europeanSeparator, .commonSeparator,
    .europeanTerminator, .neutral, .boundary, .mark]

/-- What may end a label that runs from right to left. -/
def rightToLeftEnds : List Direction :=
  [.right, .arabicLetter, .europeanNumber, .arabicNumber]

/-- Whether the classes of a label, the last first, are among the given ones. Marks at its end do
not count. -/
def endsWithin (inside ends : List Direction) (classes : List Direction) : Bool :=
  match classes.dropWhile (· == .mark) with
  | [] => true
  | last :: before => ends.contains last && before.all inside.contains

/-- Whether a label runs in one direction. Its first character tells in which. -/
def runsOneWay (label : List Char) : Bool :=
  match label.map direction with
  | [] => true
  | .left :: rest => endsWithin leftToRight leftToRightEnds rest.reverse
  | .right :: rest | .arabicLetter :: rest =>
      endsWithin rightToLeft rightToLeftEnds rest.reverse &&
        !(rest.contains .europeanNumber && rest.contains .arabicNumber)
  | _ => false

/-- Whether a label holds a character that runs from right to left. -/
def hasRightToLeft (label : List Char) : Bool :=
  label.any fun c => [Direction.right, .arabicLetter, .arabicNumber].contains (direction c)

/-! ## Validity -/

/-- Whether a text starts with a mark. -/
def startsWithMark : List Char → Bool
  | [] => false
  | c :: _ => isMark c

/-- Whether a label may be shown. -/
def isShowable (label : List Char) : Bool :=
  label.all isAllowed && !startsWithMark label && joinersFit [] label

/-- Whether a label is in the form to which every label is brought before it is read. -/
def isSettled (label : List Char) : Bool :=
  label.all (fun c => mapping? c == some [c]) && normalize label == label

/-- The longest label that is encoded. -/
def encodeLimit : Nat := 1000

/-- The longest encoded label that is decoded. -/
def decodeLimit : Nat := 2000

/-- What an encoded label stands for. It ends with a hyphen if it is empty or stands for ASCII
characters alone, which need no encoding. -/
def decoded? (encoded : List Char) : Option (List Char) :=
  if encoded.all isAscii && !encoded.isEmpty && encoded.getLast? != some '-' &&
      encoded.length ≤ decodeLimit then
    (Punycode.decode? encoded).filter isSettled
  else none

end Label

/-- A label of a domain name. -/
structure Label where
  /-- The characters it is shown in. -/
  shown : List Char
  /-- The characters it is sent in. -/
  sent : List Char
deriving DecidableEq

/-- The label that a text gives, which is in the form that names are brought to. -/
def Label.ofText? (text : List Char) : Option Label :=
  match text with
  | 'x' :: 'n' :: '-' :: '-' :: encoded =>
      ((Label.decoded? encoded).filter Label.isShowable).map fun shown => ⟨shown, text⟩
  | _ =>
      if !Label.isShowable text then none
      else if text.all isAscii then some ⟨text, text⟩
      else if text.length ≤ Label.encodeLimit then
        some ⟨text, "xn--".toList ++ Punycode.encode text⟩
      else none

end Intercom.Url.Domain
