import Intercom.Text.CombiningClass
import Intercom.Text.Composites

/-!
# Composed text

The normal form of a text in which canonically equal texts are the same: every character is taken
apart (`decompose`), the marks of a group are put in the order of their classes (`order`), and
what can stand as one character is put together again (`compose`).
-/

namespace Intercom.Text

/-! ## Hangul syllables -/

namespace Hangul

/-- The code point of the first syllable. -/
def firstSyllable : Nat := 0xAC00

/-- The code point of the first leading consonant. -/
def firstLead : Nat := 0x1100

/-- The code point of the first vowel. -/
def firstVowel : Nat := 0x1161

/-- The code point before the first trailing consonant; a syllable without one counts as 0. -/
def beforeTrail : Nat := 0x11A7

/-- How many leading consonants there are. -/
def leads : Nat := 19

/-- How many vowels there are. -/
def vowels : Nat := 21

/-- How many ends a syllable can have, none among them. -/
def trails : Nat := 28

/-- The letters of a syllable. -/
def decompose? (c : Char) : Option (List Char) :=
  let n := c.toNat - firstSyllable
  if firstSyllable ≤ c.toNat && n < leads * vowels * trails then
    let lead := Char.ofNat (firstLead + n / (vowels * trails))
    let vowel := Char.ofNat (firstVowel + n % (vowels * trails) / trails)
    if n % trails = 0 then some [lead, vowel]
    else some [lead, vowel, Char.ofNat (beforeTrail + n % trails)]
  else none

/-- The syllable that two parts make up: a lead and a vowel, or a syllable without a trail and a
trail. -/
def compose? (first second : Char) : Option Char :=
  let lead := first.toNat - firstLead
  let vowel := second.toNat - firstVowel
  let syllable := first.toNat - firstSyllable
  let trail := second.toNat - beforeTrail
  if firstLead ≤ first.toNat && lead < leads && firstVowel ≤ second.toNat && vowel < vowels then
    some (Char.ofNat (firstSyllable + (lead * vowels + vowel) * trails))
  else if firstSyllable ≤ first.toNat && syllable < leads * vowels * trails &&
      syllable % trails = 0 && beforeTrail < second.toNat && trail < trails then
    some (Char.ofNat (first.toNat + trail))
  else none

end Hangul

/-! ## Taking apart -/

/-- The characters that one character is canonically the same as. A composite has at most three
composites within one another. -/
def decomposeChar : Nat → Char → List Char
  | 0, c => [c]
  | depth + 1, c =>
      match Hangul.decompose? c with
      | some letters => letters
      | none =>
          match composites.find? c with
          | some ⟨_, _, [first, second]⟩ =>
              decomposeChar depth (Char.ofNat first) ++ [Char.ofNat second]
          | _ => [c]

/-- A text with every character taken apart. -/
def decompose (text : List Char) : List Char :=
  text.flatMap (decomposeChar 4)

/-! ## Order of marks -/

/-- A text with one more character before it, moved behind the marks of lower classes. -/
def place (c : Char) : List Char → List Char
  | [] => [c]
  | d :: rest =>
      if combiningClass d != 0 && combiningClass d < combiningClass c then d :: place c rest
      else c :: d :: rest

/-- A text with the marks of each group in the order of their classes. -/
def order : List Char → List Char
  | [] => []
  | c :: rest => place c (order rest)

/-! ## Putting together -/

/-- The character that two characters make up. -/
def composite? (first second : Char) : Option Char :=
  match Hangul.compose? first second with
  | some syllable => some syllable
  | none => (composites.key? [first.toNat, second.toNat]).map Char.ofNat

/-- The text after `starter`, with what can be put into it put into it. `kept` are the marks since
then, the last first; a mark is shut off from the starter by one of its own class or of a higher
one. -/
def composeAfter (starter : Char) (kept : List Char) : List Char → List Char
  | [] => starter :: kept.reverse
  | c :: rest =>
      let shutOff := match kept with
        | [] => false
        | mark :: _ => combiningClass c ≤ combiningClass mark
      match if shutOff then none else composite? starter c with
      | some composed => composeAfter composed kept rest
      | none =>
          if combiningClass c = 0 then starter :: (kept.reverse ++ composeAfter c [] rest)
          else composeAfter starter (c :: kept) rest

/-- A text with everything put together that can stand as one character. -/
def compose : List Char → List Char
  | [] => []
  | c :: rest => if combiningClass c = 0 then composeAfter c [] rest else c :: compose rest

/-- The composed normal form of a text. -/
def normalize (text : List Char) : List Char :=
  compose (order (decompose text))

end Intercom.Text
