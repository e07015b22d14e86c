/-!
# Punycode

How a label with characters beyond ASCII is written in ASCII. First come its ASCII characters and a
hyphen; then, for each of the others in ascending order, how many steps lead to the place at which
it goes in. One step goes to the next place of the text, and from the last place to the first one of
the next code point. The numbers are written with the least significant digit first, and a threshold
for each digit, which adapts to the numbers before, tells which digit is the last.

Results: a threshold lies between 1 and 26 (`threshold_bounds`), and reading a number leaves a
shorter text (`readNumber?_shorter`).
-/

namespace Intercom.Url.Punycode

/-! ## Insertions -/

/-- A character that goes into a text: its code point and the place at which it stands then. -/
structure Insertion where
  point : Nat
  place : Nat
deriving DecidableEq

/-- The places at which a code point goes in, when all that are smaller stand in the text. `before`
counts the characters of the text that come before the rest of the label. -/
def places (point : Nat) : Nat → List Char → List Nat
  | _, [] => []
  | before, c :: rest =>
      if c.toNat < point then places point (before + 1) rest
      else if c.toNat = point then before :: places point (before + 1) rest
      else places point before rest

/-- The code points of a label beyond ASCII, in ascending order. -/
def points (label : List Char) : List Nat :=
  (((label.map Char.toNat).filter fun point => 0x80 ≤ point).mergeSort fun a b => a ≤ b).eraseDups

/-- The insertions that lead from the ASCII characters of a label to the label. -/
def insertions (label : List Char) : List Insertion :=
  (points label).flatMap fun point => (places point 0 label).map fun place => ⟨point, place⟩

/-- How many steps lead to each insertion, from the place that `next` tells and for a text of `size`
characters. -/
def distances (next : Insertion) (size : Nat) : List Insertion → List Nat
  | [] => []
  | insertion :: rest =>
      ((insertion.point - next.point) * (size + 1) + insertion.place - next.place) ::
        distances { insertion with place := insertion.place + 1 } (size + 1) rest

/-- A text with the characters in it to which so many steps lead, if all those code points are
characters. -/
def insertAll? (next : Insertion) : List Char → List Nat → Option (List Char)
  | text, [] => some text
  | text, distance :: rest =>
      let steps := next.place + distance
      let point := next.point + steps / (text.length + 1)
      let place := steps % (text.length + 1)
      if point < 0xD800 || (0xDFFF < point && point < 0x110000) then
        insertAll? ⟨point, place + 1⟩ (text.insertIdx place (Char.ofNat point)) rest
      else none

/-- The place before all insertions. -/
def start : Insertion := ⟨0x80, 0⟩

/-! ## Numbers -/

/-- The threshold of the digit number `index`, counted from 1: the first value that is not the last
digit of a number. -/
def threshold (bias index : Nat) : Nat :=
  max 1 (min 26 (36 * index - bias))

theorem threshold_bounds (bias index : Nat) :
    1 ≤ threshold bias index ∧ threshold bias index ≤ 26 := by
  unfold threshold
  omega

/-- The bias that makes numbers of one size short. -/
def biasFor (number bias : Nat) : Nat :=
  if 455 < number then biasFor (number / 35) (bias + 36)
  else bias + 36 * number / (number + 38)
termination_by number

/-- The bias before all numbers. -/
def firstBias : Nat := 72

/-- The bias after a number that led to a text of `size` characters. The first number is expected to
be far larger than those after it. -/
def adapt (isFirst : Bool) (number size : Nat) : Nat :=
  let expected := if isFirst then number / 700 else number / 2
  biasFor (expected + expected / size) 0

/-- The digit of a value below 36: letters first, then numbers. -/
def digitChar (value : Nat) : Char :=
  if value < 26 then Char.ofNat ('a'.toNat + value) else Char.ofNat ('0'.toNat + (value - 26))

/-- The value of a digit. -/
def digitValue? (c : Char) : Option Nat :=
  if 'a' ≤ c ∧ c ≤ 'z' then some (c.toNat - 'a'.toNat)
  else if 'A' ≤ c ∧ c ≤ 'Z' then some (c.toNat - 'A'.toNat)
  else if '0' ≤ c ∧ c ≤ '9' then some (c.toNat - '0'.toNat + 26)
  else none

/-- The digits of a number, from the digit number `index` on. -/
def writeNumber (bias index number : Nat) : List Char :=
  let limit := threshold bias index
  if number < limit then [digitChar number]
  else
    digitChar (limit + (number - limit) % (36 - limit)) ::
      writeNumber bias (index + 1) ((number - limit) / (36 - limit))
termination_by number
decreasing_by
  have bounds := threshold_bounds bias index
  exact Nat.lt_of_le_of_lt (Nat.div_le_self _ _) (by omega)

/-- The text of numbers; `size` is how many characters the text has before the first of them. -/
def writeNumbers (isFirst : Bool) (bias size : Nat) : List Nat → List Char
  | [] => []
  | number :: rest =>
      writeNumber bias 1 number ++
        writeNumbers false (adapt isFirst number (size + 1)) (size + 1) rest

/-- The number that a text starts with, and the rest, from the digit number `index` on. That digit
counts `weight`, and the digits before it count `total`. Numbers and weights have 32 bits. -/
def readNumber? (bias index weight total : Nat) : List Char → Option (Nat × List Char)
  | [] => none
  | c :: rest =>
      match digitValue? c with
      | none => none
      | some value =>
          let total := total + value * weight
          let limit := threshold bias index
          let heavier := weight * (36 - limit)
          if UInt32.size ≤ total then none
          else if value < limit then some (total, rest)
          else if UInt32.size ≤ heavier then none
          else readNumber? bias (index + 1) heavier total rest

theorem readNumber?_shorter {bias index weight total : Nat} {text : List Char}
    {read : Nat × List Char} (success : readNumber? bias index weight total text = some read) :
    read.2.length < text.length := by
  induction text generalizing index weight total with
  | nil => cases success
  | cons c rest ih =>
      simp only [readNumber?] at success
      split at success
      · cases success
      · split at success
        · cases success
        · split at success
          · cases success
            exact Nat.lt_succ_self _
          · split at success
            · cases success
            · exact Nat.lt_succ_of_lt (ih success)

/-- The numbers of a text. -/
def readNumbers? (isFirst : Bool) (bias size : Nat) (text : List Char) : Option (List Nat) :=
  if text = [] then some []
  else
    match success : readNumber? bias 1 1 0 text with
    | none => none
    | some (number, rest) =>
        (readNumbers? false (adapt isFirst number (size + 1)) (size + 1) rest).map (number :: ·)
termination_by text.length
decreasing_by exact readNumber?_shorter success

/-! ## Labels -/

/-- The ASCII form of a label. -/
def encode (label : List Char) : List Char :=
  let basic := label.filter fun c => c.toNat < 0x80
  let mark := if basic.isEmpty then [] else ['-']
  basic ++ mark ++
    writeNumbers true firstBias basic.length (distances start basic.length (insertions label))

/-- The two parts of an ASCII form: what lies before the last hyphen, and what lies after it. A
hyphen with nothing before it parts nothing. -/
def parts (text : List Char) : List Char × List Char :=
  let after := text.reverse.takeWhile (· != '-')
  match (text.reverse.dropWhile (· != '-')).tail with
  | [] => ([], text)
  | before => (before.reverse, after.reverse)

/-- The label that an ASCII form stands for. -/
def decode? (text : List Char) : Option (List Char) :=
  let (basic, numbers) := parts text
  (readNumbers? true firstBias basic.length numbers).bind (insertAll? start basic)

end Intercom.Url.Punycode
