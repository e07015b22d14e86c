/-!
# UTF-8 that may be broken

`Utf8.decode` reads bytes as UTF-8, whatever they are. A character of several bytes that breaks off,
or that could not be continued to a character, is replaced by U+FFFD, and the byte at which that
shows is read anew.

Results: the bytes of a text read as the text (`decode_encoded`).
-/

namespace Intercom.Text.Utf8

/-- What broken bytes are replaced by. -/
def replacement : Char := '\uFFFD'

/-- A character of which some bytes are there: the value of these, how many are missing, and the
range of the next one. -/
structure Begun where
  value : Nat
  missing : Nat
  low : Nat := 0x80
  high : Nat := 0xBF

/-- A byte between characters. The range of the next one leaves out what would be a longer form of
a character, half of a pair or too large a value. -/
def first (byte : Nat) : List Char × Option Begun :=
  if byte ≤ 0x7F then ([Char.ofNat byte], none)
  else if 0xC2 ≤ byte ∧ byte ≤ 0xDF then ([], some { value := byte - 0xC0, missing := 1 })
  else if 0xE0 ≤ byte ∧ byte ≤ 0xEF then
    ([], some
      { value := byte - 0xE0
        missing := 2
        low := if byte = 0xE0 then 0xA0 else 0x80
        high := if byte = 0xED then 0x9F else 0xBF })
  else if 0xF0 ≤ byte ∧ byte ≤ 0xF4 then
    ([], some
      { value := byte - 0xF0
        missing := 3
        low := if byte = 0xF0 then 0x90 else 0x80
        high := if byte = 0xF4 then 0x8F else 0xBF })
  else ([replacement], none)

/-- A further byte of a character. -/
def Begun.next (begun : Begun) (byte : Nat) : List Char × Option Begun :=
  if begun.low ≤ byte ∧ byte ≤ begun.high then
    let value := begun.value * 64 + (byte - 0x80)
    if begun.missing ≤ 1 then ([Char.ofNat value], none)
    else ([], some { value, missing := begun.missing - 1 })
  else
    let (text, state) := first byte
    (replacement :: text, state)

/-- The text of bytes that may stand in the middle of a character. -/
def decodeFrom : Option Begun → List UInt8 → List Char
  | none, [] => []
  | some _, [] => [replacement]
  | none, byte :: rest =>
      let (text, state) := first byte.toNat
      text ++ decodeFrom state rest
  | some begun, byte :: rest =>
      let (text, state) := begun.next byte.toNat
      text ++ decodeFrom state rest

/-- The text of bytes. -/
def decode (bytes : List UInt8) : List Char :=
  decodeFrom none bytes

variable {byte value missing low high : Nat} {begun : Begun} {rest : List UInt8}

theorem toNat_ofNat (small : byte < 0x100) : (UInt8.ofNat byte).toNat = byte :=
  Nat.mod_eq_of_lt small

/-- The first byte of a character of several bytes. -/
theorem decodeFrom_first (small : byte < 0x100) (opens : first byte = ([], some begun)) :
    decodeFrom none (UInt8.ofNat byte :: rest) = decodeFrom (some begun) rest := by
  rw [decodeFrom, toNat_ofNat small, opens]
  rfl

/-- A byte in the middle of a character. -/
theorem decodeFrom_next (fits : low ≤ byte ∧ byte ≤ high) (small : byte < 0x100)
    (more : 1 < missing) :
    decodeFrom (some ⟨value, missing, low, high⟩) (UInt8.ofNat byte :: rest) =
      decodeFrom (some { value := value * 64 + (byte - 0x80), missing := missing - 1 }) rest := by
  rw [decodeFrom, toNat_ofNat small, Begun.next, if_pos fits, if_neg (Nat.not_le_of_lt more)]
  rfl

/-- The last byte of a character. -/
theorem decodeFrom_last (fits : low ≤ byte ∧ byte ≤ high) (small : byte < 0x100) :
    decodeFrom (some ⟨value, 1, low, high⟩) (UInt8.ofNat byte :: rest) =
      Char.ofNat (value * 64 + (byte - 0x80)) :: decodeFrom none rest := by
  rw [decodeFrom, toNat_ofNat small, Begun.next, if_pos fits, if_pos (Nat.le_refl 1)]
  rfl

theorem first_two {n : Nat} (large : 2 ≤ n) (small : n < 0x20) :
    first (n + 0xC0) = ([], some { value := n, missing := 1 }) := by
  rw [first, if_neg (by omega), if_pos (by omega), Nat.add_sub_cancel]

theorem first_three {n : Nat} (small : n < 0x10) :
    first (n + 0xE0) = ([], some
      { value := n
        missing := 2
        low := if n = 0 then 0xA0 else 0x80
        high := if n = 0xD then 0x9F else 0xBF }) := by
  have least : n + 0xE0 = 0xE0 ↔ n = 0 := by omega
  have pairs : n + 0xE0 = 0xED ↔ n = 0xD := by omega
  rw [first, if_neg (by omega), if_neg (by omega), if_pos (by omega), Nat.add_sub_cancel]
  simp only [least, pairs]

theorem first_four {n : Nat} (small : n ≤ 4) :
    first (n + 0xF0) = ([], some
      { value := n
        missing := 3
        low := if n = 0 then 0x90 else 0x80
        high := if n = 4 then 0x8F else 0xBF }) := by
  have least : n + 0xF0 = 0xF0 ↔ n = 0 := by omega
  have greatest : n + 0xF0 = 0xF4 ↔ n = 4 := by omega
  rw [first, if_neg (by omega), if_neg (by omega), if_neg (by omega), if_pos (by omega),
    Nat.add_sub_cancel]
  simp only [least, greatest]

/-- The bytes of a character read as the character: they are the digits of its value to the
base 64. -/
theorem decodeFrom_encoded (c : Char) (rest : List UInt8) :
    decodeFrom none (String.utf8EncodeChar c ++ rest) = c :: decodeFrom none rest := by
  have valid : c.val.toNat < 0xD800 ∨ 0xDFFF < c.val.toNat ∧ c.val.toNat < 0x110000 := c.valid
  have same : Char.ofNat c.val.toNat = c := c.ofNat_toNat
  unfold String.utf8EncodeChar
  generalize c.val.toNat = v at valid same
  dsimp only
  split
  · next one =>
      rw [List.singleton_append, decodeFrom, toNat_ofNat (by omega), first, if_pos one, same]
      rfl
  · split
    · have sum : v / 64 % 0x20 * 64 + (v % 64 + 0x80 - 0x80) = v := by omega
      rw [List.cons_append, decodeFrom_first (by omega) (first_two (by omega) (by omega)),
        List.singleton_append, decodeFrom_last (by omega) (by omega), sum, same]
    · split
      · have sum : (v / 4096 % 0x10 * 64 + (v / 64 % 64 + 0x80 - 0x80)) * 64 +
            (v % 64 + 0x80 - 0x80) = v := by
          omega
        rw [List.cons_append, decodeFrom_first (by omega) (first_three (by omega)),
          List.cons_append,
          decodeFrom_next (by constructor <;> split <;> omega) (by omega) (by omega),
          List.singleton_append, decodeFrom_last (by omega) (by omega), sum, same]
      · have sum : ((v / 262144 % 8 * 64 + (v / 4096 % 64 + 0x80 - 0x80)) * 64 +
            (v / 64 % 64 + 0x80 - 0x80)) * 64 + (v % 64 + 0x80 - 0x80) = v := by
          omega
        rw [List.cons_append, decodeFrom_first (by omega) (first_four (by omega)),
          List.cons_append,
          decodeFrom_next (by constructor <;> split <;> omega) (by omega) (by omega),
          List.cons_append, decodeFrom_next (by omega) (by omega) (by omega),
          List.singleton_append, decodeFrom_last (by omega) (by omega), sum, same]

/-- The bytes of a text read as the text. -/
theorem decode_encoded (text : List Char) : decode (text.flatMap String.utf8EncodeChar) = text := by
  induction text with
  | nil => rfl
  | cons c rest ih =>
      rw [List.flatMap_cons, decode, decodeFrom_encoded]
      exact congrArg (c :: ·) ih

/-- The euro sign without its last byte. -/
example : decode [0xE2, 0x82, 0x41] = [replacement, 'A'] := by decide

end Intercom.Text.Utf8
