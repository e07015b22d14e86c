import Intercom.Text.Digit
import Intercom.Url.Fault

/-!
# Hosts

A host is a domain name, an IPv4 address or an IPv6 address. Addresses are read in every spelling
that the URL standard allows and written in one: IPv4 in dotted decimal, IPv6 in lower-case
hexadecimal with the first longest run of two or more zeros left out.
-/

namespace Intercom.Url

/-- The host of a URL. -/
inductive Host where
  | domain (name : String)
  | ipv4 (address : UInt32)
  | ipv6 (pieces : List UInt16)
deriving DecidableEq, Inhabited

namespace Ipv4

/-- A text cut at every dot. -/
def labels (text : List Char) : List (List Char) :=
  text.splitOn '.'

/-- The base of a number and its digits: `0x` marks hexadecimal, another leading `0` octal. -/
def radixOf (text : List Char) : Nat × List Char :=
  match text with
  | '0' :: 'x' :: rest => (16, rest)
  | '0' :: 'X' :: rest => (16, rest)
  | '0' :: c :: rest => (8, c :: rest)
  | _ => (10, text)

/-- A number of an address; `0x` alone is zero. -/
def number? (text : List Char) : Option Nat :=
  if text.isEmpty then none
  else
    let (radix, digits) := radixOf text
    if digits.all (Text.isDigitOf radix) then some (Text.numberOf radix digits) else none

/-- Whether the last label of a name makes it an address: digits alone, or any number. -/
def endsInNumber (text : List Char) : Bool :=
  let last := match (labels text).reverse with
    | [] :: before :: _ => some before
    | [] :: [] => none
    | last :: _ => some last
    | [] => none
  match last with
  | none => false
  | some label => (!label.isEmpty && label.all Char.isDigit) || (number? label).isSome

/-- The address that numbers denote: each but the last is one byte, the last fills the rest. -/
def ofNumbers? (numbers : List Nat) : Option UInt32 :=
  match numbers.reverse with
  | [] => none
  | last :: leading =>
      if 4 < numbers.length then none
      else if Nat.pow 256 (4 - leading.length) ≤ last then none
      else if leading.any fun n => 255 < n then none
      else
        let high := leading.reverse.foldl (fun total n => total * 256 + n) 0
        some (UInt32.ofNat (high * Nat.pow 256 (4 - leading.length) + last))

/-- An address in one to four numbers, with a dot at the end or none. -/
def parse? (text : List Char) : Option UInt32 :=
  let parts := match (labels text).reverse with
    | [] :: rest => rest.reverse
    | parts => parts.reverse
  if 4 < parts.length then none
  else (parts.mapM number?).bind ofNumbers?

/-- An address in dotted decimal. -/
def text (address : UInt32) : String :=
  let n := address.toNat
  String.intercalate "."
    [toString (n / Nat.pow 256 3), toString (n / Nat.pow 256 2 % 256), toString (n / 256 % 256),
      toString (n % 256)]

end Ipv4

namespace Ipv6

/-- The value of up to four hexadecimal digits at the start of a text, how many they are, and the
rest. -/
def hexRun : Nat → Nat → Nat → List Char → Nat × Nat × List Char
  | 0, value, count, text => (value, count, text)
  | _ + 1, value, count, [] => (value, count, [])
  | left + 1, value, count, c :: rest =>
      match Text.digitValue? c with
      | some digit => hexRun left (value * 16 + digit) (count + 1) rest
      | none => (value, count, c :: rest)

/-- A decimal byte without leading zeros, and the rest. -/
def decimalByte? (text : List Char) : Option (Nat × List Char) :=
  let digits := text.takeWhile Char.isDigit
  let rest := text.dropWhile Char.isDigit
  let value := Text.numberOf 10 digits
  match digits with
  | [] => none
  | ['0'] => some (0, rest)
  | '0' :: _ => none
  | _ => if 255 < value then none else some (value, rest)

/-- The two pieces of an address in dotted decimal, which ends the text. -/
def dotted? (text : List Char) : Option (List Nat) := do
  let (a, rest) ← decimalByte? text
  let '.' :: rest := rest | none
  let (b, rest) ← decimalByte? rest
  let '.' :: rest := rest | none
  let (c, rest) ← decimalByte? rest
  let '.' :: rest := rest | none
  let (d, rest) ← decimalByte? rest
  if rest.isEmpty then some [a * 256 + b, c * 256 + d] else none

/-- Pieces read so far, and those of them that stand before the gap, once there is one. -/
structure Reading where
  pieces : List Nat := []
  beforeGap : Option Nat := none

/-- The pieces of an address from a point where a piece or a gap may stand. -/
def readPieces? : Nat → Reading → List Char → Option Reading
  | 0, _, _ => none
  | _ + 1, reading, [] => some reading
  | steps + 1, reading, ':' :: rest =>
      if reading.pieces.length = 8 || reading.beforeGap.isSome then none
      else readPieces? steps { reading with beforeGap := some reading.pieces.length } rest
  | steps + 1, reading, text =>
      if reading.pieces.length = 8 then none
      else
        let (value, count, rest) := hexRun 4 0 0 text
        match rest with
        | '.' :: _ =>
            if count = 0 || 6 < reading.pieces.length then none
            else (dotted? text).map fun tail => { reading with pieces := reading.pieces ++ tail }
        | [] =>
            if count = 0 then none
            else some { reading with pieces := reading.pieces ++ [value] }
        | ':' :: [] => none
        | ':' :: rest =>
            if count = 0 then none
            else readPieces? steps { reading with pieces := reading.pieces ++ [value] } rest
        | _ => none

/-- Eight pieces; a gap stands for as many zeros as are missing. -/
def fill? (reading : Reading) : Option (List Nat) :=
  match reading.beforeGap with
  | none => if reading.pieces.length = 8 then some reading.pieces else none
  | some before =>
      if 8 ≤ reading.pieces.length && before < reading.pieces.length then none
      else
        let zeros := List.replicate (8 - reading.pieces.length) 0
        some (reading.pieces.take before ++ zeros ++ reading.pieces.drop before)

/-- An address without its brackets. -/
def parse? (text : List Char) : Option (List UInt16) := do
  let start ← match text with
    | ':' :: ':' :: rest => some (({ beforeGap := some 0 } : Reading), rest)
    | ':' :: _ => none
    | text => some (({} : Reading), text)
  let reading ← readPieces? (text.length + 1) start.1 start.2
  let pieces ← fill? reading
  some (pieces.map UInt16.ofNat)

/-- The digits of a piece. -/
def pieceText (piece : UInt16) : List Char :=
  Nat.toDigits 16 piece.toNat

/-- How many zeros a list of pieces starts with. -/
def zeroRun (pieces : List UInt16) : Nat :=
  (pieces.takeWhile (· == 0)).length

/-- The start and the length of the first longest run of zeros. -/
def longestZeros (pieces : List UInt16) : Nat × Nat :=
  (List.range pieces.length).foldl
    (fun best start =>
      let run := zeroRun (pieces.drop start)
      if best.2 < run then (start, run) else best)
    (0, 0)

/-- Pieces with colons between them. -/
def colonText (pieces : List UInt16) : List Char :=
  List.intercalate [':'] (pieces.map pieceText)

/-- An address in brackets. -/
def text (pieces : List UInt16) : String :=
  let (start, run) := longestZeros pieces
  let inner :=
    if run < 2 then colonText pieces
    else colonText (pieces.take start) ++ [':', ':'] ++ colonText (pieces.drop (start + run))
  String.ofList ('[' :: (inner ++ [']']))

end Ipv6

/-- The text of a host. -/
def Host.text : Host → String
  | .domain name => name
  | .ipv4 address => Ipv4.text address
  | .ipv6 pieces => Ipv6.text pieces

end Intercom.Url
