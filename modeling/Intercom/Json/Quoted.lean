import Intercom.Text.Digit

/-!
# Quoted strings

The written form of a JSON string. Reading is in two steps: `Glyph.read?` cuts a string into
glyphs, which are characters and `\u` codes, and `Glyph.chars?` joins the codes to characters. The
first step alone decides whether a string that nobody looks at is well formed; a lone surrogate code
is only found by the second.
-/

namespace Intercom

/-- One element of a quoted string: a character, plain or with a short escape, or a 16-bit code
written as `\u` and four hexadecimal digits. -/
inductive Glyph where
  | char (c : Char)
  | code (unit : Nat)
deriving DecidableEq

namespace Glyph

/-- The code that four hexadecimal digits denote. -/
def codeOf? (a b c d : Char) : Option Nat := do
  let a ← Text.digitValue? a
  let b ← Text.digitValue? b
  let c ← Text.digitValue? c
  let d ← Text.digitValue? d
  some (((a * 16 + b) * 16 + c) * 16 + d)

/-- The character of a one-letter escape. -/
def shortEscape? : Char → Option Char
  | '"' => some '"'
  | '\\' => some '\\'
  | '/' => some '/'
  | 'b' => some '\x08'
  | 'f' => some '\x0c'
  | 'n' => some '\n'
  | 'r' => some '\r'
  | 't' => some '\t'
  | _ => none

/-- The glyphs of a string up to its closing quote, and the text after it; the opening quote has
been read. Control characters must be escaped. -/
def read? : List Char → Option (List Glyph × List Char)
  | [] => none
  | '"' :: rest => some ([], rest)
  | '\\' :: 'u' :: a :: b :: c :: d :: rest => do
      let unit ← codeOf? a b c d
      let (glyphs, after) ← read? rest
      some (.code unit :: glyphs, after)
  | '\\' :: letter :: rest => do
      let c ← shortEscape? letter
      let (glyphs, after) ← read? rest
      some (.char c :: glyphs, after)
  | c :: rest =>
      if c.toNat < 0x20 || c = '\\' then none
      else do
        let (glyphs, after) ← read? rest
        some (.char c :: glyphs, after)

/-- Whether a code is the first half of a surrogate pair. -/
def isHighSurrogate (unit : Nat) : Bool :=
  0xD800 ≤ unit && unit ≤ 0xDBFF

/-- Whether a code is the second half of a surrogate pair. -/
def isLowSurrogate (unit : Nat) : Bool :=
  0xDC00 ≤ unit && unit ≤ 0xDFFF

/-- The character of a surrogate pair. -/
def pairChar (high low : Nat) : Char :=
  Char.ofNat (0x10000 + (high - 0xD800) * 0x400 + (low - 0xDC00))

/-- The characters that glyphs stand for. The two codes of a surrogate pair stand for one
character; half a pair stands for none. -/
def chars? : List Glyph → Option (List Char)
  | [] => some []
  | .char c :: rest => (chars? rest).map (c :: ·)
  | .code high :: .code low :: rest =>
      if isHighSurrogate high then
        if isLowSurrogate low then (chars? rest).map (pairChar high low :: ·) else none
      else if isLowSurrogate high then none
      else (chars? (.code low :: rest)).map (Char.ofNat high :: ·)
  | .code unit :: rest =>
      if isHighSurrogate unit || isLowSurrogate unit then none
      else (chars? rest).map (Char.ofNat unit :: ·)

/-- The text that glyphs stand for. -/
def text? (glyphs : List Glyph) : Option String :=
  (chars? glyphs).map String.ofList

end Glyph

namespace Quoted

/-- How one character is written: quote, backslash and control characters are escaped. -/
def encodeChar (c : Char) : List Char :=
  if c = '"' then ['\\', '"']
  else if c = '\\' then ['\\', '\\']
  else if c = '\x08' then ['\\', 'b']
  else if c = '\x0c' then ['\\', 'f']
  else if c = '\n' then ['\\', 'n']
  else if c = '\r' then ['\\', 'r']
  else if c = '\t' then ['\\', 't']
  else if c.toNat < 0x20 then
    ['\\', 'u', '0', '0', Text.lowerDigit (c.toNat / 16), Text.lowerDigit (c.toNat % 16)]
  else [c]

/-- A text in quotes. -/
def encode (text : List Char) : List Char :=
  '"' :: (text.flatMap encodeChar ++ ['"'])

end Quoted

end Intercom
