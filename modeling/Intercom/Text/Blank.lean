/-!
# Blank text

The characters with the Unicode property `White_Space`, and texts made of nothing else. A frame
or a host of blank characters alone counts as empty.
-/

namespace Intercom.Text

/-- The code points with the property `White_Space`. -/
def isBlank (c : Char) : Bool :=
  let n := c.toNat
  (9 ≤ n && n ≤ 13) || n == 0x20 || n == 0x85 || n == 0xA0 || n == 0x1680 ||
    (0x2000 ≤ n && n ≤ 0x200A) || n == 0x2028 || n == 0x2029 || n == 0x202F || n == 0x205F ||
    n == 0x3000

/-- Whether a text is made of blank characters only, as the empty text is. -/
def allBlank (text : List Char) : Bool :=
  text.all isBlank

end Intercom.Text
