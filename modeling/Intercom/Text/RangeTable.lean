/-!
# Range tables

Properties of characters, held as ranges of code points in ascending order with a few numbers for
each range. A table is given as a text of entries with blanks between them. An entry is a list of
numbers in base 36 with points between them: how many code points lie between the range before and
this one, how many follow the first one of this range, and then the numbers of the range.
-/

namespace Intercom.Text

/-- Code points from `first` to `last`, with the numbers that belong to them. -/
structure CodeRange where
  first : Nat
  last : Nat
  values : List Nat
deriving Inhabited

/-- Ranges in ascending order. -/
abbrev RangeTable := Array CodeRange

namespace RangeTable

/-- What has been read of the text of a table. -/
structure Reading where
  ranges : RangeTable := #[]
  /-- The code point after the range before. -/
  next : Nat := 0
  /-- The numbers of the entry, the last first. -/
  numbers : List Nat := []
  number : Nat := 0

/-- The value of a digit in base 36. -/
def digit (c : Char) : Nat :=
  if c.isDigit then c.toNat - '0'.toNat else c.toNat - 'a'.toNat + 10

/-- The reading at the end of an entry. -/
def endEntry (reading : Reading) : Reading :=
  match (reading.number :: reading.numbers).reverse with
  | gap :: more :: values =>
      let first := reading.next + gap
      let last := first + more
      { ranges := reading.ranges.push ⟨first, last, values⟩, next := last + 1 }
  | _ => { reading with numbers := [], number := 0 }

/-- The reading after one more character. -/
def readChar (reading : Reading) (c : Char) : Reading :=
  if c = ' ' || c = '\n' then endEntry reading
  else if c = '.' then
    { reading with numbers := reading.number :: reading.numbers, number := 0 }
  else { reading with number := reading.number * 36 + digit c }

/-- The table that a text gives. -/
def ofText (text : String) : RangeTable :=
  (endEntry (text.toList.foldl readChar {})).ranges

/-- The range of a code point between two places of the table. -/
def search (table : RangeTable) (n : Nat) : Nat → Nat → Nat → Option CodeRange
  | 0, _, _ => none
  | steps + 1, low, high =>
      if high ≤ low then none
      else
        let middle := (low + high) / 2
        match table[middle]? with
        | none => none
        | some range =>
            if n < range.first then search table n steps low middle
            else if range.last < n then search table n steps (middle + 1) high
            else some range

/-- The range of a character. -/
def find? (table : RangeTable) (c : Char) : Option CodeRange :=
  table.search c.toNat (table.size + 1) 0 table.size

/-- Whether a character lies in one of the ranges. -/
def contains (table : RangeTable) (c : Char) : Bool :=
  (table.find? c).isSome

/-- The first number of the range of a character, or another number if it lies in none. -/
def valueOr (table : RangeTable) (other : Nat) (c : Char) : Nat :=
  match table.find? c with
  | some range => range.values.headD other
  | none => other

/-- The first code point of the first range with the given numbers. -/
def key? (table : RangeTable) (values : List Nat) : Option Nat :=
  (Array.find? (fun range => range.values == values) table).map CodeRange.first

end RangeTable

end Intercom.Text
