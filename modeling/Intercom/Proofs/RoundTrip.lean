import Mathlib
import Intercom.Proofs.Fields
import Intercom.Request

/-!
# What is written is read back

The compact text of a value is read as that value, and so a device that reads a request finds in it
what the client has put there. `Json.Plain` says which values come back as they are: their numbers
are integers, since a real may come back as its neighbour, and they nest no deeper than a reader
goes.

Results:
1. `Numeral.whole_integer`, `Glyph.read?_encode`: integers and strings are read back.
2. `Json.Plain.printed`: so is every plain value, wherever its text stands.
3. `read_back`: a request is read as a response with its identifier, its event and its data, and
   two requests with one text are the same.
-/

namespace Intercom

/-! ## Definitions -/

/-- `Plain depth value`: every number is an integer, every object a table, and arrays and objects
nest at most `depth` levels deep. -/
inductive Json.Plain : Nat → Json → Prop where
  | null {depth : Nat} : Plain depth .null
  | bool {depth : Nat} (value : Bool) : Plain depth (.bool value)
  | integer {depth : Nat} (value : Int) (kept : Number.Kept value) :
      Plain depth (.number (.integer value kept))
  | string {depth : Nat} (value : String) : Plain depth (.string value)
  | array {depth : Nat} {items : List Json} :
      (∀ item ∈ items, Plain depth item) → Plain (depth + 1) (.array items)
  | object {depth : Nat} {members : List (String × Json)} : Table.Ordered members →
      (∀ member ∈ members, Plain depth member.2) → Plain (depth + 1) (.object members)

/-- What a request says of the data that it is made with: `null` and the empty object are as good
as no data. -/
def Request.effective (data : Option Json) : Option Json :=
  if data ∈ [none, some .null, some (.object [])] then none else data

/-- The members of a request, in the order in which they are written. -/
def Request.members (request : Request) : List (String × Json) :=
  [("id", .number (.ofUInt64 request.id.value)), ("event", .string request.event)] ++
    request.data.toList.map fun value => ("data", value)

/-- The glyph as which a character is written: a control character without an escape of its own is
written as its code. -/
def Glyph.written (c : Char) : Glyph :=
  if c.toNat < 0x20 ∧ c ∉ ['\x08', '\x0c', '\n', '\r', '\t'] then .code c.toNat else .char c

/-- The numeral as which an integer is written. -/
def Numeral.written (value : Int) : Numeral :=
  ⟨decide (value < 0), Number.naturalText value.natAbs, none, none⟩

/-- `Printed depth value`: the text of the value is taken for it, wherever it stands, and by readers
of that depth. It starts with neither space nor a closing bracket. -/
structure Json.Printed (depth : Nat) (value : Json) : Prop where
  starts : ∃ c tail, value.print = c :: tail ∧ Written.isSpace c = false ∧ c ≠ ']'
  read : ∃ written, Written.Whole value.print written ∧ written.value? depth = some value

/-! ## Integers -/

namespace Numeral

theorem le_ofDigitChars (digits : List Char) (n : Nat) : n ≤ Nat.ofDigitChars 10 digits n := by
  induction digits generalizing n with
  | nil => exact Nat.le_refl n
  | cons c digits ih =>
      rw [Nat.ofDigitChars_cons]
      exact Nat.le_trans (by omega) (ih _)

/-- Digits whose number fits are all taken into the significand. -/
theorem absorb_eq {digits : List Char} {n : Nat}
    (fits : Nat.ofDigitChars 10 digits n < UInt64.size) :
    absorb n digits = (Nat.ofDigitChars 10 digits n, []) := by
  induction digits generalizing n with
  | nil => rfl
  | cons c digits ih =>
      rw [Nat.ofDigitChars_cons] at fits ⊢
      have next : n * 10 + digit c = 10 * n + (c.toNat - '0'.toNat) := by
        rw [Nat.mul_comm]
        rfl
      simp only [absorb, next]
      rw [if_pos (Nat.lt_of_le_of_lt (le_ofDigitChars digits _) fits)]
      exact ih fits

/-- Only zero is written with a zero in front. -/
theorem head?_naturalText {n : Nat} (pos : 0 < n) :
    (Number.naturalText n).head? ≠ some '0' := by
  unfold Number.naturalText
  induction n using Nat.strong_induction_on with
  | _ n ih =>
      by_cases small : n < 10
      · rw [Nat.toDigits_of_lt_base small]
        interval_cases n <;> decide
      · rw [Nat.toDigits_of_base_le (by decide) (Nat.le_of_not_lt small),
          List.head?_append_of_ne_nil _ Nat.toDigits_ne_nil]
        exact ih (n / 10) (by omega) (by omega)

theorem isDigit_naturalText {n : Nat} : ∀ c ∈ Number.naturalText n, c.isDigit = true :=
  fun _ => Nat.isDigit_of_mem_toDigits (by decide) (by decide)

theorem readWhole?_naturalText (n : Nat) :
    Takes readWhole? Text.EndsDigits (Number.naturalText n) (Number.naturalText n) := by
  intro rest ends
  unfold readWhole?
  rw [digits_takes isDigit_naturalText ends]
  split
  · next empty => exact absurd (Prod.mk.inj empty).1 Nat.toDigits_ne_nil
  · next zero =>
      -- more than one digit, of which the first is zero
      have starts := congrArg List.head? (Prod.mk.inj zero).1
      have long := congrArg List.length (Prod.mk.inj zero).1
      rcases Nat.eq_zero_or_pos n with rfl | pos
      · simp [Number.naturalText] at long
      · exact absurd starts (head?_naturalText pos)
  · rfl

theorem readMagnitude?_naturalText (negative : Bool) (n : Nat) :
    Takes (readMagnitude? negative) Ends (Number.naturalText n)
      ⟨negative, Number.naturalText n, none, none⟩ := by
  intro rest ends
  have fraction : readFraction? rest = some (none, rest) := by
    unfold readFraction?
    split
    · exact absurd rfl ends.point
    · rfl
  have exponent : readExponent? rest = some (none, rest) := by
    unfold readExponent?
    split
    · exact absurd rfl ends.lower
    · exact absurd rfl ends.upper
    · rfl
  simp only [readMagnitude?, readWhole?_naturalText n rest ends.digits, Option.bind_eq_bind,
    Option.bind_some, fraction, exponent]

/-- A natural is written with a digit in front. -/
theorem naturalText_cons (n : Nat) :
    ∃ c tail, Number.naturalText n = c :: tail ∧ c.isDigit = true := by
  cases digits : Number.naturalText n with
  | nil => exact absurd digits Nat.toDigits_ne_nil
  | cons c tail =>
      exact ⟨c, tail, rfl, isDigit_naturalText c (digits ▸ List.mem_cons_self)⟩

/-- An integer is written with a minus or a digit in front. -/
theorem integerText_cons (value : Int) :
    ∃ c tail, Number.integerText value = c :: tail ∧ (c = '-' ∨ c.isDigit = true) := by
  unfold Number.integerText
  split
  · exact ⟨'-', _, rfl, .inl rfl⟩
  · obtain ⟨c, tail, same, digit⟩ := naturalText_cons value.natAbs
    exact ⟨c, tail, same, .inr digit⟩

/-- What a numeral starts with is neither space nor a closing bracket. -/
theorem solid_of_starts {c : Char} (starts : c = '-' ∨ c.isDigit = true) :
    Written.isSpace c = false ∧ c ≠ ']' := by
  have others : ∀ d ∈ [' ', '\t', '\n', '\r', ']'], c ≠ d := by
    rintro d mark rfl
    simp only [List.mem_cons, List.not_mem_nil, or_false] at mark
    rcases mark with rfl | rfl | rfl | rfl | rfl <;> exact absurd starts (by decide)
  simp only [List.mem_cons, List.not_mem_nil, or_false, forall_eq_or_imp, forall_eq] at others
  simp [Written.isSpace, others]

theorem read?_integerText (value : Int) :
    Takes read? Ends (Number.integerText value) (written value) := by
  intro rest ends
  unfold Number.integerText written
  by_cases negative : value < 0
  · rw [if_pos negative, List.cons_append]
    simp only [read?, readMagnitude?_naturalText true value.natAbs rest ends, negative, decide_true]
  · rw [if_neg negative]
    have takes := readMagnitude?_naturalText false value.natAbs rest ends
    obtain ⟨c, tail, same, digit⟩ := naturalText_cons value.natAbs
    have plain : c ≠ '-' := by
      rintro rfl
      cases digit
    rw [same] at takes ⊢
    rw [List.cons_append] at takes ⊢
    simp [read?, plain, takes, negative]

/-- The magnitude of an integer that is kept, with its sign, gives that integer. -/
theorem whole?_natAbs {value : Int} (kept : Number.Kept value) :
    whole? (decide (value < 0)) value.natAbs = some (.integer value kept) := by
  by_cases negative : value < 0
  · have signed : -(value.natAbs : Int) = value := by omega
    have nonzero : value.natAbs ≠ 0 := by omega
    simp only [whole?, negative, decide_true, nonzero, decide_false, Bool.and_false,
      Bool.false_eq_true, if_false, if_true, signed, kept, dite_true]
  · have plain : (value.natAbs : Int) = value := by omega
    simp only [whole?, negative, decide_false, Bool.false_and, Bool.false_eq_true, if_false,
      plain, kept, dite_true]

/-- An integer that is kept is what its numeral stands for. -/
theorem number?_written {value : Int} (kept : Number.Kept value) :
    (written value).number? = some (.integer value kept) := by
  have fits : value.natAbs < UInt64.size := by
    obtain ⟨low, high⟩ := kept
    rw [UInt64.size]
    omega
  have number : Nat.ofDigitChars 10 (Number.naturalText value.natAbs) 0 = value.natAbs :=
    Nat.ofDigitChars_toDigits (by decide) (by decide)
  have absorbed : absorb 0 (Number.naturalText value.natAbs) = (value.natAbs, []) := by
    rw [absorb_eq (number.symm ▸ fits), number]
  simp only [number?, written, absorbed, List.isEmpty_nil, if_true]
  exact whole?_natAbs kept

/-- The text of an integer is taken for that integer. -/
theorem whole_integer (value : Int) :
    Written.Whole (Number.integerText value) (.number (written value)) := by
  intro steps enough rest ends
  obtain ⟨c, tail, same, starts⟩ := integerText_cons value
  obtain ⟨steps, rfl⟩ : ∃ more, steps = more + 1 := by
    refine Nat.exists_eq_add_one_of_ne_zero ?_
    rw [same, List.length_cons] at enough
    omega
  have takes := read?_integerText value rest (ends _ rfl)
  rw [same] at takes ⊢
  rw [List.cons_append, Written.readValue?_numeral starts, ← List.cons_append, takes]
  rfl

end Numeral

/-! ## Strings -/

namespace Glyph

/-- A character is written with a short escape, as its code, or as it is. -/
theorem encodeChar_cases (c : Char) :
    (∃ letter, Quoted.encodeChar c = ['\\', letter] ∧ shortEscape? letter = some c ∧
        written c = .char c) ∨
      (c.toNat < 0x20 ∧ written c = .code c.toNat ∧
        Quoted.encodeChar c = ['\\', 'u', '0', '0', Text.lowerDigit (c.toNat / 16),
          Text.lowerDigit (c.toNat % 16)]) ∨
      (¬ c.toNat < 0x20 ∧ c ≠ '"' ∧ c ≠ '\\' ∧ written c = .char c ∧
        Quoted.encodeChar c = [c]) := by
  by_cases short : c ∈ ['"', '\\', '\x08', '\x0c', '\n', '\r', '\t']
  · left
    simp only [List.mem_cons, List.not_mem_nil, or_false] at short
    rcases short with rfl | rfl | rfl | rfl | rfl | rfl | rfl <;>
      exact ⟨_, rfl, rfl, by decide⟩
  · right
    simp only [List.mem_cons, List.not_mem_nil, or_false, not_or] at short
    obtain ⟨quote, backslash, back, feed, line, carriage, tab⟩ := short
    by_cases control : c.toNat < 0x20
    · left
      simp [written, Quoted.encodeChar, control, quote, backslash, back, feed, line, carriage, tab]
    · right
      simp [written, Quoted.encodeChar, control, quote, backslash, back, feed, line, carriage, tab]

/-- A character as it is written is taken for its glyph. -/
theorem read?_encodeChar (c : Char) (rest : List Char) :
    read? (Quoted.encodeChar c ++ rest) =
      (read? rest).map fun (glyphs, after) => (written c :: glyphs, after) := by
  rcases encodeChar_cases c with
    ⟨letter, text, escape, glyph⟩ | ⟨control, glyph, text⟩ |
      ⟨visible, quote, backslash, glyph, text⟩
  · have plain : letter ≠ 'u' := by
      rintro rfl
      cases escape
    rw [text, glyph]
    cases read : read? rest <;> simp [read?, plain, escape, read]
  · have code : codeOf? '0' '0' (Text.lowerDigit (c.toNat / 16))
        (Text.lowerDigit (c.toNat % 16)) = some c.toNat := by
      have zero : Text.digitValue? '0' = some 0 := by decide
      simp only [codeOf?, zero, Text.digitValue?_lowerDigit (show c.toNat / 16 < 16 by omega),
        Text.digitValue?_lowerDigit (show c.toNat % 16 < 16 by omega), Option.bind_eq_bind,
        Option.bind_some, Option.some.injEq]
      omega
    rw [text, glyph]
    cases read : read? rest <;> simp [read?, code, read]
  · rw [text, glyph]
    cases read : read? rest <;> simp [read?, backslash, visible, read]

/-- A written glyph stands for its character. -/
theorem chars?_written (c : Char) (glyphs : List Glyph) :
    chars? (written c :: glyphs) = (chars? glyphs).map (c :: ·) := by
  unfold written
  split
  · next control =>
      have high : isHighSurrogate c.toNat = false := by
        simp only [isHighSurrogate, Bool.and_eq_false_iff, decide_eq_false_iff_not]
        omega
      have low : isLowSurrogate c.toNat = false := by
        simp only [isLowSurrogate, Bool.and_eq_false_iff, decide_eq_false_iff_not]
        omega
      cases glyphs with
      | nil => simp [chars?, high, low]
      | cons glyph glyphs => cases glyph <;> simp [chars?, high, low]
  · rfl

theorem chars?_map_written (text : List Char) : chars? (text.map written) = some text := by
  induction text with
  | nil => rfl
  | cons c text ih => rw [List.map_cons, chars?_written, ih, Option.map_some]

theorem text?_map_written (text : String) : text? (text.toList.map written) = some text := by
  rw [text?, chars?_map_written, Option.map_some, String.ofList_toList]

/-- What follows the opening quote of a text is taken for its glyphs. -/
theorem read?_encode (text rest : List Char) :
    read? (text.flatMap Quoted.encodeChar ++ '"' :: rest) = some (text.map written, rest) := by
  induction text with
  | nil => simp [read?]
  | cons c text ih =>
      rw [List.flatMap_cons, List.append_assoc, read?_encodeChar, ih]
      rfl

end Glyph

/-! ## Tables -/

theorem Table.insert_of_last {α : Type} {key : String} {value : α} {table : List (String × α)}
    (last : ∀ pair ∈ table, pair.1 < key) : insert key value table = table ++ [(key, value)] := by
  induction table with
  | nil => rfl
  | cons head table ih =>
      obtain ⟨name, old⟩ := head
      have before : name < key := last (name, old) List.mem_cons_self
      have different : key ≠ name := fun same => String.lt_irrefl name (same ▸ before)
      rw [insert, if_neg (String.lt_asymm before), if_neg different,
        ih fun pair present => last pair (List.mem_cons_of_mem _ present)]
      rfl

/-- A table is what its own pairs give. -/
theorem Table.ofPairs_of_ordered {α : Type} {table : List (String × α)} (ordered : Ordered table) :
    ofPairs table = table := by
  have joins : ∀ rest front : List (String × α), Ordered (front ++ rest) →
      rest.foldl (fun table pair => insert pair.1 pair.2 table) front = front ++ rest := by
    intro rest
    induction rest with
    | nil => exact fun front _ => (List.append_nil front).symm
    | cons pair rest ih =>
        intro front ordered
        have last : ∀ other ∈ front, other.1 < pair.1 := fun other present =>
          (List.pairwise_append.mp ordered).2.2 other present pair List.mem_cons_self
        rw [List.foldl_cons, insert_of_last last, ih _ (by simpa using ordered)]
        simp
  exact joins table [] ordered

/-! ## Values, items and members -/

namespace Written

/-- A text in quotes is taken for the glyphs of the text. -/
theorem whole_encode (text : String) :
    Whole (Quoted.encode text.toList) (.string (text.toList.map Glyph.written)) := by
  intro steps enough rest _
  obtain ⟨steps, rfl⟩ : ∃ more, steps = more + 1 := by
    refine Nat.exists_eq_add_one_of_ne_zero ?_
    rw [Quoted.encode, List.length_cons] at enough
    omega
  simp [Quoted.encode, readValue?, skipSpace_of_head, isSpace, Glyph.read?_encode]

/-- A key is taken with its colon. -/
theorem readKey?_encode (key : String) (rest : List Char) :
    readKey? (Quoted.encode key.toList ++ ':' :: rest) =
      some (key.toList.map Glyph.written, rest) := by
  simp [Quoted.encode, readKey?, skipSpace_of_head, isSpace, Glyph.read?_encode]

section Printed

variable {text : List Char} {written : Written} (whole : Whole text written) {steps : Nat}
  (enough : 2 * text.length ≤ steps) (rest : List Char)

include whole enough

theorem readValue?_mark {mark : Char} (marks : mark ∈ [',', ']', '}']) :
    readValue? steps (text ++ mark :: rest) = some (written, mark :: rest) :=
  whole steps enough _ fun _ _ =>
    ends_append (fun _ absent => absurd absent List.not_mem_nil) marks rest

theorem readItems?_last :
    readItems? (steps + 1) (text ++ ']' :: rest) = some ([written], rest) := by
  simp [readItems?, readValue?_mark whole enough rest, skipSpace_of_head, isSpace]

theorem readItems?_more :
    readItems? (steps + 1) (text ++ ',' :: rest) =
      (readItems? steps rest).map fun (items, rest) => (written :: items, rest) := by
  simp [readItems?, readValue?_mark whole enough rest, skipSpace_of_head, isSpace]

theorem readMembers?_last (key : String) :
    readMembers? (steps + 1) (Quoted.encode key.toList ++ ':' :: (text ++ '}' :: rest)) =
      some ([(key.toList.map Glyph.written, written)], rest) := by
  simp [readMembers?, readKey?_encode, readValue?_mark whole enough rest, skipSpace_of_head,
    isSpace]

theorem readMembers?_more (key : String) :
    readMembers? (steps + 1) (Quoted.encode key.toList ++ ':' :: (text ++ ',' :: rest)) =
      (readMembers? steps rest).map fun (members, rest) =>
        ((key.toList.map Glyph.written, written) :: members, rest) := by
  simp [readMembers?, readKey?_encode, readValue?_mark whole enough rest, skipSpace_of_head,
    isSpace]

end Printed

end Written

namespace Json

open Written

variable {depth : Nat}

theorem printItems_cons (first second : Json) (items : List Json) :
    printItems (first :: second :: items) = first.print ++ ',' :: printItems (second :: items) := by
  simp [printItems]

theorem printMembers_cons (key : String) (value : Json) (second : String × Json)
    (members : List (String × Json)) :
    printMembers ((key, value) :: second :: members) =
      Quoted.encode key.toList ++
        ':' :: (value.print ++ ',' :: printMembers (second :: members)) := by
  simp [printMembers]

/-- Items are taken up to the closing bracket. -/
theorem readItems?_printItems {first : Json} {items : List Json}
    (printed : ∀ item ∈ first :: items, Printed depth item) :
    ∃ found, values? depth found = some (first :: items) ∧
      ∀ steps, 2 * (printItems (first :: items)).length + 2 ≤ steps →
        ∀ rest, readItems? steps (printItems (first :: items) ++ ']' :: rest) =
          some (found, rest) := by
  induction items generalizing first with
  | nil =>
      obtain ⟨_, written, whole, value⟩ := printed first List.mem_cons_self
      refine ⟨[written], by simp [values?, value], fun steps enough rest => ?_⟩
      obtain ⟨steps, rfl⟩ := Nat.exists_eq_add_one_of_ne_zero (show steps ≠ 0 by omega)
      rw [printItems] at enough ⊢
      exact readItems?_last whole (by omega) rest
  | cons second items ih =>
      obtain ⟨_, written, whole, value⟩ := printed first List.mem_cons_self
      obtain ⟨found, values, takes⟩ := ih fun item present =>
        printed item (List.mem_cons_of_mem first present)
      refine ⟨written :: found, by simp [values?, value, values], fun steps enough rest => ?_⟩
      obtain ⟨steps, rfl⟩ := Nat.exists_eq_add_one_of_ne_zero (show steps ≠ 0 by omega)
      rw [printItems_cons] at enough ⊢
      simp only [List.length_append, List.length_cons] at enough
      rw [List.append_assoc, List.cons_append, readItems?_more whole (by omega),
        takes steps (by omega) rest, Option.map_some]

/-- Members are taken up to the closing brace. -/
theorem readMembers?_printMembers {first : String × Json} {members : List (String × Json)}
    (printed : ∀ member ∈ first :: members, Printed depth member.2) :
    ∃ found, memberValues? depth found = some (first :: members) ∧
      ∀ steps, 2 * (printMembers (first :: members)).length + 2 ≤ steps →
        ∀ rest, readMembers? steps (printMembers (first :: members) ++ '}' :: rest) =
          some (found, rest) := by
  induction members generalizing first with
  | nil =>
      obtain ⟨key, member⟩ := first
      obtain ⟨_, written, whole, value⟩ : Printed depth member :=
        printed (key, member) List.mem_cons_self
      refine ⟨[(key.toList.map Glyph.written, written)],
        by simp [memberValues?, value, Glyph.text?_map_written], fun steps enough rest => ?_⟩
      obtain ⟨steps, rfl⟩ := Nat.exists_eq_add_one_of_ne_zero (show steps ≠ 0 by omega)
      rw [printMembers] at enough ⊢
      simp only [List.length_append, List.length_cons] at enough
      rw [List.append_assoc, List.cons_append]
      exact readMembers?_last whole (by omega) rest key
  | cons second members ih =>
      obtain ⟨key, member⟩ := first
      obtain ⟨_, written, whole, value⟩ : Printed depth member :=
        printed (key, member) List.mem_cons_self
      obtain ⟨found, values, takes⟩ := ih fun member present =>
        printed member (List.mem_cons_of_mem _ present)
      refine ⟨(key.toList.map Glyph.written, written) :: found,
        by simp [memberValues?, value, values, Glyph.text?_map_written],
        fun steps enough rest => ?_⟩
      obtain ⟨steps, rfl⟩ := Nat.exists_eq_add_one_of_ne_zero (show steps ≠ 0 by omega)
      rw [printMembers_cons] at enough ⊢
      simp only [List.length_append, List.length_cons] at enough
      rw [List.append_assoc, List.cons_append, List.append_assoc, List.cons_append,
        readMembers?_more whole (by omega), takes steps (by omega) rest, Option.map_some]

/-- An array starts with a bracket, and its items follow without space. -/
theorem whole_array {items : List Json} (printed : ∀ item ∈ items, Printed depth item) :
    ∃ written, Whole (print (.array items)) written ∧
      written.value? (depth + 1) = some (.array items) := by
  have blank : ∀ c ∈ ([] : List Char), isSpace c = true := fun _ absent =>
    absurd absent List.not_mem_nil
  cases items with
  | nil =>
      refine ⟨.array [], fun steps enough rest _ => ?_, rfl⟩
      simp only [print, printItems, List.length_cons] at enough
      obtain ⟨steps, rfl⟩ := Nat.exists_eq_add_one_of_ne_zero (show steps ≠ 0 by omega)
      exact readValue?_array blank steps rest
  | cons first items =>
      obtain ⟨found, values, takes⟩ := readItems?_printItems printed
      obtain ⟨⟨c, tail, same, solid, filled⟩, _⟩ := printed first List.mem_cons_self
      obtain ⟨more, starts⟩ : ∃ more, printItems (first :: items) = c :: more := by
        cases items with
        | nil => exact ⟨tail, same⟩
        | cons second items => exact ⟨_, by rw [printItems_cons, same, List.cons_append]⟩
      refine ⟨.array found, fun steps enough rest _ => ?_, by simp [value?, values]⟩
      simp only [print, List.length_cons, List.length_append] at enough
      obtain ⟨steps, rfl⟩ := Nat.exists_eq_add_one_of_ne_zero (show steps ≠ 0 by omega)
      have items := takes steps (by omega) rest
      have opened := readValue?_items blank steps (more ++ ']' :: rest) solid filled
      rw [starts, List.cons_append] at items
      rw [items] at opened
      rw [print, starts]
      simpa using opened

/-- An object starts with a brace, and its members follow without space. They may be in any order
and are read as a table. -/
theorem whole_object {members : List (String × Json)}
    (printed : ∀ member ∈ members, Printed depth member.2) :
    ∃ written, Whole (print (.object members)) written ∧
      written.value? (depth + 1) = some (.object (Table.ofPairs members)) := by
  have blank : ∀ c ∈ ([] : List Char), isSpace c = true := fun _ absent =>
    absurd absent List.not_mem_nil
  cases members with
  | nil =>
      refine ⟨.object [], fun steps enough rest _ => ?_, rfl⟩
      simp only [print, printMembers, List.length_cons] at enough
      obtain ⟨steps, rfl⟩ := Nat.exists_eq_add_one_of_ne_zero (show steps ≠ 0 by omega)
      exact readValue?_object blank steps rest
  | cons first members =>
      obtain ⟨found, values, takes⟩ := readMembers?_printMembers printed
      obtain ⟨more, starts⟩ : ∃ more, printMembers (first :: members) = '"' :: more := by
        obtain ⟨key, member⟩ := first
        cases members with
        | nil => exact ⟨_, by rw [printMembers, Quoted.encode, List.cons_append]⟩
        | cons second members =>
            exact ⟨_, by rw [printMembers_cons, Quoted.encode, List.cons_append]⟩
      refine ⟨.object found, fun steps enough rest _ => ?_, by simp [value?, values]⟩
      simp only [print, List.length_cons, List.length_append] at enough
      obtain ⟨steps, rfl⟩ := Nat.exists_eq_add_one_of_ne_zero (show steps ≠ 0 by omega)
      have members := takes steps (by omega) rest
      have opened := readValue?_members blank steps (c := '"') (more ++ '}' :: rest) rfl (by decide)
      rw [starts, List.cons_append] at members
      rw [members] at opened
      rw [print, starts]
      simpa using opened

/-- A word is taken for what it stands for. -/
theorem whole_word {word : List Char} {written : Written} (filled : 0 < word.length)
    (reads : ∀ steps rest, readValue? (steps + 1) (word ++ rest) = some (written, rest)) :
    Whole word written := by
  intro steps enough rest _
  obtain ⟨steps, rfl⟩ := Nat.exists_eq_add_one_of_ne_zero (show steps ≠ 0 by omega)
  exact reads steps rest

/-- The text of a plain value is taken for that value. By induction on the value: items and members
are printed, and one more level encloses them. -/
theorem Plain.printed {value : Json} (plain : Plain depth value) : Printed depth value := by
  induction plain with
  | null => exact ⟨⟨'n', _, rfl, rfl, by decide⟩, .null, whole_word (by decide) fun _ _ => rfl, rfl⟩
  | bool value =>
      cases value with
      | true =>
          exact ⟨⟨'t', _, rfl, rfl, by decide⟩, .bool true, whole_word (by decide) fun _ _ => rfl,
            rfl⟩
      | false =>
          exact ⟨⟨'f', _, rfl, rfl, by decide⟩, .bool false, whole_word (by decide) fun _ _ => rfl,
            rfl⟩
  | integer value kept =>
      refine ⟨?_, .number (.written value), Numeral.whole_integer value, ?_⟩
      · obtain ⟨c, tail, same, starts⟩ := Numeral.integerText_cons value
        exact ⟨c, tail, same, Numeral.solid_of_starts starts⟩
      · simp [value?, Numeral.number?_written kept]
  | string value =>
      refine ⟨⟨'"', _, rfl, rfl, by decide⟩, .string (value.toList.map Glyph.written),
        whole_encode value, ?_⟩
      simp [value?, Glyph.text?_map_written]
  | array _ ih => exact ⟨⟨'[', _, rfl, rfl, by decide⟩, whole_array ih⟩
  | object ordered _ ih =>
      have read := whole_object ih
      rw [Table.ofPairs_of_ordered ordered] at read
      exact ⟨⟨'{', _, rfl, rfl, by decide⟩, read⟩

end Json

/-! ## Requests -/

namespace Request

variable (id : RequestId) (event : String) (data : Option Json)

theorem bind_payload? : data.bind payload? = effective data := by
  cases data with
  | none => rfl
  | some value =>
      rw [Option.bind_some, payload?.eq_def]
      split
      · rfl
      · rfl
      · next filled said =>
          have others : some value ∉ [none, some .null, some (.object [])] := by
            simp only [List.mem_cons, List.not_mem_nil, or_false, Option.some.injEq, reduceCtorEq,
              false_or]
            rintro (rfl | rfl)
            · exact filled rfl
            · exact said rfl
          exact (if_neg others).symm

/-- What a request carries is not `null`. -/
theorem bind_nonNull? : (effective data).bind Json.nonNull? = effective data := by
  have said := data_ne_null default "" data
  rw [make, bind_payload?] at said
  cases carried : effective data with
  | none => rfl
  | some value =>
      cases value with
      | null => exact absurd carried said
      | _ => rfl

theorem text_ofUInt64 (word : UInt64) :
    (Number.ofUInt64 word).text = Nat.toDigits 10 word.toNat := by
  have plain : ¬ (word.toNat : Int) < 0 := by omega
  show Number.integerText word.toNat = _
  rw [Number.integerText, if_neg plain, Int.natAbs_natCast]
  rfl

/-- A request is written as the object of its members. -/
theorem frame_eq (request : Request) : request.frame = Json.print (.object request.members) := by
  have opens : "\x7b\"id\":".toList = '{' :: (Quoted.encode "id".toList ++ [':']) := by decide
  have names : ",\"event\":".toList = ',' :: (Quoted.encode "event".toList ++ [':']) := by decide
  have carries : ",\"data\":".toList = ',' :: (Quoted.encode "data".toList ++ [':']) := by decide
  obtain ⟨id, event, data⟩ := request
  unfold frame
  dsimp only
  rw [opens, names, carries]
  cases data with
  | none =>
      simp only [members, Option.toList_none, List.map_nil, List.append_nil, Json.print,
        Json.printMembers, text_ofUInt64, List.append_assoc, List.cons_append, List.nil_append]
  | some value =>
      simp only [members, Option.toList_some, List.map_cons, List.map_nil, Json.print,
        Json.printMembers, text_ofUInt64, List.append_assoc, List.cons_append, List.nil_append]

/-- A request whose data is plain is read as the table of its members. -/
theorem parse?_frame {request : Request} (plain : ∀ value ∈ request.data, Json.Plain 126 value) :
    Json.parse? request.frame = some (.object (Table.ofPairs request.members)) := by
  have printed : ∀ member ∈ request.members, Json.Printed 126 member.2 := by
    intro member present
    refine Json.Plain.printed ?_
    simp only [members, List.cons_append, List.nil_append, List.mem_cons, List.mem_map,
      Option.mem_toList] at present
    rcases present with rfl | rfl | ⟨value, carried, rfl⟩
    · exact .integer _ _
    · exact .string _
    · exact plain value carried
  obtain ⟨written, whole, value⟩ := Json.whole_object printed
  rw [← frame_eq] at whole
  simp only [Json.parse?, whole.read?_eq, Option.bind_eq_bind, Option.bind_some]
  exact value

/-- The table of a request's members has the identifier, the event and what data there is. -/
theorem find?_members (name : String) :
    Table.find? name (Table.ofPairs (make id event data).members) =
      if "data" = name ∧ (effective data).isSome then effective data
      else if "event" = name then some (.string event)
      else if "id" = name then some (.number (.ofUInt64 id.value)) else none := by
  simp only [make, bind_payload?]
  cases carried : effective data with
  | none => simp [members, Table.ofPairs, Table.find?_insert, Table.find?]
  | some value => simp [members, Table.ofPairs, Table.find?_insert, Table.find?]

/-- The table of a request's members is a response that carries them. -/
theorem ofMembers_members :
    Message.ofMembers (Table.ofPairs (make id event data).members) =
      .ok (.response ⟨id, none, effective data, none, some event, none⟩) := by
  have carried : (if (effective data).isSome then effective data else none) = effective data := by
    cases effective data <;> rfl
  have said := bind_nonNull? data
  simp [Message.ofMembers, Message.responseOf, find?_members, Message.usableId?_ofUInt64, carried,
    said, Json.asString?]

/-- A request is read as a response that carries what the request says. -/
theorem decode_text (plain : ∀ value ∈ data, Json.Plain 126 value) :
    Message.decode (make id event data).text.toList =
      .ok (some (.response ⟨id, none, effective data, none, some event, none⟩)) := by
  have carried : ∀ value ∈ (make id event data).data, Json.Plain 126 value := by
    rw [make, bind_payload?]
    intro value present
    unfold effective at present
    split at present
    · cases present
    · exact plain value present
  rw [text, String.toList_ofList,
    Message.decode_of_objectOf (Message.objectOf_of_object (parse?_frame carried)),
    ofMembers_members]
  rfl

end Request

/-- A request is read as a response with its identifier, its event and its data, unless the data is
`null` or the empty object, and with nothing else. So two requests with one text have the same
identifier, the same event and the same data. -/
theorem read_back :
    (∀ (id : RequestId) (event : String) (data : Option Json),
      (∀ value ∈ data, Json.Plain 126 value) →
        Message.decode (Request.make id event data).text.toList =
          .ok (some (.response
            { id, success := none, data := Request.effective data, errors := none,
              event := some event, source := none }))) ∧
    ∀ (id other : RequestId) (event name : String) (data value : Option Json),
      (∀ part ∈ data, Json.Plain 126 part) → (∀ part ∈ value, Json.Plain 126 part) →
        (Request.make id event data).text = (Request.make other name value).text →
          id = other ∧ event = name ∧ Request.effective data = Request.effective value := by
  refine ⟨Request.decode_text, fun id other event name data value first second same => ?_⟩
  have reads := Request.decode_text id event data first
  rw [same, Request.decode_text other name value second] at reads
  simp only [Except.ok.injEq, Option.some.injEq, Message.response.injEq, Response.mk.injEq] at reads
  obtain ⟨sameId, -, sameData, -, sameEvent, -⟩ := reads
  exact ⟨sameId.symm, sameEvent.symm, sameData.symm⟩

/-- Data with the least and the greatest integer, and with text that has to be escaped. -/
def trickyData : Json :=
  .object [("\x01\"", .array [.number (.integer (-9_223_372_036_854_775_808) (by decide)),
      .number (.integer 18_446_744_073_709_551_615 (by decide)), .null, .array [], .bool false]),
    ("k", .object [("", .object []), ("\\", .string "\x7b\n\x1f\x7d")])]

/-- A request without data whose event looks like the end of another request. -/
def trickyEvent : String :=
  "ask\",\"data\":\"now"

theorem plain_trickyData : Json.Plain 126 trickyData := by
  refine .object (by unfold Table.Ordered; decide) fun member present => ?_
  simp only [List.mem_cons, List.not_mem_nil, or_false] at present
  rcases present with rfl | rfl
  · refine .array fun item present => ?_
    simp only [List.mem_cons, List.not_mem_nil, or_false] at present
    rcases present with rfl | rfl | rfl | rfl | rfl
    · exact .integer _ _
    · exact .integer _ _
    · exact .null
    · exact .array fun _ absent => absurd absent List.not_mem_nil
    · exact .bool false
  · refine .object (by unfold Table.Ordered; decide) fun member present => ?_
    simp only [List.mem_cons, List.not_mem_nil, or_false] at present
    rcases present with rfl | rfl
    · exact .object .nil fun _ absent => absurd absent List.not_mem_nil
    · exact .string _

/-- Text that has to be escaped, and the integers at both ends, come back; and an event cannot be
taken for data. -/
theorem read_back_escaped :
    Json.Plain 126 trickyData ∧
      Message.decode
          (Request.make ⟨18_446_744_073_709_551_615⟩ "a\"\t" (some trickyData)).text.toList =
        .ok (some (.response ⟨⟨18_446_744_073_709_551_615⟩, none, some trickyData, none,
          some "a\"\t", none⟩)) ∧
      (Request.make ⟨1⟩ trickyEvent none).text ≠
        (Request.make ⟨1⟩ "ask" (some (.string "now"))).text := by
  refine ⟨plain_trickyData, ?_, fun same => ?_⟩
  · refine read_back.1 ⟨18_446_744_073_709_551_615⟩ "a\"\t" (some trickyData) ?_
    rintro value ⟨⟩
    exact plain_trickyData
  · have equal : trickyEvent = "ask" := by
      refine (read_back.2 _ _ _ _ none (some (.string "now")) ?_ ?_ same).2.1
      · rintro value ⟨⟩
      · rintro value ⟨⟩
        exact .string "now"
    exact absurd equal (by decide)

end Intercom
