import Intercom.Json.Written
import Mathlib.Data.List.TakeDrop
import Mathlib.Data.List.TakeWhile

/-!
# What the readers of JSON take from a text

A reader gives a value and the text after it. The value depends on nothing but the part of the text
that was taken: whatever else stands after that part is left as it is, unless it would go on with a
numeral. The steps that a reader is given make no difference either, as long as they are enough for
the part that it takes.

Results: `Numeral.read?_takes`, `Glyph.read?_takes` and `Written.readValue?_takes` for the three
readers, and `Json.object_of_parse?`: a text whose value is an object is that object between its
braces, and space.
-/

namespace Intercom

/-! ## Definitions -/

/-- `Takes read ends taken value`: the reader takes that part of a text for the value, whatever
stands after it, if only the value `ends` there. -/
def Takes {α : Type} (read : List Char → Option (α × List Char)) (ends : List Char → Prop)
    (taken : List Char) (value : α) : Prop :=
  ∀ rest, ends rest → read (taken ++ rest) = some (value, rest)

/-- The text does not go on with a digit. -/
def Text.EndsDigits (text : List Char) : Prop :=
  ∀ c ∈ text.head?, c.isDigit = false

/-- The text does not go on with what may belong to a numeral. -/
structure Numeral.Ends (text : List Char) : Prop where
  digits : Text.EndsDigits text
  point : '.' ∉ text.head?
  lower : 'e' ∉ text.head?
  upper : 'E' ∉ text.head?

/-! ## Numerals -/

namespace Numeral

open Text (EndsDigits)

variable {text rest taken : List Char}

theorem digits_eq {run : List Char} (cut : digits text = (run, rest)) :
    text = run ++ rest ∧ (∀ c ∈ run, c.isDigit = true) ∧ EndsDigits rest := by
  unfold digits at cut
  rw [List.span_eq_takeWhile_dropWhile, Prod.mk.injEq] at cut
  obtain ⟨rfl, rfl⟩ := cut
  refine ⟨List.takeWhile_append_dropWhile.symm, fun c taken => ?_, fun c first => ?_⟩
  · exact List.all_eq_true.mp List.all_takeWhile c taken
  · have stops := List.head?_dropWhile_not Char.isDigit text
    rw [Option.mem_def] at first
    rw [first] at stops
    simpa using stops

theorem digits_takes {run : List Char} (all : ∀ c ∈ run, c.isDigit = true)
    (ends : EndsDigits rest) : digits (run ++ rest) = (run, rest) := by
  unfold digits
  rw [List.span_eq_takeWhile_dropWhile, List.takeWhile_append_of_pos all,
    List.dropWhile_append_of_pos all]
  have stops : rest.takeWhile Char.isDigit = [] ∧ rest.dropWhile Char.isDigit = rest := by
    cases rest with
    | nil => exact ⟨rfl, rfl⟩
    | cons c rest =>
        have other : c.isDigit = false := ends c rfl
        simp [other]
  rw [stops.1, stops.2, List.append_nil]

/-- What does not go on with a digit still does not if its end is replaced. -/
theorem endsDigits_append {other : List Char} (ends : EndsDigits (taken ++ rest))
    (others : EndsDigits other) : EndsDigits (taken ++ other) := by
  cases taken with
  | nil => exact others
  | cons c taken => exact ends

theorem readWhole?_takes {whole : List Char} (read : readWhole? text = some (whole, rest)) :
    text = whole ++ rest ∧ whole ≠ [] ∧ (∀ c ∈ whole, c.isDigit = true) ∧ EndsDigits rest ∧
      Takes readWhole? EndsDigits whole whole := by
  unfold readWhole? at read
  split at read
  · cases read
  · cases read
  · next empty zero =>
      obtain ⟨same, all, ends⟩ := digits_eq (Option.some.inj read)
      cases cut : digits text with
      | mk run left =>
      rw [cut] at read
      cases read
      refine ⟨same, fun none => empty _ (none ▸ cut), all, ends, fun other ends => ?_⟩
      unfold readWhole?
      rw [digits_takes all ends]
      split
      · next again => exact absurd (Prod.mk.inj again).1 fun none => empty _ (none ▸ cut)
      · next again =>
          obtain ⟨rfl, _⟩ := Prod.mk.inj again
          exact absurd cut (zero _ _ _)
      · rfl

/-- A fraction starts with a point. -/
theorem readFraction?_takes {fraction : Option (List Char)}
    (read : readFraction? text = some (fraction, rest)) :
    ∃ taken, text = taken ++ rest ∧ (taken = [] ∨ taken.head? = some '.') ∧
      (EndsDigits text → EndsDigits rest) ∧
      Takes readFraction? (fun rest => EndsDigits rest ∧ '.' ∉ rest.head?) taken fraction := by
  unfold readFraction? at read
  split at read
  · next after =>
      cases cut : digits after with
      | mk run left =>
      rw [cut] at read
      cases run with
      | nil => cases read
      | cons c run =>
          cases read
          obtain ⟨rfl, all, ends⟩ := digits_eq cut
          refine ⟨'.' :: c :: run, rfl, .inr rfl, fun _ => ends, fun other ends => ?_⟩
          show readFraction? ('.' :: (c :: run ++ other)) = _
          simp only [readFraction?, digits_takes all ends.1]
  · next pointless =>
      cases read
      refine ⟨[], rfl, .inl rfl, id, fun other ends => ?_⟩
      rw [List.nil_append]
      unfold readFraction?
      split
      · exact absurd rfl ends.2
      · rfl

/-- A sign stands before a digit. -/
theorem readSign_takes {c : Char} (digit : c.isDigit = true)
    (after : (readSign text).2 = c :: rest) :
    ∃ sign, text = sign ++ c :: rest ∧
      ∀ other, readSign (sign ++ c :: other) = ((readSign text).1, c :: other) := by
  unfold readSign at after ⊢
  split at after
  · exact ⟨['-'], congrArg _ after, fun _ => rfl⟩
  · exact ⟨['+'], congrArg _ after, fun _ => rfl⟩
  · next minus plus =>
      refine ⟨[], after, fun other => ?_⟩
      rw [List.nil_append]
      split
      · next same =>
          cases same
          cases digit
      · next same =>
          cases same
          cases digit
      · rfl

theorem readExponentDigits?_takes {exponent : Option (Bool × List Char)}
    (read : readExponentDigits? text = some (exponent, rest)) :
    ∃ taken, text = taken ++ rest ∧ Takes readExponentDigits? EndsDigits taken exponent := by
  unfold readExponentDigits? at read
  dsimp only at read
  cases cut : digits (readSign text).2 with
  | mk run left =>
  rw [cut] at read
  cases run with
  | nil => cases read
  | cons c run =>
      cases read
      obtain ⟨after, all, _⟩ := digits_eq cut
      obtain ⟨sign, same, signs⟩ := readSign_takes (all c List.mem_cons_self) after
      refine ⟨sign ++ c :: run, by rw [same, List.append_assoc]; rfl, fun other ends => ?_⟩
      unfold readExponentDigits?
      rw [List.append_assoc, List.cons_append, signs]
      dsimp only
      rw [← List.cons_append, digits_takes all ends]

/-- An exponent starts with its mark. -/
theorem readExponent?_takes {exponent : Option (Bool × List Char)}
    (read : readExponent? text = some (exponent, rest)) :
    ∃ taken, text = taken ++ rest ∧
      (taken = [] ∨ taken.head? = some 'e' ∨ taken.head? = some 'E') ∧
      Takes readExponent? Ends taken exponent := by
  unfold readExponent? at read
  split at read
  · obtain ⟨taken, rfl, takes⟩ := readExponentDigits?_takes read
    exact ⟨'e' :: taken, rfl, .inr (.inl rfl), fun other ends => takes other ends.digits⟩
  · obtain ⟨taken, rfl, takes⟩ := readExponentDigits?_takes read
    exact ⟨'E' :: taken, rfl, .inr (.inr rfl), fun other ends => takes other ends.digits⟩
  · cases read
    refine ⟨[], rfl, .inl rfl, fun other ends => ?_⟩
    rw [List.nil_append]
    unfold readExponent?
    split
    · exact absurd rfl ends.lower
    · exact absurd rfl ends.upper
    · rfl

/-- A magnitude starts with a digit. -/
theorem readMagnitude?_takes {negative : Bool} {numeral : Numeral}
    (read : readMagnitude? negative text = some (numeral, rest)) :
    ∃ taken, text = taken ++ rest ∧ (∃ c ∈ taken.head?, c.isDigit = true) ∧
      Takes (readMagnitude? negative) Ends taken numeral := by
  unfold readMagnitude? at read
  simp only [Option.bind_eq_bind, Option.bind_eq_some_iff, Prod.exists, Option.some.injEq,
    Prod.mk.injEq] at read
  obtain ⟨whole, afterWhole, readsWhole, fraction, afterFraction, readsFraction, exponent, _,
    readsExponent, rfl, rfl⟩ := read
  obtain ⟨rfl, some, all, endsWhole, takesWhole⟩ := readWhole?_takes readsWhole
  obtain ⟨taken, rfl, point, endsFraction, takesFraction⟩ := readFraction?_takes readsFraction
  obtain ⟨last, rfl, mark, takesExponent⟩ := readExponent?_takes readsExponent
  refine ⟨whole ++ taken ++ last, by simp only [List.append_assoc], ?_, fun other ends => ?_⟩
  · cases whole with
    | nil => exact absurd rfl some
    | cons c whole => exact ⟨c, rfl, all c List.mem_cons_self⟩
  · have endsFraction : EndsDigits (last ++ other) ∧ '.' ∉ (last ++ other).head? := by
      refine ⟨endsDigits_append (endsFraction endsWhole) ends.digits, ?_⟩
      cases last with
      | nil => exact ends.point
      | cons c last =>
          rcases mark with none | lower | upper
          · cases none
          · cases lower
            simp
          · cases upper
            simp
    unfold readMagnitude?
    rw [List.append_assoc, List.append_assoc,
      takesWhole _ (endsDigits_append endsWhole endsFraction.1)]
    simp only [Option.bind_eq_bind, Option.bind_some, takesFraction _ endsFraction,
      takesExponent _ ends]

theorem ends_nil : Ends [] :=
  ⟨nofun, nofun, nofun, nofun⟩

/-- A numeral starts with a minus or a digit. -/
theorem read?_takes {numeral : Numeral} (read : read? text = some (numeral, rest)) :
    ∃ taken, text = taken ++ rest ∧ (∃ c ∈ taken.head?, c = '-' ∨ c.isDigit = true) ∧
      Takes read? Ends taken numeral := by
  unfold read? at read
  split at read
  · obtain ⟨taken, rfl, _, takes⟩ := readMagnitude?_takes read
    exact ⟨'-' :: taken, rfl, ⟨'-', rfl, .inl rfl⟩, takes⟩
  · obtain ⟨taken, rfl, ⟨c, first, digit⟩, takes⟩ := readMagnitude?_takes read
    refine ⟨taken, rfl, ⟨c, first, .inr digit⟩, fun other ends => ?_⟩
    unfold read?
    split
    · next same =>
        cases taken with
        | nil => cases first
        | cons head taken =>
            cases first
            cases same
            cases digit
    · exact takes other ends

end Numeral

/-! ## Strings -/

namespace Glyph

/-- A string is taken up to its closing quote. -/
theorem read?_takes {text rest : List Char} {glyphs : List Glyph}
    (read : read? text = some (glyphs, rest)) :
    ∃ taken, text = taken ++ rest ∧ taken ≠ [] ∧ Takes read? (fun _ => True) taken glyphs := by
  fun_induction read? text generalizing glyphs rest with
  | case1 => cases read
  | case2 left =>
      cases read
      exact ⟨['"'], rfl, List.cons_ne_nil _ _, fun other _ => by simp [read?]⟩
  | case3 a b c d left ih =>
      simp only [Option.bind_eq_bind, Option.bind_eq_some_iff, Prod.exists, Option.some.injEq,
        Prod.mk.injEq] at read
      obtain ⟨unit, code, others, _, reads, rfl, rfl⟩ := read
      obtain ⟨taken, rfl, _, takes⟩ := ih reads
      refine ⟨'\\' :: 'u' :: a :: b :: c :: d :: taken, rfl, List.cons_ne_nil _ _,
        fun other ends => ?_⟩
      simp [read?, code, takes other ends]
  | case4 letter left short ih =>
      simp only [Option.bind_eq_bind, Option.bind_eq_some_iff, Prod.exists, Option.some.injEq,
        Prod.mk.injEq] at read
      obtain ⟨c, escape, others, _, reads, rfl, rfl⟩ := read
      obtain ⟨taken, rfl, _, takes⟩ := ih reads
      refine ⟨'\\' :: letter :: taken, rfl, List.cons_ne_nil _ _, fun other ends => ?_⟩
      have plain : letter ≠ 'u' := by
        rintro rfl
        cases escape
      simp [read?, plain, escape, takes other ends]
  | case5 => cases read
  | case6 c left quote _ _ refused ih =>
      simp only [Option.bind_eq_bind, Option.bind_eq_some_iff, Prod.exists, Option.some.injEq,
        Prod.mk.injEq] at read
      obtain ⟨others, _, reads, rfl, rfl⟩ := read
      obtain ⟨taken, rfl, _, takes⟩ := ih reads
      simp only [Bool.or_eq_true, decide_eq_true_eq, not_or] at refused
      refine ⟨c :: taken, rfl, List.cons_ne_nil _ _, fun other ends => ?_⟩
      simp [read?, refused.1, refused.2, takes other ends]

end Glyph

/-! ## Values -/

namespace Written

variable {text rest space : List Char}

theorem skipSpace_append (blank : ∀ c ∈ space, isSpace c = true) (text : List Char) :
    skipSpace (space ++ text) = skipSpace text :=
  List.dropWhile_append_of_pos blank

theorem skipSpace_of_head {c : Char} (mark : isSpace c = false) (rest : List Char) :
    skipSpace (c :: rest) = c :: rest := by
  simp [skipSpace, mark]

/-- The space that is skipped, and where it ends. -/
theorem skipSpace_eq {c : Char} (skipped : skipSpace text = c :: rest) :
    ∃ space, (∀ d ∈ space, isSpace d = true) ∧ isSpace c = false ∧ text = space ++ c :: rest := by
  unfold skipSpace at skipped
  refine ⟨text.takeWhile isSpace, List.all_eq_true.mp List.all_takeWhile, ?_, ?_⟩
  · have stops := List.head?_dropWhile_not isSpace text
    rw [skipped] at stops
    simpa using stops
  · rw [← skipped, List.takeWhile_append_dropWhile]

theorem object_of_value? {depth : Nat} {written : Written} {members : List (String × Json)}
    (value : written.value? depth = some (.object members)) : ∃ found, written = .object found := by
  cases written with
  | object found => exact ⟨found, rfl⟩
  | array items => cases depth <;> simp [value?] at value
  | _ => simp [value?] at value

theorem ends_cons {c : Char} (mark : c ∈ [' ', '\t', '\n', '\r', ',', ']', '}'])
    (rest : List Char) : Numeral.Ends (c :: rest) := by
  have others : c.isDigit = false ∧ c ≠ '.' ∧ c ≠ 'e' ∧ c ≠ 'E' := by
    simp only [List.mem_cons, List.not_mem_nil, or_false] at mark
    rcases mark with rfl | rfl | rfl | rfl | rfl | rfl | rfl <;> decide
  obtain ⟨digit, point, lower, upper⟩ := others
  constructor
  · rintro _ ⟨⟩
    exact digit
  · simpa using point
  · simpa using lower
  · simpa using upper

/-- A numeral ends before a mark, and before space. -/
theorem ends_append {c : Char} (blank : ∀ d ∈ space, isSpace d = true)
    (mark : c ∈ [',', ']', '}']) (rest : List Char) : Numeral.Ends (space ++ c :: rest) := by
  cases space with
  | nil =>
      exact ends_cons (List.mem_append_right [' ', '\t', '\n', '\r'] mark) rest
  | cons d space =>
      refine ends_cons ?_ _
      have white := blank d List.mem_cons_self
      simp only [isSpace, Bool.or_eq_true, decide_eq_true_eq] at white
      simp only [List.mem_cons]
      tauto

/-! ### The readers of values, items and members -/

/-- What may stand after a value: it must not go on with a numeral. -/
def EndsAt (written : Written) (rest : List Char) : Prop :=
  ∀ numeral, written = .number numeral → Numeral.Ends rest

/-- An object stands between braces. -/
def Braced (written : Written) (taken : List Char) : Prop :=
  ∀ members, written = .object members →
    (skipSpace taken).head? = some '{' ∧ taken.getLast? = some '}'

/-- `Splits read shape ends text value rest`: the reader takes a part of some shape for the value
and leaves the rest, and twice as many steps as that part is long are enough for it. -/
def Splits {α : Type} (read : Nat → List Char → Option (α × List Char))
    (shape ends : α → List Char → Prop) (text : List Char) (value : α) (rest : List Char) : Prop :=
  ∃ taken, text = taken ++ rest ∧ 0 < taken.length ∧ shape value taken ∧
    ∀ steps, 2 * taken.length ≤ steps → Takes (read steps) (ends value) taken value

/-- Every text that the reader reads in so many steps is split. -/
def Reads {α : Type} (read : Nat → List Char → Option (α × List Char))
    (shape ends : α → List Char → Prop) (steps : Nat) : Prop :=
  ∀ text value rest, read steps text = some (value, rest) →
    Splits read shape ends text value rest

/-- An object has to end with a brace, a value may have to end where a numeral does. -/
abbrev ReadsValue : Nat → Prop :=
  Reads readValue? Braced EndsAt

abbrev ReadsItems : Nat → Prop :=
  Reads readItems? (fun _ _ => True) (fun _ _ => True)

abbrev ReadsMembers : Nat → Prop :=
  Reads readMembers? (fun _ taken => taken.getLast? = some '}') (fun _ _ => True)

theorem Splits.of_taken {α : Type} {read : Nat → List Char → Option (α × List Char)}
    {shape ends : α → List Char → Prop} (taken : List Char) {rest : List Char} {value : α}
    (long : 0 < taken.length) (shaped : shape value taken)
    (takes : ∀ steps, 2 * taken.length ≤ steps + 1 → ∀ other, ends value other →
      read (steps + 1) (taken ++ other) = some (value, other)) :
    Splits read shape ends (taken ++ rest) value rest := by
  refine ⟨taken, rfl, long, shaped, fun steps enough => ?_⟩
  obtain ⟨steps, rfl⟩ := Nat.exists_eq_add_one_of_ne_zero (show steps ≠ 0 by omega)
  exact takes steps enough

theorem readValue?_space (blank : ∀ c ∈ space, isSpace c = true) (steps : Nat)
    (text : List Char) : readValue? steps (space ++ text) = readValue? steps text := by
  cases steps with
  | zero => rfl
  | succ steps => simp only [readValue?, skipSpace_append blank]

theorem readValue?_numeral {c : Char} (starts : c = '-' ∨ c.isDigit = true) (steps : Nat)
    (rest : List Char) :
    readValue? (steps + 1) (c :: rest) =
      (Numeral.read? (c :: rest)).map fun (numeral, rest) => (.number numeral, rest) := by
  have other : ∀ d ∈ ['n', 't', 'f', '"', '[', '{', ' ', '\t', '\n', '\r'], c ≠ d := by
    rintro d marks rfl
    simp only [List.mem_cons, List.not_mem_nil, or_false] at marks
    rcases marks with rfl | rfl | rfl | rfl | rfl | rfl | rfl | rfl | rfl | rfl <;>
      exact absurd starts (by decide)
  simp only [List.mem_cons, List.not_mem_nil, or_false, forall_eq_or_imp, forall_eq] at other
  obtain ⟨n, t, f, quote, bracket, brace, blank, tab, line, feed⟩ := other
  have skips : skipSpace (c :: rest) = c :: rest :=
    skipSpace_of_head (by simp [isSpace, blank, tab, line, feed]) rest
  simp [readValue?, skips, n, t, f, quote, bracket, brace]

section Enclosed

variable (blank : ∀ c ∈ space, isSpace c = true) (steps : Nat) (rest : List Char)

include blank

theorem readValue?_array :
    readValue? (steps + 1) ('[' :: (space ++ ']' :: rest)) = some (.array [], rest) := by
  have skips : skipSpace ('[' :: (space ++ ']' :: rest)) = '[' :: (space ++ ']' :: rest) :=
    skipSpace_of_head rfl _
  have closes : skipSpace (']' :: rest) = ']' :: rest := skipSpace_of_head rfl rest
  simp [readValue?, skips, skipSpace_append blank, closes]

theorem readValue?_items {c : Char} (solid : isSpace c = false) (filled : c ≠ ']') :
    readValue? (steps + 1) ('[' :: (space ++ c :: rest)) =
      (readItems? steps (c :: rest)).map fun (items, rest) => (.array items, rest) := by
  have skips : skipSpace ('[' :: (space ++ c :: rest)) = '[' :: (space ++ c :: rest) :=
    skipSpace_of_head rfl _
  simp [readValue?, skips, skipSpace_append blank, skipSpace_of_head solid, filled]

theorem readValue?_object :
    readValue? (steps + 1) ('{' :: (space ++ '}' :: rest)) = some (.object [], rest) := by
  have skips : skipSpace ('{' :: (space ++ '}' :: rest)) = '{' :: (space ++ '}' :: rest) :=
    skipSpace_of_head rfl _
  have closes : skipSpace ('}' :: rest) = '}' :: rest := skipSpace_of_head rfl rest
  simp [readValue?, skips, skipSpace_append blank, closes]

theorem readValue?_members {c : Char} (solid : isSpace c = false) (filled : c ≠ '}') :
    readValue? (steps + 1) ('{' :: (space ++ c :: rest)) =
      (readMembers? steps (c :: rest)).map fun (members, rest) => (.object members, rest) := by
  have skips : skipSpace ('{' :: (space ++ c :: rest)) = '{' :: (space ++ c :: rest) :=
    skipSpace_of_head rfl _
  simp [readValue?, skips, skipSpace_append blank, skipSpace_of_head solid, filled]

end Enclosed

/-- A key is taken with its colon. -/
theorem readKey?_takes {glyphs : List Glyph} (read : readKey? text = some (glyphs, rest)) :
    ∃ taken, text = taken ++ rest ∧ taken ≠ [] ∧ Takes readKey? (fun _ => True) taken glyphs := by
  unfold readKey? at read
  split at read
  · next after opened =>
      simp only [Option.bind_eq_bind, Option.bind_eq_some_iff, Prod.exists] at read
      obtain ⟨key, tail, reads, read⟩ := read
      split at read
      · next closed =>
          cases read
          obtain ⟨space, blank, quote, rfl⟩ := skipSpace_eq opened
          obtain ⟨taken, rfl, _, takes⟩ := Glyph.read?_takes reads
          obtain ⟨between, white, colon, rfl⟩ := skipSpace_eq closed
          refine ⟨space ++ '"' :: (taken ++ (between ++ [':'])), by simp, by simp,
            fun other ends => ?_⟩
          have again : space ++ '"' :: (taken ++ (between ++ [':'])) ++ other =
              space ++ '"' :: (taken ++ (between ++ ':' :: other)) := by
            simp
          unfold readKey?
          rw [again, skipSpace_append blank, skipSpace_of_head quote]
          simp only [Option.bind_eq_bind, takes _ trivial, Option.bind_some,
            skipSpace_append white, skipSpace_of_head colon]
      · cases read
  · cases read

variable {steps : Nat}

/-- A value is taken together with the mark after it. -/
theorem value_mark {after tail : List Char} {value : Written} {mark : Char}
    (values : ReadsValue steps)
    (read : readValue? steps text = some (value, after)) (found : skipSpace after = mark :: tail)
    (marks : mark ∈ [',', ']', '}']) :
    ∃ taken, text = taken ++ tail ∧ taken.getLast? = some mark ∧ 2 ≤ taken.length ∧
      ∀ more other, 2 * taken.length ≤ more + 2 →
        ∃ after, readValue? more (taken ++ other) = some (value, after) ∧
          skipSpace after = mark :: other := by
  obtain ⟨first, rfl, long, _, takes⟩ := values _ _ _ read
  obtain ⟨space, blank, solid, rfl⟩ := skipSpace_eq found
  refine ⟨first ++ (space ++ [mark]), by simp, by simp, ?_, fun more other enough => ?_⟩
  · simp only [List.length_append, List.length_cons]
    omega
  · simp only [List.length_append, List.length_cons] at enough
    refine ⟨space ++ mark :: other, ?_, ?_⟩
    · have again : first ++ (space ++ [mark]) ++ other = first ++ (space ++ mark :: other) := by
        simp
      rw [again]
      exact takes more (by omega) _ fun _ _ => ends_append blank marks _
    · rw [skipSpace_append blank, skipSpace_of_head solid]

/-- Items are a value and then a bracket, or a comma and further items. -/
theorem reads_items (values : ReadsValue steps) (items : ReadsItems steps) :
    ReadsItems (steps + 1) := by
  intro text value rest read
  unfold readItems? at read
  split at read
  · cases read
  · next item after first =>
      split at read
      · next tail comma =>
          simp only [Option.map_eq_some_iff, Prod.exists, Prod.mk.injEq] at read
          obtain ⟨others, _, further, rfl, rfl⟩ := read
          obtain ⟨taken, rfl, _, long, takes⟩ := value_mark values first comma (by simp)
          obtain ⟨last, rfl, _, _, goes⟩ := items _ _ _ further
          rw [← List.append_assoc]
          refine .of_taken _ (by rw [List.length_append]; omega) trivial
            fun more enough other _ => ?_
          rw [List.length_append] at enough
          obtain ⟨after, read, found⟩ := takes more (last ++ other) (by omega)
          rw [List.append_assoc]
          simp only [readItems?, read, found, goes more (by omega) other trivial, Option.map_some]
      · next tail bracket =>
          cases read
          obtain ⟨taken, rfl, _, long, takes⟩ := value_mark values first bracket (by simp)
          refine .of_taken _ (by omega) trivial fun more enough other _ => ?_
          obtain ⟨after, read, found⟩ := takes more other (by omega)
          simp only [readItems?, read, found]
      · cases read

/-- Members are a key with a value and then a brace, or a comma and further members. -/
theorem reads_members (values : ReadsValue steps) (members : ReadsMembers steps) :
    ReadsMembers (steps + 1) := by
  intro text value rest read
  unfold readMembers? at read
  split at read
  · cases read
  · next key afterKey named =>
      obtain ⟨front, rfl, _, names⟩ := readKey?_takes named
      split at read
      · cases read
      · next member after first =>
          split at read
          · next tail comma =>
              simp only [Option.map_eq_some_iff, Prod.exists, Prod.mk.injEq] at read
              obtain ⟨others, _, further, rfl, rfl⟩ := read
              obtain ⟨taken, rfl, _, long, takes⟩ := value_mark values first comma (by simp)
              obtain ⟨last, rfl, _, closed, goes⟩ := members _ _ _ further
              rw [← List.append_assoc, ← List.append_assoc]
              refine .of_taken _ (by simp only [List.length_append]; omega) (by simp [closed])
                fun more enough other _ => ?_
              simp only [List.length_append] at enough
              obtain ⟨after, read, found⟩ := takes more (last ++ other) (by omega)
              rw [List.append_assoc, List.append_assoc]
              simp only [readMembers?, names _ trivial, read, found,
                goes more (by omega) other trivial, Option.map_some]
          · next tail brace =>
              cases read
              obtain ⟨taken, rfl, closed, long, takes⟩ := value_mark values first brace (by simp)
              rw [← List.append_assoc]
              refine .of_taken _ (by rw [List.length_append]; omega) (by simp [closed])
                fun more enough other _ => ?_
              rw [List.length_append] at enough
              obtain ⟨after, read, found⟩ := takes more other (by omega)
              rw [List.append_assoc]
              simp only [readMembers?, names _ trivial, read, found]
          · cases read

theorem getLast?_cons_append {mark last : Char} {inner : List Char}
    (closed : inner.getLast? = some last) :
    (mark :: (space ++ inner)).getLast? = some last := by
  rw [← List.cons_append, List.getLast?_append, closed, Option.some_or]

/-- A value that starts with a mark, space and something that is read in the steps that are left. -/
theorem splits_opened {mark : Char} {inner : List Char} {value : Written}
    (shaped : Braced value (mark :: (space ++ inner)))
    (takes : ∀ steps, 2 * inner.length ≤ steps → ∀ other,
      readValue? (steps + 1) (mark :: (space ++ (inner ++ other))) = some (value, other))
    (rest : List Char) :
    Splits readValue? Braced EndsAt (mark :: (space ++ (inner ++ rest))) value rest := by
  have again (other : List Char) :
      mark :: (space ++ (inner ++ other)) = mark :: (space ++ inner) ++ other := by
    simp
  rw [again]
  refine .of_taken _ (by simp) shaped fun steps enough other _ => ?_
  simp only [List.length_cons, List.length_append] at enough
  rw [← again]
  exact takes steps (by omega) other

theorem splits_array (items : ReadsItems steps)
    {after : List Char} {found : List Written} (filled : ∀ tail, skipSpace after ≠ ']' :: tail)
    (read : readItems? steps (skipSpace after) = some (found, rest)) :
    Splits readValue? Braced EndsAt ('[' :: after) (.array found) rest := by
  obtain ⟨taken, split, long, _, takes⟩ := items _ _ _ read
  cases taken with
  | nil => cases long
  | cons c taken =>
      obtain ⟨space, blank, solid, rfl⟩ := skipSpace_eq split
      have other : c ≠ ']' := by
        rintro rfl
        exact filled _ split
      have braced : Braced (.array found) ('[' :: (space ++ c :: taken)) := nofun
      refine splits_opened braced (fun more enough rest => ?_) rest
      rw [List.cons_append, readValue?_items blank more _ solid other, ← List.cons_append,
        takes more enough rest trivial]
      rfl

theorem splits_object (members : ReadsMembers steps)
    {after : List Char} {found : List (List Glyph × Written)}
    (filled : ∀ tail, skipSpace after ≠ '}' :: tail)
    (read : readMembers? steps (skipSpace after) = some (found, rest)) :
    Splits readValue? Braced EndsAt ('{' :: after) (.object found) rest := by
  obtain ⟨taken, split, long, closed, takes⟩ := members _ _ _ read
  cases taken with
  | nil => cases long
  | cons c taken =>
      obtain ⟨space, blank, solid, rfl⟩ := skipSpace_eq split
      have other : c ≠ '}' := by
        rintro rfl
        exact filled _ split
      have braced : Braced (.object found) ('{' :: (space ++ c :: taken)) :=
        fun _ _ => ⟨rfl, getLast?_cons_append closed⟩
      refine splits_opened braced (fun more enough rest => ?_) rest
      rw [List.cons_append, readValue?_members blank more _ solid other, ← List.cons_append,
        takes more enough rest trivial]
      rfl

/-- A value without space before it. -/
theorem splits_solid (items : ReadsItems steps) (members : ReadsMembers steps) {c : Char}
    {tail : List Char} {value : Written} (solid : isSpace c = false)
    (read : readValue? (steps + 1) (c :: tail) = some (value, rest)) :
    Splits readValue? Braced EndsAt (c :: tail) value rest := by
  simp only [readValue?, skipSpace_of_head solid] at read
  split at read
  · next same =>
      cases read
      rw [same]
      exact .of_taken ['n', 'u', 'l', 'l'] (by simp) nofun fun _ _ _ _ => rfl
  · next same =>
      cases read
      rw [same]
      exact .of_taken ['t', 'r', 'u', 'e'] (by simp) nofun fun _ _ _ _ => rfl
  · next same =>
      cases read
      rw [same]
      exact .of_taken ['f', 'a', 'l', 's', 'e'] (by simp) nofun fun _ _ _ _ => rfl
  · next after same =>
      simp only [Option.map_eq_some_iff, Prod.exists, Prod.mk.injEq] at read
      obtain ⟨glyphs, _, reads, rfl, rfl⟩ := read
      obtain ⟨taken, rfl, _, takes⟩ := Glyph.read?_takes reads
      rw [same]
      refine .of_taken ('"' :: taken) (by simp) nofun fun more _ other _ => ?_
      simp [readValue?, skipSpace_of_head, isSpace, takes other trivial]
  · next after same =>
      rw [same]
      split at read
      · next closed =>
          cases read
          obtain ⟨space, blank, _, rfl⟩ := skipSpace_eq closed
          have braced : Braced (.array []) ('[' :: (space ++ [']'])) := nofun
          exact splits_opened braced
            (fun more _ other => readValue?_array blank more other) _
      · next filled =>
          simp only [Option.map_eq_some_iff, Prod.exists, Prod.mk.injEq] at read
          obtain ⟨found, _, reads, rfl, rfl⟩ := read
          exact splits_array items filled reads
  · next after same =>
      rw [same]
      split at read
      · next closed =>
          cases read
          obtain ⟨space, blank, _, rfl⟩ := skipSpace_eq closed
          have braced : Braced (.object []) ('{' :: (space ++ ['}'])) :=
            fun _ _ => ⟨rfl, getLast?_cons_append rfl⟩
          exact splits_opened braced
            (fun more _ other => readValue?_object blank more other) _
      · next filled =>
          simp only [Option.map_eq_some_iff, Prod.exists, Prod.mk.injEq] at read
          obtain ⟨found, _, reads, rfl, rfl⟩ := read
          exact splits_object members filled reads
  · simp only [Option.map_eq_some_iff, Prod.exists, Prod.mk.injEq] at read
    obtain ⟨numeral, _, reads, rfl, rfl⟩ := read
    obtain ⟨taken, same, ⟨d, first, starts⟩, takes⟩ := Numeral.read?_takes reads
    rw [same]
    cases taken with
    | nil => cases first
    | cons head taken =>
        cases first
        refine .of_taken _ (by simp) nofun fun more _ other ends => ?_
        rw [List.cons_append, readValue?_numeral starts, ← List.cons_append,
          takes other (ends numeral rfl)]
        rfl

/-- Space before a value makes no difference. -/
theorem reads_value (items : ReadsItems steps) (members : ReadsMembers steps) :
    ReadsValue (steps + 1) := by
  intro text value rest read
  cases skipped : skipSpace text with
  | nil =>
      simp only [readValue?, skipped] at read
      cases read
  | cons c tail =>
      obtain ⟨space, blank, solid, rfl⟩ := skipSpace_eq skipped
      rw [readValue?_space blank] at read
      obtain ⟨taken, same, long, braced, takes⟩ := splits_solid items members solid read
      refine ⟨space ++ taken, by rw [same, List.append_assoc], ?_, fun found object => ?_,
        fun more enough other ends => ?_⟩
      · rw [List.length_append]
        omega
      · obtain ⟨opened, closed⟩ := braced found object
        rw [skipSpace_append blank]
        exact ⟨opened, by simp [closed]⟩
      · rw [List.length_append] at enough
        rw [List.append_assoc, readValue?_space blank]
        exact takes more (by omega) other ends

/-- A value that is read in so many steps, and with it the items and members in it: by induction on
the steps, since each reader calls the others with one step less. -/
theorem reads (steps : Nat) :
    ReadsValue steps ∧ ReadsItems steps ∧ ReadsMembers steps := by
  induction steps with
  | zero =>
      refine ⟨fun _ _ _ read => ?_, fun _ _ _ read => ?_, fun _ _ _ read => ?_⟩
      · cases read
      · cases read
      · cases read
  | succ steps ih =>
      obtain ⟨values, items, members⟩ := ih
      exact ⟨reads_value items members, reads_items values items, reads_members values members⟩

theorem readValue?_takes {value : Written} (read : readValue? steps text = some (value, rest)) :
    Splits readValue? Braced EndsAt text value rest :=
  (reads steps).1 text value rest read

/-! ### Whole texts -/

theorem skipSpace_eq_nil_iff : skipSpace text = [] ↔ ∀ c ∈ text, isSpace c = true :=
  List.dropWhile_eq_nil_iff

/-- `Whole text value`: the text is one value, and read wherever it stands. -/
def Whole (text : List Char) (value : Written) : Prop :=
  ∀ steps, 2 * text.length ≤ steps → Takes (readValue? steps) (EndsAt value) text value

/-- A text that is read is a value and space. -/
theorem read?_takes {value : Written} (read : read? text = some value) :
    ∃ taken space, text = taken ++ space ∧ (∀ c ∈ space, isSpace c = true) ∧
      Braced value taken ∧ Whole taken value := by
  simp only [read?, Option.bind_eq_bind, Option.bind_eq_some_iff, Prod.exists,
    Option.ite_none_right_eq_some, List.isEmpty_iff, Option.some.injEq] at read
  obtain ⟨_, rest, first, blank, rfl⟩ := read
  obtain ⟨taken, same, _, braced, takes⟩ := readValue?_takes first
  exact ⟨taken, rest, same, skipSpace_eq_nil_iff.mp blank, braced, takes⟩

/-- Space before a value is not part of it. -/
theorem Whole.of_space {value : Written} (blank : ∀ c ∈ space, isSpace c = true)
    (whole : Whole (space ++ text) value) : Whole text value := by
  have all := whole _ (Nat.le_refl _) [] fun _ _ => Numeral.ends_nil
  rw [List.append_nil, readValue?_space blank] at all
  obtain ⟨taken, same, _, _, takes⟩ := readValue?_takes all
  rw [List.append_nil] at same
  rw [same]
  exact takes

theorem Whole.read?_eq {value : Written} (whole : Whole text value) : read? text = some value := by
  have all := whole (2 * text.length + 2) (by omega) [] fun _ _ => Numeral.ends_nil
  rw [List.append_nil] at all
  unfold read?
  rw [all]
  rfl

end Written

namespace Json

/-- An object stands between braces, with nothing but space around it. -/
theorem object_of_parse? {text : List Char} {members : List (String × Json)}
    (read : parse? text = some (.object members)) :
    ∃ before object after, text = before ++ (object ++ after) ∧
      (∀ c ∈ before, Written.isSpace c = true) ∧ (∀ c ∈ after, Written.isSpace c = true) ∧
      object.head? = some '{' ∧ object.getLast? = some '}' ∧
      parse? object = some (.object members) := by
  simp only [parse?, Option.bind_eq_bind, Option.bind_eq_some_iff] at read
  obtain ⟨written, reads, value⟩ := read
  obtain ⟨found, rfl⟩ := Written.object_of_value? value
  obtain ⟨taken, after, rfl, blank, braced, whole⟩ := Written.read?_takes reads
  obtain ⟨opens, closes⟩ := braced found rfl
  obtain ⟨tail, skipped⟩ := List.head?_eq_some_iff.mp opens
  obtain ⟨before, white, _, rfl⟩ := Written.skipSpace_eq skipped
  refine ⟨before, '{' :: tail, after, List.append_assoc .., white, blank, rfl, ?_, ?_⟩
  · simpa using closes
  · simp only [parse?, (whole.of_space white).read?_eq, Option.bind_eq_bind, Option.bind_some,
      value]

end Json

end Intercom
