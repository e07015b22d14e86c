import Mathlib
import Intercom.Url

/-!
# Pairs in a query

What the pairs of a query are that is taken from the text of a URL, and of one to which pairs are
appended. Names and values may hold any character: those that have a meaning in a URL or in a form
are encoded, so that none of them ends a name, a value or the query.

Results:
1. `Percent.decodeForm_encodeForm`: a name or a value is read as it was given.
2. `queryPairs_appendPair`: a pair that is appended comes after the pairs that are there.
3. `formPairs_encode`: to encode what may not stand in a query leaves its pairs as they are.
-/

namespace Intercom.Url

namespace Percent

/-! ## Bytes -/

/-- The value of a byte as a hexadecimal digit. -/
def digit? (b : UInt8) : Option Nat :=
  Text.digitValue? (Char.ofUInt8 b)

/-- The byte that two hexadecimal digits at the start of bytes stand for. -/
def hexByte? : List UInt8 → Option UInt8
  | high :: low :: _ =>
      match digit? high, digit? low with
      | some a, some b => some (UInt8.ofNat (a * 16 + b))
      | _, _ => none
  | _ => none

/-- The bytes that a byte is encoded to. -/
def coded (b : UInt8) : List UInt8 :=
  (byte b).flatMap String.utf8EncodeChar

/-- `Hides raw written`: some bytes are written as they are, the others encoded. None of the latter
is a percent sign or a digit, so that no encoded byte is made of them. -/
inductive Hides : List UInt8 → List UInt8 → Prop where
  | nil : Hides [] []
  | plain {raw written : List UInt8} (b : UInt8) :
      Hides raw written → Hides (b :: raw) (b :: written)
  | coded {raw written : List UInt8} {b : UInt8} : b ≠ 0x25 → digit? b = none →
      Hides raw written → Hides (b :: raw) (coded b ++ written)

variable {raw written rest : List UInt8} {b : UInt8}

theorem decodeBytes_percent (rest : List UInt8) :
    decodeBytes (0x25 :: rest) =
      match hexByte? rest with
      | some b => b :: decodeBytes (rest.drop 2)
      | none => 0x25 :: decodeBytes rest := by
  match rest with
  | [] => rfl
  | [_] => rfl
  | high :: low :: rest =>
      rw [decodeBytes, hexByte?]
      unfold digit?
      cases Text.digitValue? (Char.ofUInt8 high) with
      | none => rfl
      | some => cases Text.digitValue? (Char.ofUInt8 low) <;> rfl

theorem decodeBytes_cons (other : b ≠ 0x25) (rest : List UInt8) :
    decodeBytes (b :: rest) = b :: decodeBytes rest := by
  rw [decodeBytes]
  exact fun _ _ _ same _ => other same

theorem utf8EncodeChar_of_lt {c : Char} (ascii : c.toNat < 0x80) :
    String.utf8EncodeChar c = [UInt8.ofNat c.toNat] :=
  if_pos (Nat.le_of_lt_succ ascii)

theorem upperDigit_lt {n : Nat} (small : n < 16) : (Text.upperDigit n).toNat < 0x80 := by
  have all : ∀ m ∈ List.range 16, (Text.upperDigit m).toNat < 0x80 := by decide
  exact all n (List.mem_range.mpr small)

theorem digit?_upperDigit {n : Nat} (small : n < 16) :
    digit? (UInt8.ofNat (Text.upperDigit n).toNat) = some n := by
  have all : ∀ m ∈ List.range 16, digit? (UInt8.ofNat (Text.upperDigit m).toNat) = some m := by
    decide
  exact all n (List.mem_range.mpr small)

theorem coded_eq (b : UInt8) :
    coded b = [0x25, UInt8.ofNat (Text.upperDigit (b.toNat / 16)).toNat,
      UInt8.ofNat (Text.upperDigit (b.toNat % 16)).toNat] := by
  have bound := b.toNat_lt
  have high : b.toNat / 16 < 16 := by omega
  have low : b.toNat % 16 < 16 := by omega
  simp only [coded, byte, List.flatMap_cons, List.flatMap_nil,
    utf8EncodeChar_of_lt (upperDigit_lt high), utf8EncodeChar_of_lt (upperDigit_lt low)]
  rfl

/-- An encoded byte is read back. -/
theorem decodeBytes_coded (b : UInt8) (rest : List UInt8) :
    decodeBytes (coded b ++ rest) = b :: decodeBytes rest := by
  have bound := b.toNat_lt
  have value : b.toNat / 16 * 16 + b.toNat % 16 = b.toNat := by omega
  rw [coded_eq, List.cons_append, decodeBytes_percent]
  simp only [List.cons_append, List.nil_append, hexByte?,
    digit?_upperDigit (show b.toNat / 16 < 16 by omega),
    digit?_upperDigit (show b.toNat % 16 < 16 by omega), value, UInt8.ofNat_toNat]
  rfl

namespace Hides

theorem refl (bytes : List UInt8) : Hides bytes bytes := by
  induction bytes with
  | nil => exact .nil
  | cons b _ ih => exact .plain b ih

theorem append {raw' written' : List UInt8} (front : Hides raw written)
    (back : Hides raw' written') : Hides (raw ++ raw') (written ++ written') := by
  induction front with
  | nil => exact back
  | plain b _ ih => exact .plain b ih
  | coded other undigit _ ih =>
      rw [List.append_assoc]
      exact .coded other undigit ih

theorem hexByte?_high (undigit : digit? b = none) (rest : List UInt8) :
    hexByte? (b :: rest) = none := by
  cases rest with
  | nil => rfl
  | cons => simp only [hexByte?, undigit]

theorem hexByte?_low (undigit : digit? b = none) (high : UInt8) (rest : List UInt8) :
    hexByte? (high :: b :: rest) = none := by
  simp only [hexByte?, undigit]
  cases digit? high <;> rfl

/-- No digits come to stand after a percent sign that did not stand there, nor do any go away. -/
theorem hexByte?_eq (hides : Hides raw written) : hexByte? written = hexByte? raw := by
  cases hides with
  | nil => rfl
  | coded _ undigit =>
      rw [coded_eq, hexByte?_high undigit]
      rfl
  | plain high hides =>
      cases hides with
      | nil => rfl
      | plain => rfl
      | coded _ undigit =>
          rw [coded_eq, hexByte?_low undigit]
          exact hexByte?_low rfl high _

/-- Two digits are written as they are. -/
theorem drop_two {b : UInt8} (hides : Hides raw written) (hex : hexByte? raw = some b) :
    Hides (raw.drop 2) (written.drop 2) := by
  cases hides with
  | nil => cases hex
  | coded _ undigit =>
      rw [hexByte?_high undigit] at hex
      cases hex
  | plain high hides =>
      cases hides with
      | nil => cases hex
      | plain _ hides => exact hides
      | coded _ undigit =>
          rw [hexByte?_low undigit] at hex
          cases hex

/-- What is encoded and what is written as it is both read as the raw bytes. -/
theorem decodeBytes_eq (hides : Hides raw written) : decodeBytes written = decodeBytes raw := by
  induction size : raw.length using Nat.strongRecOn generalizing raw written with
  | ind n ih =>
      cases hides with
      | nil => rfl
      | coded other _ hides =>
          rw [decodeBytes_coded, decodeBytes_cons other, ih _ (by simp [← size]) hides rfl]
      | @plain raw written b hides =>
          by_cases percent : b = 0x25
          · subst percent
            rw [decodeBytes_percent, decodeBytes_percent, hides.hexByte?_eq]
            cases hex : hexByte? raw with
            | none => simp only [ih _ (by simp [← size]) hides rfl]
            | some byte =>
                have shorter : (raw.drop 2).length < n := by
                  rw [List.length_drop, ← size, List.length_cons]
                  omega
                simp only [ih _ shorter (hides.drop_two hex) rfl]
          · rw [decodeBytes_cons percent, decodeBytes_cons percent,
              ih _ (by simp [← size]) hides rfl]

end Hides

/-! ## Names and values -/

/-- The bytes of a name or a value in a form; a plus sign is a space. -/
def formBytes (text : List Char) : List UInt8 :=
  (text.map fun c => if c = '+' then ' ' else c).flatMap String.utf8EncodeChar

theorem formBytes_append (front back : List Char) :
    formBytes (front ++ back) = formBytes front ++ formBytes back := by
  simp [formBytes]

theorem formBytes_singleton {c : Char} (other : c ≠ '+') :
    formBytes [c] = String.utf8EncodeChar c := by
  simp [formBytes, other]

/-- No plus sign comes of an encoded byte. -/
theorem formBytes_byte (bytes : List UInt8) :
    formBytes (bytes.flatMap byte) = bytes.flatMap coded := by
  induction bytes with
  | nil => rfl
  | cons b rest ih =>
      have same : (byte b).map (fun c => if c = '+' then ' ' else c) = byte b := by
        refine (List.map_congr_left fun c member => if_neg ?_).trans (List.map_id _)
        rintro rfl
        rcases byte_allowed member with percent | alphanumeric
        · exact absurd percent (by decide)
        · exact absurd alphanumeric (by decide)
      rw [List.flatMap_cons, formBytes_append, ih, List.flatMap_cons, formBytes, same, coded]

theorem decodeBytes_flatMap_coded (bytes rest : List UInt8) :
    decodeBytes (bytes.flatMap coded ++ rest) = bytes ++ decodeBytes rest := by
  induction bytes with
  | nil => rfl
  | cons b _ ih =>
      rw [List.flatMap_cons, List.append_assoc, decodeBytes_coded, ih, List.cons_append]

theorem lt_of_inForm {c : Char} (stands : inForm c = true) : c.toNat < 0x80 := by
  simp only [inForm, Char.isAlphanum, Char.isAlpha, Char.isUpper, Char.isLower, Char.isDigit,
    Bool.or_eq_true, Bool.and_eq_true, decide_eq_true_eq] at stands
  rcases stands with ((upper | lower) | digit) | mark
  · exact Nat.lt_of_le_of_lt (UInt32.le_iff_toNat_le.mp upper.2) (by decide)
  · exact Nat.lt_of_le_of_lt (UInt32.le_iff_toNat_le.mp lower.2) (by decide)
  · exact Nat.lt_of_le_of_lt (UInt32.le_iff_toNat_le.mp digit.2) (by decide)
  · have marks : "*-._".toList = ['*', '-', '.', '_'] := rfl
    simp only [marks, List.contains_iff_mem, List.mem_cons, List.not_mem_nil, or_false] at mark
    rcases mark with rfl | rfl | rfl | rfl <;> decide

theorem ofNat_toNat_ne {c : Char} (ascii : c.toNat < 0x80) (other : c ≠ '%') :
    UInt8.ofNat c.toNat ≠ 0x25 := by
  intro same
  have value := congrArg UInt8.toNat same
  rw [Text.Utf8.toNat_ofNat (by omega)] at value
  exact other (Char.toNat_inj.mp value)

/-- A character of a name or a value is read as it was given, whatever follows. -/
theorem decodeBytes_encodeForm_singleton (c : Char) (rest : List UInt8) :
    decodeBytes (formBytes (encodeForm [c]) ++ rest) =
      String.utf8EncodeChar c ++ decodeBytes rest := by
  rw [encodeForm, List.flatMap_singleton]
  by_cases space : c = ' '
  · subst space
    rw [if_pos rfl]
    exact decodeBytes_cons (by decide) rest
  · rw [if_neg space, encodeChar]
    split
    · next stands =>
        have ascii := lt_of_inForm stands
        have apart {mark : Char} (reserved : inForm mark = false) : c ≠ mark := by
          rintro rfl
          exact Bool.false_ne_true (reserved.symm.trans stands)
        have percent := ofNat_toNat_ne ascii (apart (by decide))
        rw [formBytes_singleton (apart (by decide)), utf8EncodeChar_of_lt ascii,
          List.singleton_append, decodeBytes_cons percent]
        rfl
    · rw [formBytes_byte, decodeBytes_flatMap_coded]

/-- A name or a value is read as it was given. -/
theorem decodeForm_encodeForm (text : List Char) : decodeForm (encodeForm text) = text := by
  have read : decodeBytes (formBytes (encodeForm text)) = text.flatMap String.utf8EncodeChar := by
    induction text with
    | nil => rfl
    | cons c rest ih =>
        have first : encodeForm (c :: rest) = encodeForm [c] ++ encodeForm rest := by
          simp [encodeForm]
        rw [first, formBytes_append, decodeBytes_encodeForm_singleton, ih, List.flatMap_cons]
  show Text.Utf8.decode (decodeBytes (formBytes _)) = text
  rw [read, Text.Utf8.decode_encoded]

theorem digit?_of_le (wide : 0x80 ≤ b.toNat) : digit? b = none := by
  have above {c : Char} (ascii : c.toNat < 0x80) : ¬ Char.ofUInt8 b ≤ c := by
    intro below
    have value : b.toNat ≤ c.toNat := UInt32.le_iff_toNat_le.mp below
    omega
  have nine := above (show '9'.toNat < 0x80 by decide)
  have lower := above (show 'f'.toNat < 0x80 by decide)
  have upper := above (show 'F'.toNat < 0x80 by decide)
  simp only [digit?, Text.digitValue?, nine, lower, upper, and_false, if_false]

theorem le_of_mem_utf8EncodeChar {c : Char} (wide : 0x80 ≤ c.toNat)
    (member : b ∈ String.utf8EncodeChar c) : 0x80 ≤ b.toNat := by
  have value : 0x80 ≤ c.val.toNat := wide
  have valid : c.val.toNat < 0xD800 ∨ 0xDFFF < c.val.toNat ∧ c.val.toNat < 0x110000 := c.valid
  have byte {n : Nat} (low : 0x80 ≤ n) (high : n < 0x100) : 0x80 ≤ (UInt8.ofNat n).toNat := by
    rwa [Text.Utf8.toNat_ofNat high]
  unfold String.utf8EncodeChar at member
  generalize c.val.toNat = v at member value valid
  rw [if_neg (by omega)] at member
  split at member
  · simp only [List.mem_cons, List.not_mem_nil, or_false] at member
    rcases member with rfl | rfl <;> exact byte (by omega) (by omega)
  · split at member
    · simp only [List.mem_cons, List.not_mem_nil, or_false] at member
      rcases member with rfl | rfl | rfl <;> exact byte (by omega) (by omega)
    · simp only [List.mem_cons, List.not_mem_nil, or_false] at member
      rcases member with rfl | rfl | rfl | rfl <;> exact byte (by omega) (by omega)

/-- The bytes that are encoded in a query are neither percent signs nor digits. -/
theorem undigit_of_hidden {c : Char} (hidden : inSpecialQuery c = false)
    (member : b ∈ String.utf8EncodeChar c) : b ≠ 0x25 ∧ digit? b = none := by
  by_cases ascii : c.toNat < 0x80
  · have all : ∀ n ∈ List.range 0x80, inSpecialQuery (Char.ofNat n) = false →
        UInt8.ofNat n ≠ 0x25 ∧ digit? (UInt8.ofNat n) = none := by
      decide +kernel
    rw [utf8EncodeChar_of_lt ascii, List.mem_singleton] at member
    rw [member]
    refine all c.toNat (List.mem_range.mpr ascii) ?_
    rwa [Char.ofNat_toNat]
  · have wide := le_of_mem_utf8EncodeChar (Nat.le_of_not_lt ascii) member
    refine ⟨?_, digit?_of_le wide⟩
    rintro rfl
    exact absurd wide (by decide)

theorem hides_coded (bytes : List UInt8) (undigit : ∀ b ∈ bytes, b ≠ 0x25 ∧ digit? b = none) :
    Hides bytes (bytes.flatMap coded) := by
  induction bytes with
  | nil => exact .nil
  | cons b rest ih =>
      obtain ⟨percent, none⟩ := undigit b List.mem_cons_self
      rw [List.flatMap_cons]
      exact .coded percent none (ih fun b member => undigit b (List.mem_cons_of_mem _ member))

theorem hides_encode (text : List Char) :
    Hides (formBytes text) (formBytes (encode inSpecialQuery text)) := by
  induction text with
  | nil => exact .nil
  | cons c rest ih =>
      rw [encode, List.flatMap_cons, formBytes_append, ← List.singleton_append, formBytes_append]
      refine .append ?_ ih
      cases stands : inSpecialQuery c with
      | true =>
          rw [encodeChar, if_pos stands]
          exact .refl _
      | false =>
          have unplus : c ≠ '+' := by
            rintro rfl
            exact absurd stands (by decide)
          rw [encodeChar, if_neg (by simp [stands]), formBytes_byte, formBytes_singleton unplus]
          exact hides_coded _ fun b member => undigit_of_hidden stands member

/-- What may not stand in a query is read alike, encoded or not. -/
theorem decodeForm_encode (text : List Char) :
    decodeForm (encode inSpecialQuery text) = decodeForm text :=
  congrArg Text.Utf8.decode (hides_encode text).decodeBytes_eq

end Percent

/-! ## Parts -/

section Parts

variable {written : Char → List Char} {mark : Char}

/-- Characters other than the mark do not move where a text is cut. -/
theorem cut_append {front : List Char} (free : mark ∉ front) (text : List Char) :
    cut (· == mark) (front ++ text) = (cut (· == mark) text).modifyHead (front ++ ·) := by
  unfold cut
  induction front with
  | nil => exact (congrFun List.modifyHead_id _).symm
  | cons c rest ih =>
      rw [List.mem_cons, not_or] at free
      rw [List.cons_append, List.splitOnP_cons_eq_if_modifyHead,
        if_neg (by simpa using Ne.symm free.1), ih free.2, List.modifyHead_modifyHead]
      rfl

theorem all_ne {front : List Char} (free : mark ∉ front) : ∀ c ∈ front, (c != mark) = true := by
  intro c member
  rw [bne_iff_ne]
  rintro rfl
  exact free member

variable (kept : written mark = [mark]) (apart : ∀ c, c ≠ mark → mark ∉ written c)

include kept apart

/-- If the mark is written as itself, and in nothing else, then a text is cut as before. -/
theorem cut_flatMap (text : List Char) :
    cut (· == mark) (text.flatMap written) =
      (cut (· == mark) text).map fun part => part.flatMap written := by
  induction text with
  | nil => rfl
  | cons c rest ih =>
      rw [List.flatMap_cons]
      by_cases ends : c = mark
      · subst ends
        rw [kept, List.singleton_append]
        unfold cut at ih ⊢
        simp only [List.splitOnP_cons_eq_if_modifyHead, beq_self_eq_true, if_true, ih,
          List.map_cons, List.flatMap_nil]
      · rw [cut_append (apart c ends), ih]
        unfold cut
        rw [List.splitOnP_cons_eq_if_modifyHead, if_neg (by simpa using ends)]
        cases List.splitOnP (· == mark) rest <;> simp

theorem takeWhile_flatMap (text : List Char) :
    (text.flatMap written).takeWhile (· != mark) =
      (text.takeWhile (· != mark)).flatMap written := by
  induction text with
  | nil => rfl
  | cons c rest ih =>
      rw [List.flatMap_cons]
      by_cases ends : c = mark
      · subst ends
        simp [kept]
      · rw [List.takeWhile_append_of_pos (all_ne (apart c ends)), ih,
          List.takeWhile_cons_of_pos (by simpa using ends), List.flatMap_cons]

theorem drop_flatMap (text : List Char) :
    ((text.flatMap written).dropWhile (· != mark)).drop 1 =
      ((text.dropWhile (· != mark)).drop 1).flatMap written := by
  induction text with
  | nil => rfl
  | cons c rest ih =>
      rw [List.flatMap_cons]
      by_cases ends : c = mark
      · subst ends
        simp [kept]
      · rw [List.dropWhile_append_of_pos (all_ne (apart c ends)), ih,
          List.dropWhile_cons_of_pos (by simpa using ends)]

end Parts

namespace Percent

/-- No encoded byte holds a mark, so a character holds it only if it is the mark and stands. -/
theorem not_mem_encodeChar {stands : Char → Bool} {mark c : Char}
    (reserved : mark ≠ '%' ∧ mark.isAlphanum = false) (other : stands mark = true → c ≠ mark) :
    mark ∉ encodeChar stands c := by
  intro member
  unfold encodeChar at member
  split at member
  · next stands =>
      obtain rfl := List.mem_singleton.mp member
      exact other stands rfl
  · obtain ⟨b, _, member⟩ := List.mem_flatMap.mp member
    rcases byte_allowed member with percent | alphanumeric
    · exact reserved.1 percent
    · exact Bool.false_ne_true (reserved.2.symm.trans alphanumeric)

theorem not_mem_encodeForm {mark : Char} (reserved : mark ≠ '%' ∧ mark.isAlphanum = false)
    (foreign : inForm mark = false ∧ mark ≠ '+') (text : List Char) : mark ∉ encodeForm text := by
  intro member
  obtain ⟨c, _, member⟩ := List.mem_flatMap.mp member
  split at member
  · exact foreign.2 (List.mem_singleton.mp member)
  · refine not_mem_encodeChar reserved (fun stands => ?_) member
    exact absurd (foreign.1.symm.trans stands) Bool.false_ne_true

theorem encodeChar_ne_nil (stands : Char → Bool) (c : Char) : encodeChar stands c ≠ [] := by
  have bytes : 0 < (String.utf8EncodeChar c).length := by
    rw [String.length_utf8EncodeChar]
    exact c.utf8Size_pos
  unfold encodeChar
  split
  · exact List.cons_ne_nil _ _
  · cases first : String.utf8EncodeChar c with
    | nil => simp [first] at bytes
    | cons => exact List.cons_ne_nil _ _

theorem encode_eq_nil {stands : Char → Bool} {text : List Char} :
    encode stands text = [] ↔ text = [] := by
  rw [encode, List.flatMap_eq_nil_iff, List.eq_nil_iff_forall_not_mem]
  exact forall_congr' fun c => imp_congr_right fun _ => iff_false_intro (encodeChar_ne_nil stands c)

end Percent

/-! ## Pairs -/

theorem formPairs_append (front back : List Char) :
    formPairs (front ++ '&' :: back) = formPairs front ++ formPairs back := by
  unfold formPairs cut
  rw [List.splitOnP_append_cons _ _ (by rfl), List.filter_append, List.map_append]

theorem formPair_encode (part : List Char) :
    formPair (Percent.encode Percent.inSpecialQuery part) = formPair part := by
  have kept : Percent.encodeChar Percent.inSpecialQuery '=' = ['='] := by decide
  have apart (c : Char) (other : c ≠ '=') :=
    @Percent.not_mem_encodeChar Percent.inSpecialQuery '=' c (by decide) fun _ => other
  unfold formPair
  rw [Percent.encode, takeWhile_flatMap kept apart, drop_flatMap kept apart]
  exact congrArg₂ (fun name value => (String.ofList name, String.ofList value))
    (Percent.decodeForm_encode _) (Percent.decodeForm_encode _)

/-- To encode what may not stand in a query leaves its pairs as they are. -/
theorem formPairs_encode (text : List Char) :
    formPairs (Percent.encode Percent.inSpecialQuery text) = formPairs text := by
  have kept : Percent.encodeChar Percent.inSpecialQuery '&' = ['&'] := by decide
  have apart (c : Char) (other : c ≠ '&') :=
    @Percent.not_mem_encodeChar Percent.inSpecialQuery '&' c (by decide) fun _ => other
  unfold formPairs
  rw [Percent.encode, cut_flatMap kept apart, List.filter_map, List.map_map]
  refine congrArg₂ List.map (funext formPair_encode) (List.filter_congr fun part _ => ?_)
  refine congrArg Bool.not (Bool.eq_iff_iff.mpr ?_)
  rw [List.isEmpty_iff, List.isEmpty_iff]
  exact Percent.encode_eq_nil

/-- Neither `&` nor `=` stands in an encoded name or value, so a pair is read as it was given. -/
theorem formPairs_pairText (name value : String) :
    formPairs (pairText name value).toList = [(name, value)] := by
  have plain (text : List Char) : '=' ∉ Percent.encodeForm text :=
    Percent.not_mem_encodeForm (by decide) (by decide) text
  have whole (text : List Char) : '&' ∉ Percent.encodeForm text :=
    Percent.not_mem_encodeForm (by decide) (by decide) text
  have pair : formPair (pairText name value).toList = (name, value) := by
    unfold formPair pairText
    rw [String.toList_ofList, List.takeWhile_append_of_pos (all_ne (plain _)),
      List.dropWhile_append_of_pos (all_ne (plain _))]
    simp [Percent.decodeForm_encodeForm]
  have uncut : cut (· == '&') (pairText name value).toList = [(pairText name value).toList] := by
    refine List.splitOnP_eq_singleton fun c member => ?_
    rw [beq_eq_false_iff_ne]
    rintro rfl
    simp [pairText, whole] at member
  have filled : (pairText name value).toList.isEmpty = false := by
    simp [pairText]
  simp [formPairs, uncut, filled, pair]

/-- A pair that is appended comes after the pairs that are there. -/
theorem queryPairs_appendPair (url : Url) (name value : String) :
    (url.appendPair name value).queryPairs = url.queryPairs ++ [(name, value)] := by
  unfold queryPairs appendPair
  dsimp only
  split
  · next absent =>
      rw [absent]
      exact formPairs_pairText name value
  · next blank =>
      rw [blank]
      exact formPairs_pairText name value
  · next query _ stands =>
      have amp : ("&" : String).toList = ['&'] := rfl
      rw [stands, Option.getD_some, Option.getD_some, String.toList_append, String.toList_append,
        amp, List.append_assoc, List.singleton_append, formPairs_append, formPairs_pairText]

end Intercom.Url
