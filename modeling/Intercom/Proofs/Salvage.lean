import Mathlib
import Intercom.Message.Frame
import Intercom.Proofs.Reading

/-!
# The object in a frame

A frame is read as JSON, and if it is not JSON, then what stands between its first and its last
brace is. `Embeds` says that an object stands in a text with no brace around it that would be taken
for its own. Such an object is found, whatever stands around it, unless the text as a whole is JSON
of another kind; and nothing else than such an object is ever found.

Results:
1. `between_of_braced?`, `Between.braced?_eq`: what is cut out of a text.
2. `objectOf_eq`: an embedded object is the object of the text.
3. `embeds_of_objectOf`: the object of a text is embedded in it.
4. `decode_embedded`: the message in a frame is the one in the object that is embedded in it.
-/

namespace Intercom

/-! ## Definitions -/

/-- `Between text before object after`: the object goes from the first opening to the last closing
brace of the text. -/
structure Between (text before object after : List Char) : Prop where
  parts : text = before ++ (object ++ after)
  unopened : '{' ∉ before
  unclosed : '}' ∉ after
  opens : object.head? = some '{'
  closes : object.getLast? = some '}'

/-- What stands between is read as an object. -/
structure Embeds (text before object after : List Char) : Prop extends
    Between text before object after where
  read : ∃ members, Json.parse? object = some (.object members)

/-- The text is JSON, but no object. -/
def Json.IsOther (text : List Char) (value : Json) : Prop :=
  Json.parse? text = some value ∧ ∀ members, value ≠ .object members

/-! ## What stands between the braces -/

namespace Between

variable {text before object after : List Char}

theorem head_eq (between : Between text before object after) : ∃ tail, object = '{' :: tail :=
  List.head?_eq_some_iff.mp between.opens

theorem brace_mem (between : Between text before object after) : '{' ∈ text := by
  obtain ⟨tail, rfl⟩ := between.head_eq
  rw [between.parts]
  simp

end Between

namespace Message

variable {text before object after : List Char}

theorem dropWhile_unopened {tail : List Char} (unopened : '{' ∉ before) :
    (before ++ '{' :: tail).dropWhile (· != '{') = '{' :: tail := by
  rw [List.dropWhile_append_of_pos, List.dropWhile_cons_of_neg (by simp)]
  intro c taken
  rw [bne_iff_ne]
  rintro rfl
  exact unopened taken

theorem dropWhile_unclosed (unclosed : '}' ∉ after) (closes : object.getLast? = some '}') :
    ((object ++ after).reverse.dropWhile (· != '}')).reverse = object := by
  obtain ⟨init, rfl⟩ := List.getLast?_eq_some_iff.mp closes
  rw [List.reverse_append, List.dropWhile_append_of_pos, List.reverse_append,
    List.reverse_singleton, List.singleton_append, List.dropWhile_cons_of_neg (by simp),
    List.reverse_cons, List.reverse_reverse]
  intro c taken
  rw [bne_iff_ne]
  rintro rfl
  exact unclosed (List.mem_reverse.mp taken)

/-- What is dropped holds no mark, and what is left starts with one. -/
theorem dropWhile_mark (mark : Char) (text : List Char) :
    ∃ dropped, text = dropped ++ text.dropWhile (· != mark) ∧ mark ∉ dropped ∧
      ∀ c ∈ (text.dropWhile (· != mark)).head?, c = mark := by
  refine ⟨text.takeWhile (· != mark), List.takeWhile_append_dropWhile.symm, fun taken => ?_,
    fun c first => ?_⟩
  · have differs := List.all_eq_true.mp List.all_takeWhile mark taken
    simp at differs
  · have stops := List.head?_dropWhile_not (· != mark) text
    rw [Option.mem_def] at first
    rw [first] at stops
    simpa using stops

theorem between_of_braced? (cut : braced? text = some object) :
    ∃ before after, Between text before object after := by
  obtain ⟨before, split, unopened, opens⟩ := dropWhile_mark '{' text
  unfold braced? at cut
  dsimp only at cut
  generalize text.dropWhile (· != '{') = found at split opens cut
  obtain ⟨after, turned, unclosed, closes⟩ := dropWhile_mark '}' found.reverse
  generalize found.reverse.dropWhile (· != '}') = last at turned closes cut
  have parts : found = last.reverse ++ after.reverse := by
    rw [← List.reverse_append, ← turned, List.reverse_reverse]
  cases last with
  | nil => cases cut
  | cons c last =>
      have same : (c :: last).reverse = object := by
        simpa using cut
      cases closes c rfl
      rw [same] at parts
      refine ⟨before, after.reverse, by rw [split, parts], unopened,
        fun taken => unclosed (List.mem_reverse.mp taken), ?_, ?_⟩
      · cases object with
        | nil => simp at same
        | cons d object =>
            rw [parts] at opens
            cases opens d rfl
            rfl
      · rw [← same, List.reverse_cons, List.getLast?_concat]

end Message

namespace Between

variable {text before object after : List Char}

theorem braced?_eq (between : Between text before object after) :
    Message.braced? text = some object := by
  obtain ⟨tail, same⟩ := between.head_eq
  have first : text.dropWhile (· != '{') = object ++ after := by
    rw [between.parts, same, List.cons_append, Message.dropWhile_unopened between.unopened]
  unfold Message.braced?
  dsimp only
  rw [first, Message.dropWhile_unclosed between.unclosed between.closes, same]
  rfl

/-- What stands between the braces of a text is determined by the text. -/
theorem object_unique {start other finish : List Char}
    (between : Between text before object after) (again : Between text start other finish) :
    object = other :=
  Option.some.inj (between.braced?_eq.symm.trans again.braced?_eq)

end Between

/-! ## The object of a frame -/

namespace Message

variable {text before object after : List Char}

/-- Space holds no brace. -/
theorem not_mem_of_space {mark : Char} (solid : Written.isSpace mark = false)
    (blank : ∀ c ∈ text, Written.isSpace c = true) : mark ∉ text := by
  intro taken
  rw [blank mark taken] at solid
  cases solid

/-- A text whose value is an object embeds that object. -/
theorem embeds_of_parse? {members : List (String × Json)}
    (read : Json.parse? text = some (.object members)) :
    ∃ before object after, Embeds text before object after ∧
      (∀ c ∈ before, Written.isSpace c = true) ∧ (∀ c ∈ after, Written.isSpace c = true) ∧
      Json.parse? object = some (.object members) := by
  obtain ⟨before, object, after, parts, blank, white, opens, closes, reads⟩ :=
    Json.object_of_parse? read
  exact ⟨before, object, after,
    ⟨⟨parts, not_mem_of_space rfl blank, not_mem_of_space rfl white, opens, closes⟩, _, reads⟩,
    blank, white, reads⟩

theorem objectOf_of_object {members : List (String × Json)}
    (read : Json.parse? text = some (.object members)) : objectOf text = .ok members := by
  simp only [objectOf, read]

theorem objectOf_of_other {value : Json} (other : Json.IsOther text value) :
    objectOf text = .error (.notObject value.kindName) := by
  simp only [objectOf, other.1]
  split
  · next none => cases none
  · next members same => exact absurd (Option.some.inj same) (other.2 members)
  · next same => rw [Option.some.inj same]

/-- An object that is embedded in a text is the object of that text. -/
theorem objectOf_eq (embeds : Embeds text before object after)
    (object? : ∀ value, ¬ Json.IsOther text value) : objectOf text = objectOf object := by
  obtain ⟨members, read⟩ := embeds.read
  rw [objectOf_of_object read]
  cases whole : Json.parse? text with
  | none =>
      simp only [objectOf, whole, salvage?, embeds.toBetween.braced?_eq, Option.bind_some, read]
  | some value =>
      have shape : ∃ found, value = .object found := by
        by_contra no
        exact object? value ⟨whole, fun found same => no ⟨found, same⟩⟩
      obtain ⟨found, rfl⟩ := shape
      obtain ⟨_, other, _, again, _, _, reads⟩ := embeds_of_parse? whole
      rw [embeds.toBetween.object_unique again.toBetween, reads] at read
      cases read
      exact objectOf_of_object whole

/-- The object of a text is embedded in it. -/
theorem embeds_of_objectOf {members : List (String × Json)} (found : objectOf text = .ok members) :
    ∃ before object after, Embeds text before object after ∧
      Json.parse? object = some (.object members) ∧
      (Json.parse? text = none ∨
        (∀ c ∈ before, Written.isSpace c = true) ∧ ∀ c ∈ after, Written.isSpace c = true) := by
  cases whole : Json.parse? text with
  | none =>
      simp only [objectOf, whole, salvage?] at found
      cases cut : braced? text with
      | none =>
          rw [cut] at found
          cases found
      | some object =>
          obtain ⟨before, after, between⟩ := between_of_braced? cut
          rw [cut, Option.bind_some] at found
          cases read : Json.parse? object with
          | none =>
              rw [read] at found
              cases found
          | some value =>
              rw [read] at found
              cases value with
              | object members =>
                  cases found
                  exact ⟨before, object, after, ⟨between, _, read⟩, read, .inl rfl⟩
              | _ => cases found
  | some value =>
      cases value with
      | object members =>
          rw [objectOf_of_object whole] at found
          cases found
          obtain ⟨before, object, after, embeds, blank, white, read⟩ := embeds_of_parse? whole
          exact ⟨before, object, after, embeds, read, .inr ⟨blank, white⟩⟩
      | _ =>
          rw [objectOf_of_other ⟨whole, nofun⟩] at found
          cases found

/-! ## The message of a frame -/

/-- A frame with a brace is not blank. -/
theorem decode_of_brace (brace : '{' ∈ text) :
    decode text = (objectOf text).bind fun members => (ofMembers members).map some := by
  have filled : Text.allBlank text = false := by
    rw [Text.allBlank, List.all_eq_false]
    exact ⟨'{', brace, by decide⟩
  rw [decode, filled]
  cases objectOf text with
  | error fault => rfl
  | ok members => cases ofMembers members <;> rfl

/-- The object of a text decides what message the text is. -/
theorem decode_of_objectOf {members : List (String × Json)} (found : objectOf text = .ok members) :
    decode text = (ofMembers members).map some := by
  obtain ⟨before, object, after, embeds, _⟩ := embeds_of_objectOf found
  rw [decode_of_brace embeds.toBetween.brace_mem, found]
  rfl

theorem objectOf_of_decode {message : Message} (decodes : decode text = .ok (some message)) :
    ∃ members, objectOf text = .ok members := by
  unfold decode at decodes
  split at decodes
  · cases decodes
  · cases found : objectOf text with
    | error fault =>
        rw [found] at decodes
        cases decodes
    | ok members => exact ⟨members, rfl⟩

end Message

open Message in
/-- An embedded object gives the message of the frame, unless the frame is JSON of another kind; and
a message is always that of an embedded object, with nothing but space around it if the frame is
JSON. -/
theorem decode_embedded :
    (∀ text before object after, Embeds text before object after →
      (∀ value, Json.IsOther text value →
        decode text = .error (.notObject value.kindName) ∧
          (FrameFault.notObject value.kindName).message =
            "expected JSON object, got " ++ value.kindName) ∧
      ((∀ value, ¬ Json.IsOther text value) → decode text = decode object)) ∧
    ∀ text message, decode text = .ok (some message) →
      ∃ before object after, Embeds text before object after ∧
        decode object = .ok (some message) ∧
        (Json.parse? text = none ∨
          (∀ c ∈ before, Written.isSpace c = true) ∧ ∀ c ∈ after, Written.isSpace c = true) := by
  constructor
  · intro text before object after embeds
    constructor
    · intro value other
      refine ⟨?_, rfl⟩
      rw [decode_of_brace embeds.toBetween.brace_mem, objectOf_of_other other]
      rfl
    · intro object?
      obtain ⟨members, read⟩ := embeds.read
      have found := objectOf_of_object read
      rw [decode_of_objectOf ((objectOf_eq embeds object?).trans found), decode_of_objectOf found]
  · intro text message decodes
    obtain ⟨members, found⟩ := objectOf_of_decode decodes
    obtain ⟨before, object, after, embeds, read, around⟩ := embeds_of_objectOf found
    refine ⟨before, object, after, embeds, ?_, around⟩
    rw [decode_of_objectOf (objectOf_of_object read), ← decode_of_objectOf found]
    exact decodes

/-- A push whose data holds braces. -/
def bracedPush : List Char :=
  "\x7b\"event\":\"a\",\"data\":\"\x7d\x7b\"\x7d".toList

/-- The push between a bracket and an opening brace. -/
def noisyFrame : List Char :=
  "] ".toList ++ (bracedPush ++ " \x7b".toList)

/-- A string that holds an object. -/
def quotedObject : List Char :=
  "\"\x7b\x7d\"".toList

open Message in
/-- Braces in strings and around the object do no harm; a string that holds an object is a
string. -/
theorem decode_embedded_noise :
    (Embeds noisyFrame "] ".toList bracedPush " \x7b".toList ∧
      decode noisyFrame = .ok (some (.push ⟨"a", some (.string "\x7d\x7b"), none⟩)) ∧
      ∃ before object after, Embeds noisyFrame before object after ∧
        decode object = .ok (some (.push ⟨"a", some (.string "\x7d\x7b"), none⟩))) ∧
    Embeds quotedObject ['"'] ['{', '}'] ['"'] ∧
      Json.IsOther quotedObject (.string "\x7b\x7d") ∧
      decode quotedObject = .error (.notObject "string") := by
  have read : Json.parse? bracedPush =
      some (.object [("data", .string "\x7d\x7b"), ("event", .string "a")]) := by
    cbv
  have noisy : Embeds noisyFrame "] ".toList bracedPush " \x7b".toList :=
    ⟨⟨by decide, by decide, by decide, by decide, by decide⟩, _, read⟩
  have unread : Json.parse? noisyFrame = none := by cbv
  have decodes : decode noisyFrame = .ok (some (.push ⟨"a", some (.string "\x7d\x7b"), none⟩)) := by
    rw [(decode_embedded.1 _ _ _ _ noisy).2 fun value other => by
      rw [other.1] at unread
      cases unread]
    cbv
  have quoted : Embeds quotedObject ['"'] ['{', '}'] ['"'] :=
    ⟨⟨by decide, by decide, by decide, by decide, by decide⟩, [], by cbv⟩
  have other : Json.IsOther quotedObject (.string "\x7b\x7d") := ⟨by cbv, fun _ => Json.noConfusion⟩
  obtain ⟨before, object, after, embeds, same, _⟩ := decode_embedded.2 _ _ decodes
  exact ⟨⟨noisy, decodes, before, object, after, embeds, same⟩, quoted, other,
    ((decode_embedded.1 _ _ _ _ quoted).1 _ other).1⟩

end Intercom
