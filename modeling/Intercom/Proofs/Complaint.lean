import Mathlib
import Intercom.Proofs.Fields

/-!
# What the server complains of

The errors of an object are read in two places: by the response that an object with a usable
identifier is, which is refused with them, and by a frame that is addressed to nobody, which is
discarded with them. A response takes a value that is no list for the only error. A frame does not.

Results:
1. `Message.complaint_responseOf`: what a response complains of is told by its errors alone.
2. `echoed_iff`: a frame is discarded with the complaint of the refusal, unless a single value that
   says something stands in place of the list.
-/

namespace Intercom

/-! ## Definitions -/

/-- The errors of the server in one text. -/
def Response.complaint (response : Response) : String :=
  String.intercalate ", " response.errorMessages

namespace Message

/-- The object as a refusal, with a value for its identifier. -/
def refusing (value : Json) (members : List (String × Json)) : List (String × Json) :=
  Table.insert "id" value (Table.insert "success" (.bool false) members)

/-- `LoneError members single`: a single value stands where the errors should be listed. -/
structure LoneError (members : List (String × Json)) (single : Json) : Prop where
  stands : Table.find? "errors" members = some single
  filled : single ≠ .null
  unlisted : ∀ items, single ≠ .array items

/-- `Echoes text complaint`: the frame is discarded with the complaint, or for want of an address if
the complaint is empty. -/
def Echoes (text : List Char) (complaint : String) : Prop :=
  ∃ fault, decode text = .error fault ∧
    fault.message =
      if complaint = "" then "message has neither id nor event"
      else "uncorrelated server error: " ++ complaint

/-! ## The two readers -/

variable {text : List Char} {members : List (String × Json)} {value single : Json}
  {id : RequestId}

theorem unaddressed_ne (errors : String) :
    "message has neither id nor event" ≠ "uncorrelated server error: " ++ errors := by
  intro same
  have heads := congrArg (fun message => message.toList.head?) same
  simp [String.toList_append] at heads

/-- What is listed under `errors`, a single value as a list of one. -/
theorem complaint_responseOf (id : RequestId) (members : List (String × Json)) :
    (responseOf id members).complaint =
      String.intercalate ", "
        ((((Table.find? "errors" members).bind errorList?).getD []).map errorText) :=
  rfl

theorem refusal_of_complaint {response : Response} (complains : response.complaint ≠ "") :
    response.refusal = response.complaint := by
  unfold Response.complaint at complains ⊢
  unfold Response.refusal
  split
  · next silent =>
      rw [silent] at complains
      exact absurd rfl complains
  · rfl

/-- With a usable identifier the object is refused, with the same errors. -/
theorem ofMembers_refusing (members : List (String × Json))
    (usable : usableId? value = some id) :
    ∃ answer, ofMembers (refusing value members) = .ok (.response answer) ∧
      answer.result = .error (.requestFailed id answer.refusal) ∧
      answer.complaint = (responseOf id members).complaint := by
  have numbered : (Table.find? "id" (refusing value members)).bind usableId? = some id := by
    rw [refusing, Table.find?_insert, if_pos rfl]
    exact usable
  have others (key : String) (apart : "id" ≠ key) (kept : "success" ≠ key) :
      Table.find? key (refusing value members) = Table.find? key members := by
    rw [refusing, Table.find?_insert, if_neg apart, Table.find?_insert, if_neg kept]
  have refused : Table.find? "success" (refusing value members) = some (.bool false) := by
    rw [refusing, Table.find?_insert, if_neg (by decide), Table.find?_insert, if_pos rfl]
  refine ⟨_, ofMembers_of_usable numbered, ?_, ?_⟩
  · have failed : (responseOf id (refusing value members)).isSuccess = false := by
      simp only [responseOf, Response.isSuccess, refused]
      rfl
    rw [Response.result, failed]
    rfl
  · rw [complaint_responseOf, complaint_responseOf, others "errors" (by decide) (by decide)]

/-- What an object that is addressed to nobody is discarded with. -/
theorem message_addressFault (id : RequestId) (members : List (String × Json)) :
    (∀ single, LoneError members single →
      (responseOf id members).complaint = errorText single ∧
        (addressFault members).message = "message has neither id nor event") ∧
    ((∀ single, ¬ LoneError members single) →
      (addressFault members).message =
        if (responseOf id members).complaint = "" then "message has neither id nor event"
        else "uncorrelated server error: " ++ (responseOf id members).complaint) := by
  rw [complaint_responseOf, addressFault]
  constructor
  · rintro single ⟨stands, filled, unlisted⟩
    rw [stands]
    cases single with
    | null => exact absurd rfl filled
    | array items => exact absurd rfl (unlisted items)
    | _ => exact ⟨by simp [errorList?], rfl⟩
  · intro listed
    cases stands : Table.find? "errors" members with
    | none => rfl
    | some value =>
        cases value with
        | null => rfl
        | array items =>
            simp only [Option.bind_some, errorList?, Option.getD_some, String.isEmpty_iff]
            split
            · next silent => exact (if_pos silent).symm
            · next said => exact (if_neg said).symm
        | _ => exact absurd ⟨stands, by simp, by simp⟩ (listed _)

end Message

open Message in
/-- An object without a usable identifier and without an event, and the same object as a refusal of
some request: what the refusal quotes from the server is also what the frame is discarded with, but
for an error that stands alone instead of in a list. Unless it is an empty text, that one is quoted
in the refusal and lost with the frame. -/
theorem echoed_iff {text : List Char} {members : List (String × Json)} {value : Json}
    {id : RequestId} (read : objectOf text = .ok members)
    (unnumbered : (Table.find? "id" members).bind usableId? = none)
    (unnamed : ∀ event, Table.find? "event" members ≠ some (.string event))
    (usable : usableId? value = some id) :
    ∃ answer, ofMembers (refusing value members) = .ok (.response answer) ∧
      answer.result = .error (.requestFailed id answer.refusal) ∧
      (answer.complaint ≠ "" → answer.refusal = answer.complaint) ∧
      (Echoes text answer.complaint ↔
        ∀ single, LoneError members single → errorText single = "") ∧
      ∀ single, LoneError members single →
        answer.complaint = errorText single ∧ Echoes text "" := by
  obtain ⟨answer, refused, fails, complains⟩ := ofMembers_refusing members usable
  have discarded : decode text = .error (addressFault members) := by
    rw [decode_of_objectOf read, ofMembers_of_unnamed unnumbered unnamed]
    rfl
  obtain ⟨lone, listed⟩ := message_addressFault id members
  rw [← complains] at lone listed
  have lost : ∀ single, LoneError members single →
      answer.complaint = errorText single ∧ Echoes text "" := fun single stands =>
    ⟨(lone single stands).1, _, discarded, (lone single stands).2⟩
  refine ⟨answer, refused, fails, refusal_of_complaint, ⟨?_, ?_⟩, lost⟩
  · rintro ⟨fault, same, told⟩ single stands
    rw [discarded] at same
    cases same
    obtain ⟨quoted, unaddressed⟩ := lone single stands
    by_contra said
    rw [quoted, if_neg said, unaddressed] at told
    exact unaddressed_ne _ told
  · intro silent
    by_cases stands : ∃ single, LoneError members single
    · obtain ⟨single, stands⟩ := stands
      rw [(lost single stands).1, silent single stands]
      exact (lost single stands).2
    · exact ⟨_, discarded, listed fun single lone => stands ⟨single, lone⟩⟩

/-- An error for nobody, with errors of several kinds in a list. -/
def listedErrors : String :=
  "\x7b\"id\":-1,\"errors\":[\"denied\",[\"a\",null],\x7b\"k\":1\x7d,\"\"],\"event\":null\x7d"

/-- The members of that frame. -/
def listedErrorsMembers : List (String × Json) :=
  [("errors", .array [.string "denied", .array [.string "a", .null],
      .object [("k", .number (.ofUInt64 1))], .string ""]),
    ("event", .null), ("id", .number (.integer (-1) (by decide)))]

/-- An error for nobody that stands alone. -/
def loneError : String :=
  "\x7b\"errors\":\"denied\"\x7d"

open Message in
/-- Errors in a list are quoted with the frame, nested and empty ones too. An error that stands
alone is quoted in the refusal only. -/
theorem echoed_iff_denied :
    objectOf listedErrors.toList = .ok listedErrorsMembers ∧
      Echoes listedErrors.toList "denied, [\"a\",null], \x7b\"k\":1\x7d, " ∧
      (∃ answer,
        ofMembers (refusing (.number (.ofUInt64 7)) [("errors", .string "denied")]) =
            .ok (.response answer) ∧
          answer.result = .error (.requestFailed ⟨7⟩ "denied") ∧
          ¬ Echoes loneError.toList answer.complaint) ∧
      Echoes loneError.toList "" := by
  have usable : usableId? (.number (.ofUInt64 7)) = some ⟨7⟩ := by decide
  have read : objectOf listedErrors.toList = .ok listedErrorsMembers := by cbv
  refine ⟨read, ?_, ?_⟩
  · have unnamed : Table.find? "event" listedErrorsMembers = some .null := by decide
    have listed : Table.find? "errors" listedErrorsMembers = some (.array [.string "denied",
        .array [.string "a", .null], .object [("k", .number (.ofUInt64 1))], .string ""]) := by
      decide
    obtain ⟨answer, refused, _, _, echoes, _⟩ :=
      echoed_iff read (by decide +kernel) (by simp [unnamed]) usable
    have complains : answer.complaint = "denied, [\"a\",null], \x7b\"k\":1\x7d, " := by
      rw [(response_of_ofMembers refused).2, complaint_responseOf]
      cbv
    rw [← complains]
    refine echoes.mpr fun single lone => ?_
    cases listed.symm.trans lone.stands
    exact absurd rfl (lone.unlisted _)
  · have alone : objectOf loneError.toList = .ok [("errors", .string "denied")] := by cbv
    have lone : LoneError [("errors", .string "denied")] (.string "denied") :=
      ⟨rfl, by simp, by simp⟩
    obtain ⟨answer, refused, fails, quoted, echoes, lost⟩ :=
      echoed_iff alone rfl (by simp [Table.find?]) usable
    obtain ⟨complains, discarded⟩ := lost _ lone
    have said : answer.complaint ≠ "" := by
      rw [complains]
      decide
    refine ⟨⟨answer, refused, ?_, fun same => ?_⟩, discarded⟩
    · rw [fails, quoted said, complains]
      rfl
    · exact absurd (echoes.mp same _ lone) (by decide)

end Intercom
