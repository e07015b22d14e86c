import Mathlib
import Intercom.Proofs.Salvage

/-!
# Objects as messages

Which message an object is depends on two of its members alone, the identifier and the event. Each
field of a response depends on the member of its own key, and a field of the wrong type is no
obstacle: it counts as missing, and an `errors` member that is no list counts as a single error. A
push is read as a record, and an object with an event is never refused there.

Results:
1. `Push.ofJson?_object`: every object with an event is read as the push of that event.
2. `Message.sorted`: which objects are responses, which are pushes, and what is wrong with the rest.
3. `Message.told_responseOf`, `Message.blank_responseOf`: a field says what its own key says, and a
   change under another key leaves it alone.
4. `told_apart`: all of this of every object, and so of every frame.
-/

namespace Intercom

/-! ## Definitions -/

/-- The push that an object with an event is. -/
def Push.ofMembers (event : String) (members : List (String × Json)) : Push where
  event
  data := (Table.find? "data" members).bind Json.nonNull?
  source := (Table.find? "from" members).bind Json.nonNull?

/-- `AgreeBeyond key left right`: the tables have the same values, except perhaps under the key. -/
def Table.AgreeBeyond {α : Type} (key : String) (left right : List (String × α)) : Prop :=
  ∀ name, name ≠ key → Table.find? name left = Table.find? name right

/-- A key is missing, or it has `null`. -/
def Json.Unsaid (key : String) (members : List (String × Json)) : Prop :=
  Table.find? key members = none ∨ Table.find? key members = some .null

/-- The response without the field of a key. There is always an identifier. -/
def Response.blank (key : String) (response : Response) : Response where
  id := response.id
  success := if key = "success" then none else response.success
  data := if key = "data" then none else response.data
  errors := if key = "errors" then none else response.errors
  event := if key = "event" then none else response.event
  source := if key = "from" then none else response.source

/-- `Told key members field`: the field holds the value of the key, and nothing if the key is
missing or has `null`. -/
structure Json.Told (key : String) (members : List (String × Json)) (field : Option Json) :
    Prop where
  missing : field = none ↔ Unsaid key members
  value : ∀ value ∈ field, Table.find? key members = some value

/-- `ToldErrors members field`: the field holds the list under the key `errors`, or whatever else
stands there as the only error. -/
structure Response.ToldErrors (members : List (String × Json)) (field : Option (List Json)) :
    Prop where
  missing : field = none ↔ Json.Unsaid "errors" members
  list : ∀ items, Table.find? "errors" members = some (.array items) → field = some items
  single : ∀ value, Table.find? "errors" members = some value → value ≠ .null →
    (∀ items, value ≠ .array items) → field = some [value]

/-- Every field of the response is what the object says under the key of that field. -/
structure Response.ToldBy (members : List (String × Json)) (response : Response) : Prop where
  id : (Table.find? "id" members).bind Message.usableId? = some response.id
  success : ∀ truth, response.success = some truth ↔
    Table.find? "success" members = some (.bool truth)
  data : Json.Told "data" members response.data
  errors : Response.ToldErrors members response.errors
  event : ∀ event, response.event = some event ↔
    Table.find? "event" members = some (.string event)
  source : Json.Told "from" members response.source

/-- Which message an object is: a response if its identifier is usable, or else a push if its event
is a string, and otherwise none. -/
structure Message.Sorted (members : List (String × Json)) : Prop where
  response : (∃ response, ofMembers members = .ok (.response response)) ↔
    ∃ id, (Table.find? "id" members).bind usableId? = some id
  push : ∀ push, ofMembers members = .ok (.push push) ↔
    (Table.find? "id" members).bind usableId? = none ∧
      ∃ event, Table.find? "event" members = some (.string event) ∧
        push = Push.ofMembers event members
  fault : (∃ fault, ofMembers members = .error fault) ↔
    (Table.find? "id" members).bind usableId? = none ∧
      ∀ event, Table.find? "event" members ≠ some (.string event)
  /-- An object with an event is never refused for its other members. -/
  causes : ∀ fault, ofMembers members = .error fault →
    fault = .unaddressed ∨ ∃ errors, fault = .uncorrelated errors

/-! ## Records -/

theorem Table.find?_filter {α : Type} {keep : String → Bool} {name : String}
    (kept : keep name = true) (table : List (String × α)) :
    find? name (table.filter fun pair => keep pair.1) = find? name table := by
  induction table with
  | nil => rfl
  | cons head rest ih =>
      obtain ⟨key, value⟩ := head
      by_cases same : key = name
      · subst same
        simp [find?, kept]
      · cases other : keep key <;> simp [find?, same, other, ih]

/-- A field that may be missing is read if it is missing, `null` or of its type. A lenient reader
that passes over `null` agrees. -/
theorem Record.optional?_of_typed {α : Type} {fields : Record.Fields} {name : String}
    (read lenient : Json → Option α) (null : lenient .null = none)
    (typed : ∀ value ∈ Table.find? name fields, value ≠ .null →
      ∃ part, read value = some part ∧ lenient value = some part) :
    Record.optional? fields name read = some ((Table.find? name fields).bind lenient) := by
  unfold Record.optional?
  split
  · next absent => rw [absent, Option.bind_none]
  · next empty => rw [empty, Option.bind_some, null]
  · next value filled found =>
      obtain ⟨part, strict, same⟩ := typed value found filled
      rw [strict, found, Option.map_some, Option.bind_some, same]

/-! ## Pushes -/

namespace Push

variable {event : String} {members : List (String × Json)}

theorem optional?_eq (fields : Record.Fields) (name : String) :
    Record.optional? fields name some = some ((Table.find? name fields).bind Json.nonNull?) := by
  refine Record.optional?_of_typed some Json.nonNull? rfl fun value _ filled => ⟨value, rfl, ?_⟩
  cases value with
  | null => exact absurd rfl filled
  | _ => rfl

/-- Read as a record, an object is a push by its event; its other members are passed over. -/
theorem ofJson?_object (named : Table.find? "event" members = some (.string event)) :
    Push.ofJson? (.object members) = some (.ofMembers event members) := by
  have field (name : String) (known : fieldNames.contains name = true) :
      Table.find? name (members.filter fun member => fieldNames.contains member.1) =
        Table.find? name members :=
    Table.find?_filter known members
  have required : Record.required? (members.filter fun member => fieldNames.contains member.1)
      "event" Json.asString? = some event := by
    rw [Record.required?, field "event" rfl, named]
    rfl
  simp only [Push.ofJson?, Record.ofJson?, ofFields?, required, optional?_eq, field "data" rfl,
    field "from" rfl, Option.bind_eq_bind, Option.bind_some, Push.ofMembers]

/-- Read as a response, the object is turned into the same push. -/
theorem toPush?_responseOf (named : Table.find? "event" members = some (.string event))
    (id : RequestId) :
    (Message.responseOf id members).toPush? = some (.ofMembers event members) := by
  simp only [Message.responseOf, Response.toPush?, named, Option.bind_some, Json.asString?,
    Option.map_some, Push.ofMembers]

theorem ofMembers_insert (value : Json) :
    Push.ofMembers event (Table.insert "id" value members) = .ofMembers event members := by
  simp [Push.ofMembers, Table.find?_insert]

end Push

/-! ## Fields -/

namespace Table

variable {α : Type}

theorem agreeBeyond_insert (key : String) (value : α) (table : List (String × α)) :
    AgreeBeyond key table (insert key value table) := by
  intro name differ
  rw [find?_insert, if_neg (Ne.symm differ)]

theorem agreeBeyond_erase (key : String) (table : List (String × α)) :
    AgreeBeyond key table (erase key table) := by
  intro name differ
  rw [find?_erase, if_neg (Ne.symm differ)]

end Table

namespace Json

variable {key : String} {members : List (String × Json)}

theorem bind_asBool?_eq_some {truth : Bool} {found : Option Json} :
    found.bind asBool? = some truth ↔ found = some (.bool truth) := by
  rcases found with _ | (_ | _ | _ | _ | _ | _) <;> simp [asBool?]

theorem bind_asString?_eq_some {text : String} {found : Option Json} :
    found.bind asString? = some text ↔ found = some (.string text) := by
  rcases found with _ | (_ | _ | _ | _ | _ | _) <;> simp [asString?]

theorem told_nonNull? (key : String) (members : List (String × Json)) :
    Told key members ((Table.find? key members).bind nonNull?) := by
  constructor
  · unfold Unsaid
    rcases Table.find? key members with _ | (_ | _ | _ | _ | _ | _) <;> simp [nonNull?]
  · rcases Table.find? key members with _ | (_ | _ | _ | _ | _ | _) <;> simp [nonNull?]

end Json

namespace Message

variable {key : String} {members other : List (String × Json)}

theorem told_errorList? (members : List (String × Json)) :
    Response.ToldErrors members ((Table.find? "errors" members).bind errorList?) := by
  constructor
  · unfold Json.Unsaid
    rcases Table.find? "errors" members with _ | (_ | _ | _ | _ | _ | _) <;> simp [errorList?]
  · intro items found
    rw [found]
    rfl
  · intro value found filled listed
    rw [found, Option.bind_some]
    cases value with
    | null => exact absurd rfl filled
    | array items => exact absurd rfl (listed items)
    | _ => rfl

theorem told_responseOf {id : RequestId}
    (numbered : (Table.find? "id" members).bind usableId? = some id) :
    Response.ToldBy members (responseOf id members) where
  id := numbered
  success _ := Json.bind_asBool?_eq_some
  data := Json.told_nonNull? "data" members
  errors := told_errorList? members
  event _ := Json.bind_asString?_eq_some
  source := Json.told_nonNull? "from" members

/-- A change under one key changes the field of that key at most. -/
theorem blank_responseOf (id : RequestId) (agree : Table.AgreeBeyond key members other) :
    (responseOf id members).blank key = (responseOf id other).blank key := by
  have field {β : Type} (name : String) (read : Json → Option β) :
      (if key = name then none else (Table.find? name members).bind read) =
        if key = name then none else (Table.find? name other).bind read := by
    split
    · rfl
    · next differ => rw [agree name (Ne.symm differ)]
  simp only [Response.blank, responseOf, field]

/-! ## Objects -/

theorem usableId?_ofUInt64 (id : RequestId) :
    usableId? (.number (.ofUInt64 id.value)) = some id := by
  simp [usableId?, Number.ofUInt64, Number.toUInt64?]

theorem ofMembers_of_usable {id : RequestId}
    (numbered : (Table.find? "id" members).bind usableId? = some id) :
    ofMembers members = .ok (.response (responseOf id members)) := by
  simp only [ofMembers, numbered]

theorem ofMembers_of_named {event : String}
    (unnumbered : (Table.find? "id" members).bind usableId? = none)
    (named : Table.find? "event" members = some (.string event)) :
    ofMembers members = .ok (.push (.ofMembers event members)) := by
  simp only [ofMembers, unnumbered, Json.bind_asString?_eq_some.mpr named,
    Push.ofJson?_object named]

theorem ofMembers_of_unnamed (unnumbered : (Table.find? "id" members).bind usableId? = none)
    (unnamed : ∀ event, Table.find? "event" members ≠ some (.string event)) :
    ofMembers members = .error (addressFault members) := by
  have silent : (Table.find? "event" members).bind Json.asString? = none :=
    Option.eq_none_iff_forall_ne_some.mpr fun event said =>
      unnamed event (Json.bind_asString?_eq_some.mp said)
  simp only [ofMembers, unnumbered, silent]

theorem causes_of_addressFault (members : List (String × Json)) :
    addressFault members = .unaddressed ∨
      ∃ errors, addressFault members = .uncorrelated errors := by
  unfold addressFault
  split
  · dsimp only
    split
    · exact .inl rfl
    · exact .inr ⟨_, rfl⟩
  · exact .inl rfl

/-- An identifier that is usable, or else an event, or neither decides what an object is. -/
theorem sorted (members : List (String × Json)) : Sorted members := by
  cases numbered : (Table.find? "id" members).bind usableId? with
  | some id =>
      have sort := ofMembers_of_usable numbered
      constructor <;> simp [sort, numbered]
  | none =>
      by_cases named : ∃ event, Table.find? "event" members = some (.string event)
      · obtain ⟨event, named⟩ := named
        have sort := ofMembers_of_named numbered named
        constructor <;> simp [sort, numbered, named, eq_comm]
      · have unnamed : ∀ event, Table.find? "event" members ≠ some (.string event) :=
          fun event said => named ⟨event, said⟩
        have sort := ofMembers_of_unnamed numbered unnamed
        constructor
        · simp [sort, numbered]
        · simp [sort, unnamed]
        · simp [sort, numbered, unnamed]
        · rintro fault same
          rw [sort] at same
          cases same
          exact causes_of_addressFault members

theorem response_of_ofMembers {response : Response}
    (read : ofMembers members = .ok (.response response)) :
    (Table.find? "id" members).bind usableId? = some response.id ∧
      response = responseOf response.id members := by
  obtain ⟨id, numbered⟩ := (sorted members).response.mp ⟨response, read⟩
  rw [ofMembers_of_usable numbered] at read
  cases read
  exact ⟨numbered, rfl⟩

end Message

open Message in
/-- A frame is the message that its object is. An object is a response, a push or no message by its
identifier and its event alone; every field of a response is what its own key says, and another
value under any key but the identifier's makes a difference to no other field. -/
theorem told_apart :
    (∀ text members, objectOf text = .ok members → decode text = (ofMembers members).map some) ∧
      ∀ members, Sorted members ∧
        ∀ response, ofMembers members = .ok (.response response) →
          response.ToldBy members ∧
            ∀ key other, key ≠ "id" → Table.AgreeBeyond key members other →
              ∃ changed, ofMembers other = .ok (.response changed) ∧
                changed.blank key = response.blank key := by
  refine ⟨fun text members found => decode_of_objectOf found, fun members => ⟨sorted members, ?_⟩⟩
  intro response read
  obtain ⟨numbered, same⟩ := response_of_ofMembers read
  constructor
  · rw [same]
    exact told_responseOf numbered
  · intro key other kept agree
    have again : (Table.find? "id" other).bind usableId? = some response.id := by
      rw [← agree "id" (Ne.symm kept), numbered]
    refine ⟨responseOf response.id other, ofMembers_of_usable again, ?_⟩
    rw [← blank_responseOf response.id agree, ← same]

/-- A refusal with an event that is a number and with errors that are no list. -/
def mistypedFrame : List Char :=
  "\x7b\"id\":3,\"event\":5,\"success\":false,\"errors\":\"denied\",\"data\":null\x7d".toList

/-- The members of that refusal. -/
def mistypedMembers : List (String × Json) :=
  [("data", .null), ("errors", .string "denied"), ("event", .number (.integer 5 (by decide))),
    ("id", .number (.integer 3 (by decide))), ("success", .bool false)]

/-- The refusal as it is read. -/
def mistypedResponse : Response :=
  ⟨⟨3⟩, some false, none, some [.string "denied"], none, none⟩

open Message in
/-- Fields of the wrong type do not hide the identifier. With an event of the right type the
response differs in its event alone, and without the errors in its errors alone. -/
theorem told_apart_mistyped :
    objectOf mistypedFrame = .ok mistypedMembers ∧
      decode mistypedFrame = .ok (some (.response mistypedResponse)) ∧
      (∃ changed,
        ofMembers (Table.insert "event" (.string "b") mistypedMembers) = .ok (.response changed) ∧
          changed.blank "event" = mistypedResponse) ∧
      ∃ changed, ofMembers (Table.erase "errors" mistypedMembers) = .ok (.response changed) ∧
        changed.blank "errors" = { mistypedResponse with errors := none } := by
  have found : objectOf mistypedFrame = .ok mistypedMembers := by cbv
  have read : ofMembers mistypedMembers = .ok (.response mistypedResponse) := by cbv
  obtain ⟨_, apart⟩ := (told_apart.2 mistypedMembers).2 mistypedResponse read
  refine ⟨found, ?_, ?_, ?_⟩
  · rw [told_apart.1 _ _ found, read]
    rfl
  · exact apart "event" _ (by decide) (Table.agreeBeyond_insert _ _ _)
  · exact apart "errors" _ (by decide) (Table.agreeBeyond_erase _ _)

end Intercom
