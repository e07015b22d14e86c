import Mathlib
import Intercom.Proofs.Fields

/-!
# Strict and lenient readers

A response is read from a text in two ways. The strict reader goes along the members as they are
written: it refuses a known field that stands there twice or has the wrong type, and never looks at
the values of other members. The lenient reader makes a table of all members first, in which the
last of a key counts, and takes from it what fits.

Results:
1. `Record.memberValues?_eq`, `Table.find?_ofPairs`: both readers have the same values, of which the
   lenient one takes the last of a key.
2. `Record.parse?_of_unrepeated`, `Record.unrepeated_of_parse?`: when a text gives a record, and
   with which fields.
3. `Response.ofFields?_of_wellTyped`, `Response.wellTyped_of_ofFields?`: fields give a response
   exactly if they have the right types, and it is the one that the lenient reader makes of them.
4. `read_alike`: the strict reader accepts the texts in which no field is repeated and all have the
   right types, and it reads from them what the lenient one does.
-/

namespace Intercom

/-! ## Definitions -/

/-- The keys of the object that a text is, in the order of the text. -/
def Record.keysIn? (text : List Char) : Option (List String) :=
  match Written.read? text with
  | some (.object members) => (keyed? members).map fun members => members.map Prod.fst
  | _ => none

/-- The text is an object, and none of the names is the key of two of its members. -/
def Record.Unrepeated (names : List String) (text : List Char) : Prop :=
  ∃ keys, keysIn? text = some keys ∧ ∀ name ∈ names, keys.count name ≤ 1

/-- The members of the known fields of a response have their types: the identifier is an integer of
64 bits, and the others may also be missing or `null`. -/
structure Response.WellTyped (members : List (String × Json)) : Prop where
  id : ∃ word, Table.find? "id" members = some (.number (.ofUInt64 word))
  success : ∀ value ∈ Table.find? "success" members, value ≠ .null → ∃ truth, value = .bool truth
  errors : ∀ value ∈ Table.find? "errors" members, value ≠ .null → ∃ items, value = .array items
  event : ∀ value ∈ Table.find? "event" members, value ≠ .null → ∃ event, value = .string event

/-! ## Keys that stand once -/

namespace Table

variable {α : Type} {name : String}

theorem find?_append (left right : List (String × α)) :
    find? name (left ++ right) = (find? name left).or (find? name right) := by
  induction left with
  | nil => rfl
  | cons head rest ih =>
      by_cases same : head.1 = name <;> simp [find?, same, ih]

theorem find?_eq_none {table : List (String × α)} (absent : name ∉ table.map Prod.fst) :
    find? name table = none := by
  induction table with
  | nil => rfl
  | cons head rest ih =>
      rw [List.map_cons, List.mem_cons, not_or] at absent
      rw [find?, if_neg (Ne.symm absent.1), ih absent.2]

/-- Of pairs with one key the last counts. -/
theorem find?_ofPairs (name : String) (pairs : List (String × α)) :
    find? name (ofPairs pairs) = find? name pairs.reverse := by
  induction pairs using List.reverseRecOn with
  | nil => rfl
  | append_singleton pairs last ih =>
      rw [ofPairs, List.foldl_append, List.foldl_cons, List.foldl_nil, ← ofPairs, find?_insert, ih,
        List.reverse_append, List.reverse_singleton, List.singleton_append, find?]

/-- The last pair of a key is the first one if the key stands there once. -/
theorem find?_reverse_of_once {pairs : List (String × α)}
    (once : (pairs.map Prod.fst).count name ≤ 1) :
    find? name pairs.reverse = find? name pairs := by
  induction pairs with
  | nil => rfl
  | cons head rest ih =>
      rw [List.map_cons, List.count_cons] at once
      rw [List.reverse_cons, find?_append, ih (by omega), find?, find?, find?]
      by_cases same : head.1 = name
      · have absent : name ∉ rest.map Prod.fst := by
          have taken : (head.1 == name) = true := beq_iff_eq.mpr same
          rw [if_pos taken] at once
          exact List.count_eq_zero.mp (by omega)
        rw [find?_eq_none absent, if_pos same, Option.none_or]
      · rw [if_neg same, if_neg same, Option.or_none]

end Table

/-! ## Records -/

namespace Record

variable {names : List String} {depth : Nat} {text : List Char}
  {members : List (String × Written)} {pairs : Fields}

theorem namedOnce_iff {α : Type} {members : List (String × α)} :
    namedOnce names members = true ↔
      ∀ name ∈ names, (members.map Prod.fst).count name ≤ 1 := by
  simp only [namedOnce, List.all_eq_true, decide_eq_true_eq, List.count, List.countP_map,
    Function.comp_def, ← List.countP_eq_length_filter]

/-- Keys and values of written members can be read one after the other. -/
theorem memberValues?_eq (depth : Nat) (members : List (List Glyph × Written)) :
    Written.memberValues? depth members = (keyed? members).bind (values? depth) := by
  induction members with
  | nil => rfl
  | cons member rest ih =>
      obtain ⟨glyphs, member⟩ := member
      simp only [Written.memberValues?, keyed?, ih]
      cases Glyph.text? glyphs with
      | none => rfl
      | some key =>
          cases keyed? rest with
          | none => cases member.value? depth <;> rfl
          | some known =>
              rw [Option.bind_some, Option.bind_some, values?]
              cases member.value? depth <;> cases values? depth known <;> rfl

theorem values?_cons {name : String} {member : Written}
    (read : values? depth ((name, member) :: members) = some pairs) :
    ∃ value rest, member.value? depth = some value ∧ values? depth members = some rest ∧
      pairs = (name, value) :: rest := by
  simp only [values?] at read
  cases one : member.value? depth with
  | none => simp [one] at read
  | some value =>
      cases more : values? depth members with
      | none => simp [one, more] at read
      | some rest =>
          simp only [one, more, Option.some.injEq] at read
          exact ⟨value, rest, rfl, rfl, read.symm⟩

theorem keys_values? (read : values? depth members = some pairs) :
    pairs.map Prod.fst = members.map Prod.fst := by
  induction members generalizing pairs with
  | nil =>
      cases read
      rfl
  | cons member rest ih =>
      obtain ⟨value, later, _, more, rfl⟩ := values?_cons read
      rw [List.map_cons, List.map_cons, ih more]

/-- The values that are kept do not depend on the others. -/
theorem values?_filter (keep : String → Bool) (read : values? depth members = some pairs) :
    values? depth (members.filter fun member => keep member.1) =
      some (pairs.filter fun pair => keep pair.1) := by
  induction members generalizing pairs with
  | nil =>
      cases read
      rfl
  | cons member rest ih =>
      obtain ⟨name, member⟩ := member
      obtain ⟨value, later, one, more, rfl⟩ := values?_cons read
      cases kept : keep name with
      | false => simp [kept, ih more]
      | true => simp [kept, values?, one, ih more]

/-- A text that is read as an object is written as one, whose members have keys and values. -/
theorem written_of_parse? {table : List (String × Json)}
    (read : Json.parse? text = some (.object table)) :
    ∃ written members pairs, Written.read? text = some (.object written) ∧
      keyed? written = some members ∧ values? (Written.depthLimit - 1) members = some pairs ∧
      table = Table.ofPairs pairs := by
  simp only [Json.parse?, Option.bind_eq_bind, Option.bind_eq_some_iff] at read
  obtain ⟨whole, reads, value⟩ := read
  obtain ⟨written, rfl⟩ := Written.object_of_value? value
  simp only [Written.depthLimit, Written.value?, Option.map_eq_some_iff, memberValues?_eq,
    Option.bind_eq_some_iff, Json.object.injEq] at value
  obtain ⟨pairs, ⟨members, keyed, values⟩, same⟩ := value
  exact ⟨written, members, pairs, reads, keyed, values, same.symm⟩

/-- An object without repeated fields gives a record, with the values that a table of all its
members has. -/
theorem parse?_of_unrepeated {table : List (String × Json)}
    (read : Json.parse? text = some (.object table)) (once : Unrepeated names text) :
    ∃ fields, parse? names text = some fields ∧
      ∀ name ∈ names, Table.find? name fields = Table.find? name table := by
  obtain ⟨written, members, pairs, reads, keyed, values, rfl⟩ := written_of_parse? read
  obtain ⟨keys, found, once⟩ := once
  simp only [keysIn?, reads, keyed, Option.map_some, Option.some.injEq] at found
  subst found
  -- the record keeps the known members in their order, while the table has the last of each key
  refine ⟨pairs.filter fun pair => names.contains pair.1, ?_, fun name known => ?_⟩
  · simp only [parse?, reads, Option.bind_eq_bind, Option.bind_some, ofWritten?, keyed,
      namedOnce_iff.mpr once, if_true, values?_filter names.contains values]
  · rw [← keys_values? values] at once
    rw [Table.find?_filter (List.contains_iff_mem.mpr known), Table.find?_ofPairs,
      Table.find?_reverse_of_once (once name known)]

theorem unrepeated_of_parse? {table : List (String × Json)} {fields : Fields}
    (read : Json.parse? text = some (.object table)) (accepted : parse? names text = some fields) :
    Unrepeated names text := by
  obtain ⟨written, members, pairs, reads, keyed, _⟩ := written_of_parse? read
  refine ⟨members.map Prod.fst, by simp only [keysIn?, reads, keyed, Option.map_some],
    namedOnce_iff.mp ?_⟩
  by_contra repeated
  simp [parse?, reads, ofWritten?, keyed, repeated] at accepted

theorem typed_of_optional? {α : Type} {read : Json → Option α} {fields : Fields} {name : String}
    {field : Option α} (accepted : optional? fields name read = some field) :
    ∀ value ∈ Table.find? name fields, value ≠ .null → ∃ part, read value = some part := by
  intro value found filled
  unfold optional? at accepted
  split at accepted
  · next absent => simp [absent] at found
  · next empty =>
      rw [empty] at found
      cases found
      exact absurd rfl filled
  · next other _ same =>
      rw [same] at found
      cases found
      obtain ⟨part, strict, _⟩ := Option.map_eq_some_iff.mp accepted
      exact ⟨part, strict⟩

end Record

/-! ## Responses -/

theorem Number.toUInt64?_eq_some_iff {number : Number} {word : UInt64} :
    number.toUInt64? = some word ↔ number = .ofUInt64 word := by
  constructor
  · intro read
    cases number with
    | real value => cases read
    | integer value kept =>
        have bounds :
            -9_223_372_036_854_775_808 ≤ value ∧ value < 18_446_744_073_709_551_616 := kept
        rw [toUInt64?] at read
        split at read
        · next positive =>
            cases read
            have whole : ((UInt64.ofNat value.toNat).toNat : Int) = value := by
              rw [UInt64.toNat_ofNat', Nat.mod_eq_of_lt (by omega)]
              omega
            simp only [ofUInt64, whole]
        · cases read
  · rintro rfl
    simp [ofUInt64, toUInt64?]

namespace Response

variable {text : List Char} {members : List (String × Json)} {response : Response}

theorem items?_eq_some {value : Json} {items : List Json} (listed : items? value = some items) :
    value = .array items := by
  cases value <;> simp_all [items?]

theorem required_id {word : UInt64} :
    Record.required? members "id" JsonShape.ofJson? = some word ↔
      Table.find? "id" members = some (.number (.ofUInt64 word)) := by
  unfold Record.required?
  rcases Table.find? "id" members with _ | (_ | _ | number | _ | _ | _) <;>
    simp [JsonShape.ofJson?, Number.toUInt64?_eq_some_iff]

/-- Fields of the right types give what the lenient reader makes of them. -/
theorem ofFields?_of_wellTyped (typed : WellTyped members) {word : UInt64}
    (numbered : Table.find? "id" members = some (.number (.ofUInt64 word))) :
    ofFields? members = some (Message.responseOf ⟨word⟩ members) := by
  have success := Record.optional?_of_typed Json.asBool? Json.asBool? rfl
    fun value found filled => by
      obtain ⟨truth, rfl⟩ := typed.success value found filled
      exact ⟨truth, rfl, rfl⟩
  have errors := Record.optional?_of_typed items? Message.errorList? rfl
    fun value found filled => by
      obtain ⟨items, rfl⟩ := typed.errors value found filled
      exact ⟨items, rfl, rfl⟩
  have event := Record.optional?_of_typed Json.asString? Json.asString? rfl
    fun value found filled => by
      obtain ⟨event, rfl⟩ := typed.event value found filled
      exact ⟨event, rfl, rfl⟩
  simp only [ofFields?, required_id.mpr numbered, success, errors, event, Push.optional?_eq,
    Option.bind_eq_bind, Option.bind_some, Message.responseOf]

/-- Only the known fields are looked at. -/
theorem ofFields?_congr {fields : Record.Fields}
    (agree : ∀ name ∈ fieldNames, Table.find? name fields = Table.find? name members) :
    ofFields? fields = ofFields? members := by
  simp only [ofFields?, Record.required?, Record.optional?, agree "id" (by decide),
    agree "success" (by decide), agree "data" (by decide), agree "errors" (by decide),
    agree "event" (by decide), agree "from" (by decide)]

theorem wellTyped_of_ofFields? (accepted : ofFields? members = some response) :
    WellTyped members := by
  simp only [ofFields?, Option.bind_eq_bind, Option.bind_eq_some_iff, required_id] at accepted
  obtain ⟨word, numbered, _, success, _, _, _, errors, _, event, _⟩ := accepted
  refine ⟨⟨word, numbered⟩, fun value found filled => ?_, fun value found filled => ?_,
    fun value found filled => ?_⟩
  · obtain ⟨truth, strict⟩ := Record.typed_of_optional? success value found filled
    exact ⟨truth, Option.some.inj (Json.bind_asBool?_eq_some.mp strict)⟩
  · obtain ⟨items, strict⟩ := Record.typed_of_optional? errors value found filled
    exact ⟨items, items?_eq_some strict⟩
  · obtain ⟨event, strict⟩ := Record.typed_of_optional? event value found filled
    exact ⟨event, Option.some.inj (Json.bind_asString?_eq_some.mp strict)⟩

/-- What the strict reader accepts. -/
theorem accepts_of_parse? (read : Json.parse? text = some (.object members))
    (accepted : parse? text = some response) :
    Record.Unrepeated fieldNames text ∧ WellTyped members := by
  simp only [parse?, Option.bind_eq_bind, Option.bind_eq_some_iff] at accepted
  obtain ⟨fields, known, accepted⟩ := accepted
  have once := Record.unrepeated_of_parse? read known
  obtain ⟨same, again, agree⟩ := Record.parse?_of_unrepeated read once
  rw [known] at again
  cases again
  rw [ofFields?_congr agree] at accepted
  exact ⟨once, wellTyped_of_ofFields? accepted⟩

/-- Both readers make one response of what the strict reader accepts. -/
theorem parse?_eq_decode (read : Json.parse? text = some (.object members))
    (once : Record.Unrepeated fieldNames text) (typed : WellTyped members) :
    ∃ answer, parse? text = some answer ∧
      Message.decode text = .ok (some (.response answer)) ∧ answer.ToldBy members := by
  obtain ⟨fields, known, agree⟩ := Record.parse?_of_unrepeated read once
  obtain ⟨word, numbered⟩ := typed.id
  have usable : (Table.find? "id" members).bind Message.usableId? = some ⟨word⟩ := by
    rw [numbered]
    exact Message.usableId?_ofUInt64 ⟨word⟩
  refine ⟨Message.responseOf ⟨word⟩ members, ?_, ?_, Message.told_responseOf usable⟩
  · simp only [parse?, known, Option.bind_eq_bind, Option.bind_some, ofFields?_congr agree,
      ofFields?_of_wellTyped typed numbered]
  · rw [Message.decode_of_objectOf (Message.objectOf_of_object read),
      Message.ofMembers_of_usable usable]
    rfl

end Response

/-- The strict reader accepts an object exactly if no known field is repeated in it and each has its
type, and it reads from it the response that the frame is decoded to. Each field of that response is
what the object says under its key, and nothing if that is `null`. -/
theorem read_alike {text : List Char} {members : List (String × Json)}
    (read : Json.parse? text = some (.object members)) (response : Response) :
    (Response.parse? text = some response ↔
      Record.Unrepeated Response.fieldNames text ∧ Response.WellTyped members ∧
        Message.decode text = .ok (some (.response response))) ∧
      (Response.parse? text = some response → response.ToldBy members) := by
  refine ⟨⟨fun accepted => ?_, ?_⟩, fun accepted => ?_⟩
  · obtain ⟨once, typed⟩ := Response.accepts_of_parse? read accepted
    obtain ⟨answer, strict, decoded, _⟩ := Response.parse?_eq_decode read once typed
    rw [strict] at accepted
    cases accepted
    exact ⟨once, typed, decoded⟩
  · rintro ⟨once, typed, decoded⟩
    obtain ⟨answer, strict, again, _⟩ := Response.parse?_eq_decode read once typed
    rw [decoded] at again
    cases again
    exact strict
  · obtain ⟨once, typed⟩ := Response.accepts_of_parse? read accepted
    obtain ⟨answer, strict, _, told⟩ := Response.parse?_eq_decode read once typed
    rw [strict] at accepted
    cases accepted
    exact told

/-- An answer with a key of no meaning that stands twice, and with another one in its data. -/
def repetitiveAnswer : List Char :=
  ("\x7b\"x\":1,\"id\":18446744073709551615,\"success\":null,\"x\":[],".toList ++
    "\"data\":\x7b\"k\":1,\"k\":false\x7d,\"errors\":[\"e\"]\x7d".toList)

/-- Of keys that stand twice the last counts, also within a field. -/
theorem read_alike_repeated :
    Json.parse? repetitiveAnswer =
        some (.object [("data", .object [("k", .bool false)]), ("errors", .array [.string "e"]),
          ("id", .number (.integer 18_446_744_073_709_551_615 (by decide))), ("success", .null),
          ("x", .array [])]) ∧
      Record.Unrepeated Response.fieldNames repetitiveAnswer ∧
        Message.decode repetitiveAnswer = .ok (some (.response
          ⟨⟨18_446_744_073_709_551_615⟩, none, some (.object [("k", .bool false)]),
            some [.string "e"], none, none⟩)) := by
  have read : Json.parse? repetitiveAnswer =
      some (.object [("data", .object [("k", .bool false)]), ("errors", .array [.string "e"]),
        ("id", .number (.integer 18_446_744_073_709_551_615 (by decide))), ("success", .null),
        ("x", .array [])]) := by
    cbv
  have accepted : Response.parse? repetitiveAnswer =
      some ⟨⟨18_446_744_073_709_551_615⟩, none, some (.object [("k", .bool false)]),
        some [.string "e"], none, none⟩ := by
    cbv
  obtain ⟨once, _, decoded⟩ := (read_alike read _).1.mp accepted
  exact ⟨read, once, decoded⟩

end Intercom
