import Intercom.Message
import Intercom.Text.Blank

/-!
# Frames

A frame is a text from the device. `Message.decode` finds the message in it: a JSON object, or if
the text is not JSON at all, the object between its first and its last brace. A usable identifier
makes the object a response, else an event name makes it a push. A field of the wrong type counts as
missing, so it never hides the identifier.
-/

namespace Intercom

/-- A message from the device. -/
inductive Message where
  | response (response : Response)
  | push (push : Push)
deriving DecidableEq

namespace Message

/-- The event that a message names. -/
def event? : Message → Option String
  | .response answer => answer.event
  | .push message => some message.event

/-- The part of a text from its first opening to its last closing brace. -/
def braced? (text : List Char) : Option (List Char) :=
  let fromFirst := text.dropWhile (· != '{')
  let upToLast := (fromFirst.reverse.dropWhile (· != '}')).reverse
  if upToLast.isEmpty then none else some upToLast

/-- The value of a text that is not JSON as a whole. -/
def salvage? (text : List Char) : Option Json :=
  (braced? text).bind Json.parse?

/-- The members of the object in a text. -/
def objectOf (text : List Char) : Except FrameFault (List (String × Json)) :=
  let value := match Json.parse? text with
    | some value => some value
    | none => salvage? text
  match value with
  | none => .error .unreadable
  | some (.object members) => .ok members
  | some other => .error (.notObject other.kindName)

/-- The request identifier that a value names: a word, or a real number that is one without a
fraction. -/
def usableId? : Json → Option RequestId
  | .number number =>
      match number.toUInt64? with
      | some word => some ⟨word⟩
      | none =>
          match number.toReal? with
          | some real => real.wholeWord?.map fun word => ⟨word⟩
          | none => none
  | _ => none

/-- The errors of a response: a list as it is, any other value as a list of one. -/
def errorList? : Json → Option (List Json)
  | .null => none
  | .array items => some items
  | single => some [single]

/-- A response field by field. -/
def responseOf (id : RequestId) (members : List (String × Json)) : Response :=
  let field := fun key => Table.find? key members
  { id
    success := (field "success").bind Json.asBool?
    data := (field "data").bind Json.nonNull?
    errors := (field "errors").bind errorList?
    event := (field "event").bind Json.asString?
    source := (field "from").bind Json.nonNull? }

/-- Why an object is no message. -/
def addressFault (members : List (String × Json)) : FrameFault :=
  match Table.find? "errors" members with
  | some (.array items) =>
      let joined := String.intercalate ", " (items.map errorText)
      if joined.isEmpty then .unaddressed else .uncorrelated joined
  | _ => .unaddressed

/-- The message that an object is. -/
def ofMembers (members : List (String × Json)) : Except FrameFault Message :=
  match (Table.find? "id" members).bind usableId? with
  | some id => .ok (.response (responseOf id members))
  | none =>
      match (Table.find? "event" members).bind Json.asString? with
      | some _ =>
          match Push.ofJson? (.object members) with
          | some message => .ok (.push message)
          -- an event that is a text makes a push of any object, so this never comes up
          | none => .error (.other "bad push")
      | none => .error (addressFault members)

/-- The message in a frame; a blank frame holds none. -/
def decode (text : List Char) : Except FrameFault (Option Message) :=
  if Text.allBlank text then .ok none
  else do
    let members ← objectOf text
    let message ← ofMembers members
    pure (some message)

end Message

end Intercom
