import Intercom.Failure
import Intercom.Json.Printer
import Intercom.Json.Record
import Intercom.Json.Shape

/-!
# Messages from the device

A `Response` answers one request by its identifier, a `Push` is addressed by an event name alone,
and a `Hello` is what the push that makes the channel ready carries.

`Response.parse?`, `Push.parse?` and `Hello.parse?` read records strictly: a field of the wrong
type refuses the whole. The lenient reading of frames is in `Intercom.Message.Frame`.
-/

namespace Intercom

/-- What the device says of itself in its greeting; whatever it leaves out has the default. -/
structure Hello where
  connected : Bool := false
  service : String := ""
  kioskName : String := ""
deriving DecidableEq, Inhabited

namespace Hello

/-- The fields of a greeting, in order. -/
def fieldNames : List String := ["connected", "service", "kiosk_name"]

/-- A greeting from its fields. -/
def ofFields? (fields : Record.Fields) : Option Hello := do
  let connected ← Record.withDefault? fields "connected" Json.asBool? false
  let service ← Record.withDefault? fields "service" Json.asString? ""
  let kioskName ← Record.withDefault? fields "kiosk_name" Json.asString? ""
  some { connected, service, kioskName }

/-- A greeting from a value of exactly its shape. -/
def ofJson? (value : Json) : Option Hello := do
  let fields ← Record.ofJson? fieldNames value
  ofFields? fields

/-- A greeting from any value: one that does not fit gives the greeting that says nothing. -/
def ofJson (value : Json) : Hello :=
  (ofJson? value).getD {}

instance : JsonShape Hello where
  ofJson? := ofJson?
  toJson hello := .object
    [("connected", .bool hello.connected), ("kiosk_name", .string hello.kioskName),
      ("service", .string hello.service)]

end Hello

/-- A message that no request asked for. -/
structure Push where
  event : String
  data : Option Json
  source : Option Json
deriving DecidableEq

namespace Push

/-- The event of the greeting. -/
def helloEvent : String := "hello"

/-- What the event of a broadcast starts with. -/
def broadcastMark : String := "async."

/-- Whether the push is the device's greeting. -/
def isHello (push : Push) : Bool :=
  push.event == helloEvent

/-- The action of a broadcast: its event without the mark. -/
def broadcastAction? (push : Push) : Option String :=
  let mark := broadcastMark.toList
  let event := push.event.toList
  if event.take mark.length = mark then some (String.ofList (event.drop mark.length)) else none

/-- Whether the push is a broadcast. -/
def isBroadcast (push : Push) : Bool :=
  push.broadcastAction?.isSome

/-- The data of the push, `null` if it has none. -/
def dataOrNull (push : Push) : Json :=
  push.data.getD .null

/-- What a greeting says; another push says nothing. -/
def hello? (push : Push) : Option Hello :=
  if push.isHello then some (Hello.ofJson push.dataOrNull) else none

/-- The fields of a push, in order. -/
def fieldNames : List String := ["event", "data", "from"]

/-- A push from its fields. -/
def ofFields? (fields : Record.Fields) : Option Push := do
  let event ← Record.required? fields "event" Json.asString?
  let data ← Record.optional? fields "data" some
  let source ← Record.optional? fields "from" some
  some { event, data, source }

/-- A push from a value of exactly its shape. -/
def ofJson? (value : Json) : Option Push := do
  let fields ← Record.ofJson? fieldNames value
  ofFields? fields

/-- A push from a text of exactly its shape. -/
def parse? (text : List Char) : Option Push := do
  let fields ← Record.parse? fieldNames text
  ofFields? fields

end Push

/-- The text of an error that a server sends: a string as it is, any other value as JSON. -/
def errorText : Json → String
  | .string text => text
  | value => value.text

/-- The device's answer to one request. -/
structure Response where
  id : RequestId
  success : Option Bool
  data : Option Json
  errors : Option (List Json)
  event : Option String
  source : Option Json
deriving DecidableEq

namespace Response

/-- Whether the request was carried out: only an explicit `false` says that it was not. -/
def isSuccess (response : Response) : Bool :=
  response.success != some false

/-- The texts of the server's errors. -/
def errorMessages (response : Response) : List String :=
  (response.errors.getD []).map errorText

/-- Why the device refused the request. -/
def refusal (response : Response) : String :=
  match response.errorMessages with
  | [] => "Request failed"
  | messages => String.intercalate ", " messages

/-- What the response settles its request with. -/
def result (response : Response) : Except Failure Response :=
  if response.isSuccess then .ok response
  else .error (.requestFailed response.id response.refusal)

/-- The response as a push, if it names an event. -/
def toPush? (response : Response) : Option Push :=
  response.event.map fun event => ⟨event, response.data, response.source⟩

/-- The data read as a type; missing data is `null`. -/
def dataAs? (α : Type) [JsonShape α] (response : Response) : Option α :=
  JsonShape.ofJson? (response.data.getD .null)

/-- A member of the data, if the data is an object. -/
def dataMember? (response : Response) (key : String) : Option Json :=
  response.data.bind (Json.member? key)

/-- A text in the data, or the empty one. -/
def getString (response : Response) (key : String) : String :=
  ((response.dataMember? key).bind Json.asString?).getD ""

/-- A word in the data, or 0. -/
def getUInt64 (response : Response) (key : String) : UInt64 :=
  ((response.dataMember? key).bind JsonShape.ofJson?).getD 0

/-- A truth value in the data, or `false`. -/
def getBool (response : Response) (key : String) : Bool :=
  ((response.dataMember? key).bind Json.asBool?).getD false

/-- The fields of a response, in order. -/
def fieldNames : List String := ["id", "success", "data", "errors", "event", "from"]

/-- The items of an array. -/
def items? : Json → Option (List Json)
  | .array items => some items
  | _ => none

/-- A response from its fields. -/
def ofFields? (fields : Record.Fields) : Option Response := do
  let id : UInt64 ← Record.required? fields "id" JsonShape.ofJson?
  let success ← Record.optional? fields "success" Json.asBool?
  let data ← Record.optional? fields "data" some
  let errors ← Record.optional? fields "errors" items?
  let event ← Record.optional? fields "event" Json.asString?
  let source ← Record.optional? fields "from" some
  some { id := ⟨id⟩, success, data, errors, event, source }

/-- A response from a text of exactly its shape. -/
def parse? (text : List Char) : Option Response := do
  let fields ← Record.parse? fieldNames text
  ofFields? fields

end Response

end Intercom
