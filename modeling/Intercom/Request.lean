import Intercom.Identifiers
import Intercom.Json.Printer

/-!
# Requests

A request names an event and may carry data. `null` and the empty object say nothing, so a request
with such data carries none.

Results: a request never carries `null` (`data_ne_null`).
-/

namespace Intercom

/-- A request as it is sent. -/
structure Request where
  id : RequestId
  event : String
  data : Option Json
deriving DecidableEq

namespace Request

/-- Data that says something. -/
def payload? : Json → Option Json
  | .null => none
  | .object [] => none
  | value => some value

/-- A request for an event. -/
def make (id : RequestId) (event : String) (data : Option Json) : Request :=
  ⟨id, event, data.bind payload?⟩

/-- The text of a request: identifier, event and, if there is any, data. -/
def frame (request : Request) : List Char :=
  let data := match request.data with
    | none => []
    | some value => ",\"data\":".toList ++ value.print
  "\x7b\"id\":".toList ++ Nat.toDigits 10 request.id.value.toNat ++ ",\"event\":".toList ++
    Quoted.encode request.event.toList ++ data ++ ['}']

/-- The text of a request as a string. -/
def text (request : Request) : String :=
  String.ofList request.frame

theorem data_ne_null (id : RequestId) (event : String) (data : Option Json) :
    (make id event data).data ≠ some .null := by
  intro carries
  cases data with
  | none => simp [make] at carries
  | some value =>
      simp only [make, Option.bind_some] at carries
      unfold payload? at carries
      split at carries
      · cases carries
      · cases carries
      · next notNull _ =>
          exact notNull (Option.some.inj carries)

end Request

end Intercom
