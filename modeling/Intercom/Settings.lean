import Intercom.Backoff
import Intercom.Endpoint

/-!
# Settings

What a channel is set up with. A `Draft` collects the choices, of which the address has to be made;
`Draft.settings` checks them.
-/

namespace Intercom

/-- Where a channel's socket is to be found. -/
inductive Address where
  | url (text : String)
  | endpoint (endpoint : Endpoint)
deriving DecidableEq

/-- Checked settings of a channel. -/
structure Settings where
  url : Url
  requestTimeout : Duration
  backoff : Backoff
deriving DecidableEq, Inhabited

/-- Choices for a channel; a later address takes the place of an earlier one. -/
structure Draft where
  address : Option Address := none
  requestTimeout : Duration := .ofMilliseconds 60000
  backoff : Backoff := .disabled
deriving DecidableEq

namespace Draft

/-- The draft with a URL as its address. -/
def withUrl (draft : Draft) (text : String) : Draft :=
  { draft with address := some (.url text) }

/-- The draft with an endpoint as its address. -/
def withEndpoint (draft : Draft) (endpoint : Endpoint) : Draft :=
  { draft with address := some (.endpoint endpoint) }

/-- The draft with another time that a request may take. -/
def withTimeout (draft : Draft) (timeout : Duration) : Draft :=
  { draft with requestTimeout := timeout }

/-- The draft with another policy for lost connections. -/
def withBackoff (draft : Draft) (backoff : Backoff) : Draft :=
  { draft with backoff }

/-- The URL of an address. -/
def urlOf : Option Address → Except Failure Url
  | none => .error (.config .addressMissing)
  | some (.endpoint endpoint) => endpoint.url
  | some (.url text) =>
      match Url.parse text with
      | .error fault => .error (.invalidUrl fault)
      | .ok url => .ok url

/-- The settings that a draft amounts to. The address is checked before the timeout. -/
def settings (draft : Draft) : Except Failure Settings := do
  let url ← urlOf draft.address
  if url.scheme != "ws" && url.scheme != "wss" then throw (.config (.socketScheme url.scheme))
  if draft.requestTimeout.isZero then throw (.config .timeoutZero)
  return { url, requestTimeout := draft.requestTimeout, backoff := draft.backoff }

end Draft

end Intercom
