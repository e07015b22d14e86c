import Intercom.Failure
import Intercom.Text.Blank
import Intercom.Url.Parser

/-!
# Endpoints

The address of a device in parts: host, port, path, and the names that the device is told in the
query. `Endpoint.url` builds the URL of its socket.
-/

namespace Intercom

/-- The address of a device. -/
structure Endpoint where
  host : String
  secure : Bool := false
  port : Option UInt16 := some 2026
  path : String := "/ws"
  token : Option String := none
  device : Option String := none
deriving DecidableEq

namespace Endpoint

/-- The endpoint on a host, at the usual port and path. -/
def ofHost (host : String) : Endpoint :=
  { host }

/-- The endpoint on a host, as secure as the page that asks for it. -/
def ofPageOrigin (origin host : String) : Except Failure Endpoint :=
  match Url.parse origin with
  | .error fault => .error (.invalidUrl fault)
  | .ok url =>
      if url.scheme = "https" then .ok { host, secure := true }
      else if url.scheme = "http" then .ok { host }
      else .error (.config (.pageScheme url.scheme))

/-- The endpoint with a secure socket or without. -/
def withSecure (endpoint : Endpoint) (secure : Bool) : Endpoint :=
  { endpoint with secure }

/-- The endpoint at another port. -/
def withPort (endpoint : Endpoint) (port : UInt16) : Endpoint :=
  { endpoint with port := some port }

/-- The endpoint at the port that its scheme stands for. -/
def withoutPort (endpoint : Endpoint) : Endpoint :=
  { endpoint with port := none }

/-- The endpoint at another path. -/
def withPath (endpoint : Endpoint) (path : String) : Endpoint :=
  { endpoint with path }

/-- The endpoint of a named device. -/
def withDevice (endpoint : Endpoint) (device : String) : Endpoint :=
  { endpoint with device := some device }

/-- The endpoint with a token; an empty token is none. -/
def withToken (endpoint : Endpoint) (token : Option String) : Endpoint :=
  { endpoint with token := token.filter fun text => !text.isEmpty }

/-- The endpoint with the token that a store has. -/
def tokenFrom (endpoint : Endpoint) (store : Unit → Option String) : Endpoint :=
  endpoint.withToken (store ())

/-- The scheme of the endpoint's socket. -/
def scheme (endpoint : Endpoint) : String :=
  if endpoint.secure then "wss" else "ws"

/-- The URL with a pair in its query, if there is a value for it. -/
def appendIfSet (url : Url) (name : String) : Option String → Url
  | none => url
  | some value => url.appendPair name value

/-- The URL of the endpoint's socket. -/
def url (endpoint : Endpoint) : Except Failure Url :=
  if Text.allBlank endpoint.host.toList then .error (.config .hostEmpty)
  else
    match Url.parse (endpoint.scheme ++ "://" ++ endpoint.host) with
    | .error fault => .error (.invalidUrl fault)
    | .ok url =>
        if !url.carriesPort then .error (.config (.hostWithoutPort endpoint.host))
        else
          let url := (url.setPort endpoint.port).setPath endpoint.path
          .ok (appendIfSet (appendIfSet url "device" endpoint.device) "token" endpoint.token)

end Endpoint

end Intercom
