import Intercom.Identifiers
import Intercom.Url.Fault

/-!
# Failures

Everything that can go wrong, as causes; `Failure.message` holds the wording. A failure is
recoverable when the same request may succeed on another attempt.

What a reader of JSON has to say about a text that it cannot read is no part of a cause, and so it
is missing in the wording: in brackets after `invalid JSON`, and after a colon at the end of
`bad push` and of `JSON error`.
-/

namespace Intercom

/-- Why the settings of a channel are refused. -/
inductive ConfigFault where
  | hostEmpty
  | hostWithoutPort (host : String)
  | pageScheme (scheme : String)
  | addressMissing
  | socketScheme (scheme : String)
  | timeoutZero
  | other (text : String)
deriving DecidableEq

/-- The wording of a refusal. -/
def ConfigFault.message : ConfigFault → String
  | .hostEmpty => "endpoint host is empty"
  | .hostWithoutPort host => "host " ++ host ++ " cannot carry a port"
  | .pageScheme scheme => "page origin scheme must be http or https, got " ++ scheme
  | .addressMissing =>
      "socket address is required. Use .url() or .endpoint() to set it.\n" ++
        "Example: Channel::builder().url(\"ws://10.0.0.5:2026/ws\")"
  | .socketScheme scheme => "socket URL scheme must be ws or wss, got " ++ scheme
  | .timeoutZero => "request timeout must be greater than zero"
  | .other text => text

/-- Why a frame is no message. -/
inductive FrameFault where
  | unreadable
  | notObject (kind : String)
  | uncorrelated (errors : String)
  | unaddressed
  | other (text : String)
deriving DecidableEq

/-- The wording of a frame's fault. -/
def FrameFault.message : FrameFault → String
  | .unreadable => "invalid JSON, nothing to salvage"
  | .notObject kind => "expected JSON object, got " ++ kind
  | .uncorrelated errors => "uncorrelated server error: " ++ errors
  | .unaddressed => "message has neither id nor event"
  | .other text => text

/-- What a socket reports when it cannot go on. -/
inductive SocketFault where
  | connectionClosed
  | alreadyClosed
  | attackAttempt
  | badText
deriving DecidableEq

/-- The wording of a socket's fault. -/
def SocketFault.message : SocketFault → String
  | .connectionClosed => "Connection closed normally"
  | .alreadyClosed => "Trying to work with closed connection"
  | .attackAttempt => "Attack attempt detected"
  | .badText => "UTF-8 encoding error: bad bytes"

/-- Everything that can go wrong. -/
inductive Failure where
  | config (fault : ConfigFault)
  | invalidUrl (fault : Url.Fault)
  | requestFailed (id : RequestId) (text : String)
  | requestTimeout (id : RequestId) (milliseconds : UInt64)
  | connectionClosed
  | malformedFrame (fault : FrameFault)
  | json
  | socket (fault : SocketFault)
deriving DecidableEq

namespace Failure

/-- The wording of a failure. -/
def message : Failure → String
  | .config fault => "Configuration error: " ++ fault.message
  | .invalidUrl fault => "Invalid URL: " ++ fault.message
  | .requestFailed _ text => text
  | .requestTimeout id milliseconds =>
      "Request " ++ id.text ++ " timed out after " ++
        String.ofList (Nat.toDigits 10 milliseconds.toNat) ++ "ms"
  | .connectionClosed => "Connection closed"
  | .malformedFrame fault => "Malformed frame: " ++ fault.message
  | .json => "JSON error"
  | .socket fault => "WebSocket error: " ++ fault.message

/-- Whether no answer came in time. -/
def isTimeout : Failure → Bool
  | .requestTimeout _ _ => true
  | _ => false

/-- Whether the device refused the request. -/
def isRequestFailed : Failure → Bool
  | .requestFailed _ _ => true
  | _ => false

/-- Whether the connection was lost or failed. -/
def isConnectionFailure : Failure → Bool
  | .connectionClosed => true
  | .socket _ => true
  | _ => false

/-- Whether another attempt may succeed. -/
def isRecoverable : Failure → Bool
  | .requestTimeout _ _ => true
  | .connectionClosed => true
  | .socket _ => true
  | _ => false

end Failure

end Intercom
