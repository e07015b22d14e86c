import Intercom.Channel

/-!
# Sockets

What a socket does with whatever happens to it: `Phase.react` is one turn of its loop. A socket is
first opening, then live, and at last ended; it tells its channel of all that matters, and the last
thing that it tells is that it closed.

Commands handed over before the socket is live are dropped, apart from those that end it.
-/

namespace Intercom

/-- How far a socket is. -/
inductive Phase where
  | opening
  | live
  | ended
deriving DecidableEq

/-- What may happen to a socket. -/
inductive Occurrence where
  /-- The opening handshake is complete. -/
  | handshake
  /-- The socket cannot be opened. -/
  | refusal (reason : String)
  | text (frame : String)
  | binary
  | ping
  /-- The peer closes the socket, with a code and a reason or without. -/
  | close (status : Option (UInt16 × String))
  | readError (reason : String)
  | endOfStream
  /-- The next command is taken; if it is a frame, writing it may fail. -/
  | command (command : Command) (writeFailure : Option Failure)
deriving DecidableEq

/-- What a turn of the loop leads to. -/
structure Reaction where
  phase : Phase
  notices : List Notice := []
  written : List String := []
deriving DecidableEq

namespace Phase

/-- The closing that a peer's close amounts to. -/
def peerClosing : Option (UInt16 × String) → Closing
  | some (code, reason) => .coded code reason
  | none => .abnormal "closed without status"

/-- A socket that ends. -/
def ending (closing : Closing) : Reaction :=
  ⟨.ended, [.closed closing], []⟩

/-- One turn of the loop of a socket. -/
def react : Phase → Occurrence → Reaction
  | .opening, .handshake => ⟨.live, [.opened], []⟩
  | .opening, .refusal reason => ending (.abnormal reason)
  | .opening, .command (.send _ _) _ => ⟨.opening, [], []⟩
  | .opening, .command _ _ => ending (.abnormal "closed before open")
  | .opening, _ => ⟨.opening, [], []⟩
  | .live, .text frame => ⟨.live, [.message frame], []⟩
  | .live, .close status => ending (peerClosing status)
  | .live, .readError reason => ending (.abnormal reason)
  | .live, .endOfStream => ending (.abnormal "stream ended")
  | .live, .command (.send _ frame) none => ⟨.live, [], [frame]⟩
  | .live, .command (.send id _) (some failure) => ⟨.live, [.sendFailed id failure], []⟩
  | .live, .command .shutdown _ => ending (.coded Closing.normalCode "closed by client")
  | .live, .command .release _ => ending (.coded Closing.normalCode "connection dropped")
  | .live, _ => ⟨.live, [], []⟩
  | .ended, _ => ⟨.ended, [], []⟩

/-- Whether a socket counts as open. -/
def isLive (phase : Phase) : Bool :=
  phase == .live

end Phase

end Intercom
