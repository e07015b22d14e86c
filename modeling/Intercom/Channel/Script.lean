import Intercom.Closing
import Intercom.Failure
import Intercom.Json.Value
import Intercom.Duration

/-!
# Calls and scripts

What a client may ask of a channel (`Call`), what a socket tells it (`Notice`), and what a callback
does when it runs (`Script`). A script is data: calls to make one after the other, among them such
as register further scripts, and points at which it breaks off. So whatever a callback may do to a
channel is a value, and a run can be repeated and reasoned about.
-/

namespace Intercom

/-- What a socket tells its channel. -/
inductive Notice where
  | opened
  | message (text : String)
  | sendFailed (id : RequestId) (failure : Failure)
  | closed (closing : Closing)
deriving DecidableEq

/-- Which registrations for an event a call removes. `own` is the one whose script makes the call;
outside a listener it means all. -/
inductive Selection where
  | all
  | one (id : SubscriptionId)
  | own
deriving DecidableEq

mutual

/-- What a client may ask of a channel. -/
inductive Call where
  | connect
  | disconnect
  | request (event : String) (data : Option Json) (timeout : Option Duration)
  | forget (id : RequestId)
  | on (event : String) (script : Script)
  | off (event : String) (selection : Selection)
  | count (event : String)
  | onConnect (script : Script)
  | onDisconnect (script : Script)
  | notify (generation : Nat) (notice : Notice)

/-- One step of a script: a call, or a panic, which ends the script. -/
inductive Action where
  | call (call : Call)
  | panic

/-- A callback: it records its label and then takes its actions, on its first `limit` runs if that
is given. -/
inductive Script where
  | make (label : String) (actions : List Action) (limit : Option Nat)

end

namespace Script

/-- What the script calls itself in the record. -/
def label : Script → String
  | .make label _ _ => label

/-- What the script does. -/
def actions : Script → List Action
  | .make _ actions _ => actions

/-- On how many runs the script does it. -/
def limit : Script → Option Nat
  | .make _ _ limit => limit

/-- What the script does on its run number `run`, counted from 1. -/
def actionsOnRun (script : Script) (run : Nat) : List Action :=
  if script.limit.all fun limit => run ≤ limit then script.actions else []

end Script

/-- What a call answers. -/
inductive Reply where
  | done
  | request (id : RequestId)
  | subscription (id : SubscriptionId)
  | number (n : Nat)
  | held (wasHeld : Bool)
deriving DecidableEq

/-- One line of the record that callbacks leave. -/
inductive Entry where
  | push (label event : String) (data : Json) (source : Option Json)
  | connect (label : String) (connected : Bool)
  | disconnect (label : String) (closing : Closing)
  | did (label : String) (call : Call) (reply : Reply)

end Intercom
