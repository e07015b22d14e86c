import Intercom.Channel.Script
import Intercom.Listeners
import Intercom.Message
import Intercom.Request
import Intercom.Settings

/-!
# The state of a channel

A channel owns at most one socket at a time. Sockets are told apart by their generation, and each
leaves a `Handle` behind: whether it is open, and the commands that were handed to it. Requests wait
in `pending`, each with an alarm of its own, until the first of answer, failed write, closed socket
and alarm settles them; what they were settled with stays in `futures`.

Generations are counted in words of 64 bits. A channel that spawned a socket in every nanosecond
would need centuries to come to the end of them, so a generation is a plain number here. Identifiers
of requests and the count of attempts, which have an end that matters, are words.

The modules below this one hold the sections that run without interruption, and
`Intercom.Channel.Task` puts them together to whole calls and notices.
-/

namespace Intercom

/-- What the channel hands to a socket. `release` says that the channel has let go of it. -/
inductive Command where
  | send (id : RequestId) (frame : String)
  | shutdown
  | release
deriving DecidableEq

/-- The channel's end of a socket. The commands stay in the order in which they were handed over. -/
structure Handle where
  /-- The first socket has generation 1. The count never comes to the end of its word. -/
  generation : Nat
  ticket : Nat
  spawnedAt : Nat
  isOpen : Bool := false
  commands : List Command := []
deriving DecidableEq

/-- What an alarm is for. -/
inductive Purpose where
  | expire (id : RequestId) (timeout : Duration)
  | reconnect
deriving DecidableEq

/-- An alarm that has not gone off yet, with the millisecond from which on it may. -/
structure Alarm where
  ticket : Nat
  due : Nat
  purpose : Purpose
deriving DecidableEq

/-- A request that waits to be settled. -/
structure Waiting where
  id : RequestId
  event : String
  /-- The generation of the latest socket at the time of the request. The count never comes to the
  end of its word. -/
  generation : Nat
  alarm : Option Nat := none
deriving DecidableEq

/-- What a request is settled with. -/
abbrev Outcome := Except Failure Response

/-- The client's side of a request. -/
structure Future where
  id : RequestId
  held : Bool := true
  outcome : Option Outcome := none

/-- Which socket is owned, and how far the greeting has come. -/
structure Link where
  socket : Option Nat := none
  /-- The generation of the latest socket, 0 before the first one. The count never comes to the end
  of its word. -/
  generation : Nat := 0
  ready : Bool := false
  hello : Option Hello := none
  manual : Bool := false
  attempts : UInt32 := 0
  alarm : Option Nat := none
deriving DecidableEq

/-- A registered callback; the index counts its runs. -/
structure Hook where
  index : Nat
  script : Script

/-- How far a channel is from being usable. -/
inductive Status where
  | disconnected
  | connecting
  | ready
deriving DecidableEq

/-- The state of a channel. -/
structure Channel where
  settings : Settings
  /-- What is drawn for the delay of a reconnection, by the ticket of its alarm. -/
  draw : Nat → Nat := fun _ => 0
  /-- The time in milliseconds. -/
  now : Nat := 0
  /-- The ticket of the next alarm or socket. -/
  nextTicket : Nat := 0
  ids : RequestIds := .start
  link : Link := {}
  handles : List Handle := []
  pending : List Waiting := []
  alarms : List Alarm := []
  futures : List Future := []
  listeners : Listeners Hook := {}
  onConnect : Option Hook := none
  onDisconnect : Option Hook := none
  /-- How often each hook has run, by its index. -/
  runs : List Nat := []
  journal : List Entry := []

namespace Channel

/-- A channel that has done nothing yet. -/
def start (settings : Settings) : Channel :=
  { settings }

/-- Where the channel connects to. -/
def url (channel : Channel) : Url :=
  channel.settings.url

/-! ## Views -/

/-- The handle of a socket. -/
def handle? (channel : Channel) (generation : Nat) : Option Handle :=
  channel.handles.find? fun handle => handle.generation = generation

/-- Whether the socket of a generation is open. -/
def isOpen (channel : Channel) (generation : Nat) : Bool :=
  match channel.handle? generation with
  | some handle => handle.isOpen
  | none => false

/-- How far the channel is. -/
def status (channel : Channel) : Status :=
  match channel.link.socket with
  | none => .disconnected
  | some generation =>
      if channel.isOpen generation && channel.link.ready then .ready else .connecting

/-- Whether the channel can be used. -/
def connected (channel : Channel) : Bool :=
  channel.status == .ready

/-- The greeting of the current socket. -/
def hello (channel : Channel) : Option Hello :=
  channel.link.hello

/-- Whether a request waits. -/
def isPending (channel : Channel) (id : RequestId) : Bool :=
  channel.pending.any fun waiting => waiting.id = id

/-- The name of a status. -/
def statusName : Status → String
  | .disconnected => "Disconnected"
  | .connecting => "Connecting"
  | .ready => "Ready"

/-- A channel in one line; the URL stands in quotes. -/
def describe (channel : Channel) : String :=
  "Channel \x7b url: \"" ++ channel.url.text ++ "\", state: " ++ statusName channel.status ++
    ", pending: " ++ toString channel.pending.length ++ ", .. \x7d"

/-! ## Alarms and handles -/

/-- Sets an alarm and gives its ticket. -/
def setAlarm (channel : Channel) (due : Nat) (purpose : Purpose) : Nat × Channel :=
  let ticket := channel.nextTicket
  (ticket,
    { channel with
      nextTicket := ticket + 1
      alarms := channel.alarms ++ [⟨ticket, due, purpose⟩] })

/-- Takes an alarm away, if it has not gone off. -/
def cancelAlarm (channel : Channel) : Option Nat → Channel
  | none => channel
  | some ticket =>
      { channel with alarms := channel.alarms.filter fun alarm => alarm.ticket != ticket }

/-- The channel with a change to the handle of one generation. -/
def updateHandle (channel : Channel) (generation : Nat) (change : Handle → Handle) : Channel :=
  { channel with
    handles := channel.handles.map fun handle =>
      if handle.generation = generation then change handle else handle }

/-- Hands a command to the socket of a generation. -/
def enqueue (channel : Channel) (generation : Nat) (command : Command) : Channel :=
  channel.updateHandle generation fun handle =>
    { handle with commands := handle.commands ++ [command] }

/-- Records whether a socket is open. -/
def setOpen (channel : Channel) (generation : Nat) (isOpen : Bool) : Channel :=
  channel.updateHandle generation fun handle => { handle with isOpen }

end Channel

end Intercom
