import Intercom.Channel.Task
import Intercom.Simulation.Device
import Intercom.Socket

/-!
# Simulated runs

A channel together with all that it depends on: a clock that only moves when it is told to, a
network, and a device at the other end. A run is a list of steps; after each of them everything
goes on until nothing more can happen without moving the clock, and then a row says what can be
seen.

Alarms and new sockets take their turn in the order in which they are due, and among those that are
due together in the order of their tickets. Open sockets take theirs after that. Where nothing says
which of two things comes first, the run is told: `Simulation.ties` is an input like the network.
-/

namespace Intercom

/-- Whether the device can be reached at all. -/
inductive Network where
  | up
  | down
deriving DecidableEq

/-- What comes first of an attempt that has failed and was asked to close as well. -/
inductive Tie where
  | failure
  | close
deriving DecidableEq

/-- The loop of one socket, with how many of its commands it has taken. -/
structure SocketLoop where
  generation : Nat
  phase : Phase := .opening
  taken : Nat := 0
deriving DecidableEq

/-- A channel and its surroundings. -/
structure Simulation where
  network : Network
  channel : Channel
  /-- How the tie of each socket comes out, by its generation. -/
  ties : Nat → Tie := fun _ => .failure
  mode : DeviceMode := .accept
  dropped : Bool := false
  agenda : Agenda := []
  loops : List SocketLoop := []
  /-- What the device has sent and the socket has not taken in yet. -/
  inbound : List (Nat × Occurrence) := []
  received : List String := []
  /-- How many lines of the record have been shown. -/
  shown : Nat := 0

/-- One step of a run. -/
inductive Step where
  | call (call : Call)
  | batch (calls : List Call)
  | mode (mode : DeviceMode)
  | device (occurrence : Occurrence)
  | advance (milliseconds : Nat)
  | drop

/-- What a step answers. -/
inductive Answer where
  | nothing
  | reply (reply : Reply)
  | replies (replies : List Reply)
  | sent
  | noSocket
  | dropped
  | allDropped (calls : Nat)

/-- What can be seen of a channel. -/
structure View where
  status : Status
  connected : Bool
  pending : Nat
  hello : Option Hello

/-- What can be seen after a step. -/
structure Row where
  answer : Answer
  log : List Entry
  frames : List String
  settled : List (RequestId × Outcome)
  view : Option View

namespace Channel

/-- What can be seen of the channel. -/
def view (channel : Channel) : View :=
  ⟨channel.status, channel.connected, channel.pending.length, channel.hello⟩

end Channel

namespace Simulation

/-! ## Turns -/

/-- What can take a turn before open sockets do. -/
inductive Turn where
  | alarm (alarm : Alarm)
  | attempt (handle : Handle)

/-- When a turn is due, and its ticket. -/
def Turn.order : Turn → Nat × Nat
  | .alarm ringing => (ringing.due, ringing.ticket)
  | .attempt fresh => (fresh.spawnedAt, fresh.ticket)

/-- Whether a turn comes before another. -/
def Turn.before (first second : Turn) : Bool :=
  let a := first.order
  let b := second.order
  a.1 < b.1 || (a.1 == b.1 && a.2 < b.2)

/-- The turns that are due: alarms whose time has come, and sockets that have not started. -/
def turns (world : Simulation) : List Turn :=
  let alarms := world.channel.alarms.filter fun alarm => alarm.due ≤ world.channel.now
  let fresh := world.channel.handles.filter fun handle =>
    world.loops.all fun loop => loop.generation != handle.generation
  alarms.map .alarm ++ fresh.map .attempt

/-- The first of the turns that are due. -/
def nextTurn? (world : Simulation) : Option Turn :=
  world.turns.foldl
    (fun best turn =>
      match best with
      | none => some turn
      | some other => if turn.before other then some turn else some other)
    none

/-- The tasks of a turn of a socket's loop; a dropped channel takes no notice. -/
def applyReaction (world : Simulation) (loop : SocketLoop) (reaction : Reaction) : Simulation :=
  { world with
    channel := world.channel.setOpen loop.generation reaction.phase.isLive
    loops := world.loops.map fun other =>
      if other.generation = loop.generation then { loop with phase := reaction.phase } else other
    agenda :=
      if world.dropped then [] else reaction.notices.map (.receive loop.generation)
    received := world.received ++ reaction.written }

/-- Why no attempt succeeds while the network is down. -/
def unreachable : String :=
  "IO error: Network is unreachable (os error 101)"

/-- What becomes of an attempt while the network is down. It fails at once. If it was asked to close
as well, then both are at hand together, and the tie says which comes first. -/
def downOccurrence (tie : Tie) (handle : Handle) : Occurrence :=
  let asked := handle.commands.find? fun command => command = .shutdown || command = .release
  match tie, asked with
  | .close, some command => .command command none
  | .close, none => .refusal unreachable
  | .failure, _ => .refusal unreachable

/-- Starts the loop of a socket. -/
def startLoop (world : Simulation) (handle : Handle) : Simulation :=
  let loop : SocketLoop := { generation := handle.generation }
  let world := { world with loops := world.loops ++ [loop] }
  match world.network with
  | .up => world
  | .down =>
      let occurrence := downOccurrence (world.ties handle.generation) handle
      world.applyReaction loop (Phase.opening.react occurrence)

/-- Carries out a turn. -/
def takeTurn (world : Simulation) : Turn → Simulation
  | .alarm alarm =>
      let channel := world.channel.cancelAlarm (some alarm.ticket)
      { world with channel, agenda := if world.dropped then [] else [alarm.purpose.task] }
  | .attempt handle => world.startLoop handle

/-- The next command of a socket's loop. -/
def nextCommand? (world : Simulation) (loop : SocketLoop) : Option Command :=
  (world.channel.handle? loop.generation).bind fun handle => handle.commands[loop.taken]?

/-- What happens next to a socket: its commands first, then what the device sends, and while it is
opening what the device does with the attempt. -/
def nextOccurrence? (world : Simulation) (loop : SocketLoop) : Option Occurrence :=
  match loop.phase with
  | .ended => none
  | .opening =>
      match world.nextCommand? loop with
      | some command => some (.command command none)
      | none =>
          match world.mode with
          | .accept => some .handshake
          | mode => mode.refusal?.map .refusal
  | .live =>
      match world.nextCommand? loop with
      | some command => some (.command command none)
      | none =>
          (world.inbound.find? fun entry => entry.1 = loop.generation).map fun entry => entry.2

/-- The world after a socket took in what happened to it. -/
def turnLoop (world : Simulation) (loop : SocketLoop) (occurrence : Occurrence) : Simulation :=
  let reaction := loop.phase.react occurrence
  match occurrence with
  | .command _ _ => world.applyReaction { loop with taken := loop.taken + 1 } reaction
  | .handshake => world.applyReaction loop reaction
  | .refusal _ => world.applyReaction loop reaction
  | _ =>
      let world :=
        { world with inbound := world.inbound.eraseP fun entry => entry.1 = loop.generation }
      world.applyReaction loop reaction

/-- The first socket to which something happens. -/
def loopTurn? (world : Simulation) : Option Simulation :=
  world.loops.findSome? fun loop =>
    (world.nextOccurrence? loop).map fun occurrence => world.turnLoop loop occurrence

/-- The next thing that happens without moving the clock. -/
def next? (world : Simulation) : Option Simulation :=
  match world.agenda with
  | _ :: _ =>
      let (agenda, channel) := world.agenda.step world.channel
      some { world with agenda, channel }
  | [] =>
      match world.nextTurn? with
      | some turn => some (world.takeTurn turn)
      | none => world.loopTurn?

/-- Lets things happen until nothing more can. -/
def settle : Nat → Simulation → Simulation
  | 0, world => world
  | steps + 1, world =>
      match world.next? with
      | none => world
      | some world => settle steps world

/-- Carries out the agenda alone. -/
def finish : Nat → Simulation → Simulation
  | 0, world => world
  | steps + 1, world =>
      match world.agenda with
      | [] => world
      | agenda =>
          let (agenda, channel) := agenda.step world.channel
          finish steps { world with agenda, channel }

/-- How many things may happen in one step before the run is given up. -/
def patience : Nat := 1000000

/-! ## Steps -/

/-- A call from outside, carried out whole. -/
def performCall (world : Simulation) (call : Call) : Reply × Simulation :=
  let (reply, agenda, channel) := call.begin none world.channel
  (reply, finish patience { world with agenda, channel })

/-- Calls one after the other. -/
def performCalls (world : Simulation) : List Call → List Reply × Simulation
  | [] => ([], world)
  | call :: rest =>
      let (reply, world) := world.performCall call
      let (replies, world) := world.performCalls rest
      (reply :: replies, world)

/-- The socket that the device can use. -/
def liveLoop? (world : Simulation) : Option SocketLoop :=
  world.loops.find? fun loop => loop.phase.isLive

/-- Carries out a step, before anything follows from it. -/
def perform (world : Simulation) : Step → Answer × Simulation
  | .call call =>
      if world.dropped then (.dropped, world)
      else
        let (reply, world) := world.performCall call
        (.reply reply, world)
  | .batch calls =>
      if world.dropped then (.allDropped calls.length, world)
      else
        let (replies, world) := world.performCalls calls
        (.replies replies, world)
  | .mode mode => (.nothing, { world with mode })
  | .device occurrence =>
      match world.liveLoop? with
      | none => (.noSocket, world)
      | some loop =>
          (.sent, { world with inbound := world.inbound ++ [(loop.generation, occurrence)] })
  | .advance milliseconds =>
      (.nothing,
        { world with channel := { world.channel with now := world.channel.now + milliseconds } })
  | .drop =>
      if world.dropped then (.nothing, world)
      else (.nothing, { world with dropped := true, channel := world.channel.drop })

/-- Carries out a step and lets all follow from it. -/
def step (world : Simulation) (step : Step) : Row × Simulation :=
  let (answer, world) := world.perform step
  let world := settle patience world
  let (settled, channel) := world.channel.takeSettled
  let row : Row :=
    { answer
      log := channel.journal.drop world.shown
      frames := world.received
      settled
      view := if world.dropped then none else some channel.view }
  (row, { world with channel, received := [], shown := channel.journal.length })

/-- The rows of a run. -/
def rows (world : Simulation) : List Step → List Row
  | [] => []
  | first :: rest =>
      let (row, world) := world.step first
      row :: world.rows rest

/-- A channel that has done nothing, on a network, and how ties are to come out. -/
def start (network : Network) (channel : Channel) (ties : Nat → Tie := fun _ => .failure) :
    Simulation :=
  { network, channel, ties }

end Simulation

end Intercom
