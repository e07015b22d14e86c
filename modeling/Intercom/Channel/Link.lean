import Intercom.Channel.Pending

/-!
# The link of a channel

How a channel comes to own a socket and lets go of it, when it tries again, and what a greeting
changes. Each operation runs without interruption.
-/

namespace Intercom.Channel

/-- Takes the alarm of a reconnection away. -/
def cancelReconnect (channel : Channel) : Channel :=
  let channel := channel.cancelAlarm channel.link.alarm
  { channel with link := { channel.link with alarm := none } }

/-- Spawns a socket, unless one is owned. -/
def openSocket (channel : Channel) : Channel :=
  if channel.link.socket.isSome then channel
  else
    let channel := channel.cancelReconnect
    let generation := channel.link.generation + 1
    { channel with
      nextTicket := channel.nextTicket + 1
      link :=
        { channel.link with
          socket := some generation
          generation
          ready := false
          hello := none
          manual := false }
      handles := channel.handles ++
        [{ generation, ticket := channel.nextTicket, spawnedAt := channel.now }] }

/-- Lets go of the owned socket for good and gives its generation. -/
def releaseSocket (channel : Channel) : Option Nat × Channel :=
  let socket := channel.link.socket
  let channel := channel.cancelReconnect
  (socket,
    { channel with
      link := { channel.link with socket := none, ready := false, manual := true } })

/-- Asks a socket that was let go to close. -/
def shutDown (channel : Channel) (generation : Nat) : Channel :=
  (channel.enqueue generation .shutdown).enqueue generation .release

/-- Sets an alarm for the next attempt to connect, if the policy allows one more. There is no
answer if the count of attempts is at its end. -/
def scheduleReconnect? (channel : Channel) : Option Channel :=
  if channel.link.attempts.toNat + 1 < UInt32.size then
    let attempt := channel.link.attempts + 1
    if channel.settings.backoff.allows attempt then
      let delay := channel.settings.backoff.delayFor attempt (channel.draw channel.nextTicket)
      let (ticket, channel) := channel.setAlarm (channel.now + delay.millisecondsUp) .reconnect
      some
        { channel with link := { channel.link with attempts := attempt, alarm := some ticket } }
    else some channel
  else none

/-- Lets go of the current socket, which has closed by itself. -/
def loseSocket (channel : Channel) : Channel :=
  let channel := match channel.link.socket with
    | some generation => channel.enqueue generation .release
    | none => channel
  { channel with link := { channel.link with socket := none, ready := false } }

/-- What the close of the current socket does to the link: a socket that nobody closed on purpose is
to be replaced. -/
def closeLink? (channel : Channel) : Option Channel :=
  if channel.link.manual then some channel.loseSocket else channel.loseSocket.scheduleReconnect?

/-- Whether a reconnection whose alarm went off is still wanted. -/
def checkReconnect (channel : Channel) : Bool × Channel :=
  let wanted := !channel.link.manual && channel.link.socket.isNone
  (wanted, { channel with link := { channel.link with alarm := none } })

/-- Takes note of a greeting and tells whether it is the first since the channel was last not
ready. -/
def greet (channel : Channel) (push : Push) : Bool × Channel :=
  (!channel.link.ready,
    { channel with
      link := { channel.link with ready := true, hello := push.hello?, attempts := 0 } })

/-- The end of a channel that nobody holds any more. -/
def drop (channel : Channel) : Channel :=
  let channel := channel.cancelReconnect
  let channel := match channel.link.socket with
    | some generation => channel.shutDown generation
    | none => channel
  let channel := { channel with link := { channel.link with socket := none } }
  channel.pending.foldl
    (fun channel waiting => channel.settle waiting.id (.error .connectionClosed)) channel

end Intercom.Channel
