import Intercom.Channel

/-!
# Requests that wait

How a request of a channel is entered, settled and forgotten. A request waits from its entry until
the first settlement, which takes it out and cancels its alarm, so that every later one finds
nothing.
-/

namespace Intercom.Channel

/-- Enters a request that waits, as yet without an alarm. -/
def enterWaiting (channel : Channel) (id : RequestId) (event : String) (generation : Nat) :
    Channel :=
  { channel with
    pending := channel.pending ++ [{ id, event, generation }]
    futures := channel.futures ++ [{ id }] }

/-- Ties an alarm to a waiting request, or takes the alarm away if the request waits no more. -/
def attachAlarm (channel : Channel) (id : RequestId) (ticket : Nat) : Channel :=
  if channel.isPending id then
    { channel with
      pending := channel.pending.map fun waiting =>
        if waiting.id = id then { waiting with alarm := some ticket } else waiting }
  else channel.cancelAlarm (some ticket)

/-- Registers a request: it waits from now on, at most as long as its timeout. The alarm is set
after the entry, so that one that goes off at once finds it. -/
def register (channel : Channel) (id : RequestId) (event : String) (generation : Nat)
    (timeout : Duration) : Channel :=
  let channel := channel.enterWaiting id event generation
  let (ticket, channel) :=
    channel.setAlarm (channel.now + timeout.millisecondsUp) (.expire id timeout)
  channel.attachAlarm id ticket

/-- Completes the future of a request; a completed one stays as it is. -/
def resolve (channel : Channel) (id : RequestId) (outcome : Outcome) : Channel :=
  { channel with
    futures := channel.futures.map fun future =>
      if future.id = id && future.outcome.isNone then { future with outcome := some outcome }
      else future }

/-- Settles a waiting request: it waits no more, its alarm is taken away and its future completed. A
request that does not wait is left alone. -/
def settle (channel : Channel) (id : RequestId) (outcome : Outcome) : Channel :=
  match channel.pending.find? fun waiting => waiting.id = id with
  | none => channel
  | some waiting =>
      let channel :=
        { channel with pending := channel.pending.filter fun other => other.id != id }
      (channel.cancelAlarm waiting.alarm).resolve id outcome

/-- Settles every request that was made on a generation or an earlier one. -/
def rejectThrough (channel : Channel) (generation : Nat) : Channel :=
  let stale := channel.pending.filter fun waiting => waiting.generation ≤ generation
  stale.foldl (fun channel waiting => channel.settle waiting.id (.error .connectionClosed)) channel

/-- The failure of a request whose time is over. -/
def timeoutFailure (id : RequestId) (timeout : Duration) : Failure :=
  .requestTimeout id timeout.milliseconds64

/-- Lets go of the client's side of a request and tells whether it was still held. -/
def forget (channel : Channel) (id : RequestId) : Bool × Channel :=
  (channel.futures.any fun future => future.id = id && future.held,
    { channel with
      futures := channel.futures.map fun future =>
        if future.id = id then { future with held := false } else future })

/-- The futures that are held and complete, which the client takes, and the channel without them. -/
def takeSettled (channel : Channel) : List (RequestId × Outcome) × Channel :=
  let complete := channel.futures.filterMap fun future =>
    if future.held then future.outcome.map (future.id, ·) else none
  (complete,
    { channel with
      futures := channel.futures.map fun future =>
        if future.outcome.isSome then { future with held := false } else future })

end Intercom.Channel
