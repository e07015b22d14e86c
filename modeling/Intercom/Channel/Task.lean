import Intercom.Channel.Hooks
import Intercom.Channel.Link
import Intercom.Message.Frame

/-!
# Work on a channel

A call or a notice is carried out in several sections, and between them callbacks may make further
calls. What is still to be done is a list of tasks, innermost first: `Task.run` carries out
one task and puts what it leads to in its place. A callback that is running is a task too, so
whatever it starts comes before its own next action.

Several lists of tasks over one channel, each advanced one task at a time, are the interleavings
of concurrent calls.
-/

namespace Intercom

/-- A callback in the middle of its actions. A listener knows its registration. -/
structure Running where
  label : String
  own : Option SubscriptionId
  actions : List Action

/-- One section of work. -/
inductive Task where
  /-- Spawns a socket, unless one is owned. -/
  | connect
  /-- Closes a socket that the channel has let go of. -/
  | shutDown (generation : Nat)
  /-- Hands the frame of a request to the socket that was owned when it was made. -/
  | send (socket : Option Nat) (request : Request)
  /-- Takes in what a socket tells. -/
  | receive (generation : Nat) (notice : Notice)
  /-- Finds out whom a message is for. -/
  | route (generation : Nat) (message : Message)
  /-- Acts on a push: the greeting first, then its listeners. -/
  | dispatch (generation : Nat) (push : Push)
  /-- Runs the callback for a channel that is ready, after a greeting by the socket of a
  generation. -/
  | announceReady (generation : Nat)
  /-- Finds the listeners of a push. -/
  | broadcast (push : Push)
  /-- Runs listeners of a push one after the other and counts those that end normally. -/
  | deliver (push : Push) (current : Option Running) (listeners : List (Listener Hook))
      (completed : Nat)
  /-- Settles the requests that a closed socket leaves behind. -/
  | sweep (generation : Nat)
  /-- Runs the callback for a socket that was lost. -/
  | announceClose (closing : Closing)
  /-- Runs a callback that is no listener. -/
  | callback (running : Running)
  /-- Writes a line into the record. -/
  | report (entry : Entry)
  /-- Ends the wait of a request whose alarm went off. -/
  | expire (id : RequestId) (timeout : Duration)
  /-- Sees whether a reconnection whose alarm went off is still wanted. -/
  | reconnect

/-- Tasks still to be done, the next one first. -/
abbrev Agenda := List Task

namespace Call

/-- The first section of a call: its answer, and what remains to be done. `own` is the registration
of the listener that makes the call. -/
def begin (own : Option SubscriptionId) (call : Call) (channel : Channel) :
    Reply × Agenda × Channel :=
  match call with
  | .connect => (.done, [], channel.openSocket)
  | .disconnect =>
      let (socket, channel) := channel.releaseSocket
      (.done, socket.toList.map .shutDown, channel)
  | .request event data timeout =>
      let (id, ids) := channel.ids.take
      let channel := { channel with ids }
      let timeout := timeout.getD channel.settings.requestTimeout
      let socket := channel.link.socket
      let channel := channel.register id event channel.link.generation timeout
      (.request id, [.send socket (.make id event data)], channel)
  | .forget id =>
      let (wasHeld, channel) := channel.forget id
      (.held wasHeld, [], channel)
  | .on event script =>
      let (hook, channel) := channel.addHook script
      let (id, listeners) := channel.listeners.add event hook
      (.subscription id, [], { channel with listeners })
  | .off event selection =>
      let which := match selection with
        | .all => none
        | .one id => some id
        | .own => own
      let (removed, listeners) := channel.listeners.remove event which
      (.number removed, [], { channel with listeners })
  | .count event => (.number (channel.listeners.count event), [], channel)
  | .onConnect script =>
      let (hook, channel) := channel.addHook script
      (.done, [], { channel with onConnect := some hook })
  | .onDisconnect script =>
      let (hook, channel) := channel.addHook script
      (.done, [], { channel with onDisconnect := some hook })
  | .notify generation notice => (.done, [.receive generation notice], channel)

end Call

namespace Running

/-- A hook that starts to run, after its line in the record. -/
def start (hook : Hook) (own : Option SubscriptionId) (entry : Entry) (channel : Channel) :
    Running × Channel :=
  let (actions, channel) := (channel.record entry).countRun hook
  (⟨hook.script.label, own, actions⟩, channel)

end Running

namespace Task

/-- What a call that a callback makes leads to. Its answer goes into the record once all of it is
done. -/
def perform (running : Running) (call : Call) (channel : Channel) : Agenda × Channel :=
  let (reply, agenda, channel) := call.begin running.own channel
  (agenda ++ [.report (.did running.label call reply)], channel)

/-- Carries out one task. -/
def run (task : Task) (channel : Channel) : Agenda × Channel :=
  match task with
  | .connect => ([], channel.openSocket)
  | .shutDown generation => ([], channel.shutDown generation)
  | .send socket request =>
      match socket with
      | some generation =>
          if channel.isOpen generation then
            ([], channel.enqueue generation (.send request.id request.text))
          else ([], channel)
      | none => ([], channel)
  | .receive generation notice =>
      match notice with
      | .opened => ([], channel)
      | .message text =>
          if channel.link.generation = generation then
            match Message.decode text.toList with
            | .ok (some message) => ([.route generation message], channel)
            | .ok none => ([], channel)
            | .error _ => ([], channel)
          else ([], channel)
      | .sendFailed id failure => ([], channel.settle id (.error failure))
      | .closed closing =>
          if channel.link.generation = generation then
            match channel.closeLink? with
            | some channel => ([.sweep generation, .announceClose closing], channel)
            | none => ([], channel.loseSocket)
          else ([.sweep generation], channel)
  | .route generation message =>
      match message with
      | .response answer =>
          if channel.isPending answer.id then ([], channel.settle answer.id answer.result)
          else
            match answer.toPush? with
            | some push => ([.dispatch generation push], channel)
            | none => ([], channel)
      | .push push => ([.dispatch generation push], channel)
  | .dispatch generation push =>
      if push.isHello && channel.link.generation = generation then
        let (first, channel) := channel.greet push
        (if first then [.announceReady generation, .broadcast push] else [.broadcast push], channel)
      else ([.broadcast push], channel)
  | .announceReady _ =>
      match channel.onConnect with
      | none => ([], channel)
      | some hook =>
          let entry := .connect hook.script.label channel.connected
          let (running, channel) := Running.start hook none entry channel
          ([.callback running], channel)
  | .broadcast push => ([.deliver push none (channel.listeners.ofEvent push.event) 0], channel)
  | .deliver push current listeners completed =>
      match current with
      | none =>
          match listeners with
          | [] => ([], channel)
          | listener :: rest =>
              let hook := listener.handler
              let entry := .push hook.script.label push.event push.dataOrNull push.source
              let (running, channel) := Running.start hook (some listener.id) entry channel
              ([.deliver push (some running) rest completed], channel)
      | some running =>
          match running.actions with
          | [] => ([.deliver push none listeners (completed + 1)], channel)
          | .panic :: _ => ([.deliver push none listeners completed], channel)
          | .call call :: actions =>
              let (agenda, channel) := perform running call channel
              (agenda ++ [.deliver push (some { running with actions }) listeners completed],
                channel)
  | .sweep generation => ([], channel.rejectThrough generation)
  | .announceClose closing =>
      match channel.onDisconnect with
      | none => ([], channel)
      | some hook =>
          let entry := .disconnect hook.script.label closing
          let (running, channel) := Running.start hook none entry channel
          ([.callback running], channel)
  | .callback running =>
      match running.actions with
      | [] => ([], channel)
      | .panic :: _ => ([], channel)
      | .call call :: actions =>
          let (agenda, channel) := perform running call channel
          (agenda ++ [.callback { running with actions }], channel)
  | .report entry => ([], channel.record entry)
  | .expire id timeout => ([], channel.settle id (.error (Channel.timeoutFailure id timeout)))
  | .reconnect =>
      let (wanted, channel) := channel.checkReconnect
      (if wanted then [.connect] else [], channel)

end Task

namespace Agenda

/-- Carries out the next task of an agenda. -/
def step (agenda : Agenda) (channel : Channel) : Agenda × Channel :=
  match agenda with
  | [] => ([], channel)
  | task :: rest =>
      let (leads, channel) := task.run channel
      (leads ++ rest, channel)

end Agenda

namespace Purpose

/-- What an alarm that goes off leads to. -/
def task : Purpose → Task
  | .expire id timeout => .expire id timeout
  | .reconnect => .reconnect

end Purpose

end Intercom
