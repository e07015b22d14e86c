import Intercom.Proofs.Accounts
import Intercom.Proofs.Link
import Intercom.Proofs.Origin

/-!
# What sockets are handed

Each socket has a queue of commands, which only grows. A request is handed to a socket in the moment
after it was made, if a socket was owned then and was open. `Scene.unsent` is the request at hand,
of which there is one at most.

Results:
1. `Moment.hands`: what a moment hands to sockets.
2. `Run.sent`: the frames in the queue of a socket are those of the requests that were made while it
   was owned and open, in their order.
3. `Run.sent_ordered`, `Run.owned_of_sent`: their identifiers grow along a queue, and a request is
   in no queue but that of the socket that was owned when it was made.
-/

namespace Intercom

open AccountsLemmas

/-! ## Definitions -/

/-- The frame that a command is, with its request. -/
def Command.frame? : Command → Option (RequestId × String)
  | .send id frame => some (id, frame)
  | _ => none

namespace Channel

/-- The commands that a socket was handed. -/
def commands (channel : Channel) (generation : Nat) : List Command :=
  (channel.handle? generation).elim [] Handle.commands

/-- The frames among them. -/
def sent (channel : Channel) (generation : Nat) : List (RequestId × String) :=
  (channel.commands generation).filterMap Command.frame?

end Channel

/-- `Hands before frames after`: on the way from one channel to the other each socket is handed
commands, and the frames among them are these. -/
def Hands (before : Channel) (frames : Nat → List (RequestId × String)) (after : Channel) : Prop :=
  ∀ generation, ∃ commands, after.commands generation = before.commands generation ++ commands ∧
    commands.filterMap Command.frame? = frames generation

/-- No frame for any socket. -/
def noFrames : Nat → List (RequestId × String) :=
  fun _ => []

/-- The frames that an effect hands to a socket. -/
def Effect.frames (effect : Effect) (generation : Nat) : List (RequestId × String) :=
  match effect with
  | .send owner request => if owner = generation then [(request.id, request.text)] else []
  | _ => []

/-- The frame of the request that is about to be handed to a socket. -/
def Scene.unsent (scene : Scene) (generation : Nat) : List (RequestId × String) :=
  match scene.agenda.head? with
  | some (.send (some owner) request) =>
      if owner = generation ∧ scene.channel.isOpen generation = true then
        [(request.id, request.text)]
      else []
  | _ => []

/-- The frame of the request that is made in the moment, if the socket is owned and open. -/
def Moment.frame? (generation : Nat) (moment : Moment) : Option (RequestId × String) :=
  match moment.call? with
  | some (.request event data _) =>
      if moment.scene.channel.link.socket = some generation ∧
          moment.scene.channel.isOpen generation = true then
        some (moment.scene.channel.ids.peek,
          (Request.make moment.scene.channel.ids.peek event data).text)
      else none
  | _ => none

/-! ## Operations -/

namespace Hands

theorem of_eq {before after : Channel}
    (same : ∀ generation, after.commands generation = before.commands generation) :
    Hands before noFrames after :=
  fun generation => ⟨[], by rw [same, List.append_nil], rfl⟩

theorem of_handles {before after : Channel} (handles : after.handles = before.handles) :
    Hands before noFrames after := by
  refine of_eq fun generation => ?_
  unfold Channel.commands Channel.handle?
  rw [handles]

theorem trans {first second third : Channel} {one two : Nat → List (RequestId × String)}
    (left : Hands first one second) (right : Hands second two third) :
    Hands first (fun generation => one generation ++ two generation) third := by
  intro generation
  obtain ⟨before, joined, framed⟩ := left generation
  obtain ⟨after, goes, others⟩ := right generation
  refine ⟨before ++ after, by rw [goes, joined, List.append_assoc], ?_⟩
  rw [List.filterMap_append, framed, others]

end Hands

namespace Channel

theorem commands_updateHandle (channel : Channel) (changed generation : Nat)
    {change : Handle → Handle} (same : ∀ handle, (change handle).generation = handle.generation) :
    (channel.updateHandle changed change).commands generation =
      (channel.handle? generation).elim [] fun handle =>
        if generation = changed then (change handle).commands else handle.commands := by
  unfold commands
  rw [handle?_updateHandle channel changed generation same]
  cases channel.handle? generation with
  | none => rfl
  | some handle =>
      simp only [Option.map_some, Option.elim_some]
      split <;> rfl

/-- A command goes to the end of the queue of its socket. -/
theorem commands_enqueue (channel : Channel) (owner generation : Nat) (command : Command) :
    (channel.enqueue owner command).commands generation =
      channel.commands generation ++
        if owner = generation ∧ (channel.handle? owner).isSome = true then [command] else [] := by
  unfold enqueue
  rw [commands_updateHandle]
  · unfold commands
    by_cases same : owner = generation
    · subst same
      cases channel.handle? owner <;> simp
    · cases channel.handle? generation <;> simp [same, Ne.symm same]
  · exact fun _ => rfl

theorem hands_enqueue (channel : Channel) (owner : Nat) {command : Command}
    (other : command.frame? = none) : Hands channel noFrames (channel.enqueue owner command) := by
  intro generation
  refine ⟨_, channel.commands_enqueue owner generation command, ?_⟩
  unfold noFrames
  split
  · simp [other]
  · rfl

theorem hands_setOpen (channel : Channel) (owner : Nat) (flag : Bool) :
    Hands channel noFrames (channel.setOpen owner flag) := by
  refine .of_eq fun generation => ?_
  unfold setOpen
  rw [commands_updateHandle]
  · unfold commands
    cases channel.handle? generation <;> simp
  · exact fun _ => rfl

/-- A new socket is handed nothing. -/
theorem hands_openSocket (channel : Channel) : Hands channel noFrames channel.openSocket := by
  refine .of_eq fun generation => ?_
  unfold openSocket
  split
  · rfl
  · unfold commands handle?
    dsimp only [cancelReconnect]
    rw [handles_cancelAlarm, List.find?_append]
    cases channel.handles.find? fun handle => handle.generation = generation with
    | some handle => rfl
    | none =>
        rw [Option.none_or, List.find?_singleton]
        split <;> rfl

theorem hands_shutDown (channel : Channel) (owner : Nat) :
    Hands channel noFrames (channel.shutDown owner) :=
  (channel.hands_enqueue owner rfl).trans (hands_enqueue _ owner rfl)

theorem hands_loseSocket (channel : Channel) : Hands channel noFrames channel.loseSocket := by
  unfold loseSocket
  cases channel.link.socket with
  | none => exact .of_handles rfl
  | some owner => exact (channel.hands_enqueue owner rfl).trans (.of_handles rfl)

theorem hands_closeLink {channel after : Channel} (closed : channel.closeLink? = some after) :
    Hands channel noFrames after := by
  unfold closeLink? at closed
  split at closed
  · cases closed
    exact channel.hands_loseSocket
  · refine channel.hands_loseSocket.trans (.of_handles ?_)
    unfold scheduleReconnect? at closed
    split at closed
    · dsimp only at closed
      split at closed <;> cases closed <;> rfl
    · cases closed

theorem handles_settle (channel : Channel) (id : RequestId) (outcome : Outcome) :
    (channel.settle id outcome).handles = channel.handles := by
  unfold settle
  split
  · rfl
  · exact handles_cancelAlarm _ _

theorem handles_settleEach (channel : Channel) (requests : List Waiting) (outcome : Outcome) :
    (channel.settleEach requests outcome).handles = channel.handles := by
  induction requests generalizing channel with
  | nil => rfl
  | cons first rest ih => exact (ih _).trans (channel.handles_settle first.id outcome)

theorem handles_register (channel : Channel) (id : RequestId) (event : String) (generation : Nat)
    (timeout : Duration) :
    (channel.register id event generation timeout).handles = channel.handles := by
  unfold register attachAlarm
  dsimp only
  split <;> rfl

end Channel

/-! ## Moments -/

/-- An effect hands frames to no socket but by a send. -/
theorem Effect.hands {channel : Channel} {effect : Effect}
    (spawned : ∀ owner request, effect = .send owner request →
      (channel.handle? owner).isSome = true) :
    Hands channel effect.frames (effect.apply channel) := by
  cases effect with
  | openSocket => exact channel.hands_openSocket
  | releaseSocket => exact .of_handles (channel.handles_cancelAlarm channel.link.alarm)
  | shutDown owner => exact channel.hands_shutDown owner
  | send owner request =>
      intro generation
      refine ⟨_, channel.commands_enqueue owner generation _, ?_⟩
      by_cases same : owner = generation
      · simp [same, frames, same ▸ spawned owner request rfl, Command.frame?]
      · simp [same, frames]
  | register event timeout => exact .of_handles (Channel.handles_register _ _ _ _ _)
  | settle id outcome => exact .of_handles (channel.handles_settle id outcome)
  | reject generation => exact .of_handles (channel.handles_settleEach _ _)
  | close =>
      cases closed : channel.closeLink? with
      | some after =>
          simp only [apply, closed, Option.getD_some]
          exact Channel.hands_closeLink closed
      | none =>
          simp only [apply, closed, Option.getD_none]
          exact channel.hands_loseSocket
  | silence ticket => exact .of_handles (channel.handles_cancelAlarm (some ticket))
  | _ => exact .of_handles rfl

namespace Channel

theorem spawned_of_open {channel : Channel} {generation : Nat}
    (isOpen : channel.isOpen generation = true) : (channel.handle? generation).isSome = true := by
  unfold Channel.isOpen at isOpen
  cases found : channel.handle? generation with
  | none => simp [found] at isOpen
  | some handle => rfl

end Channel

namespace Moment

variable {moment : Moment} {generation : Nat}

theorem hands_found (moment : Moment) : Hands moment.scene.channel noFrames moment.found := by
  unfold found
  split
  · next owner notice _ =>
      cases notice with
      | opened => exact Channel.hands_setOpen _ owner true
      | closed => exact Channel.hands_setOpen _ owner false
      | message => exact .of_handles rfl
      | sendFailed => exact .of_handles rfl
  · exact .of_handles rfl

/-- What is sent in a moment is the request at hand, to a socket that is open. -/
theorem send_of_effect {owner : Nat} {request : Request}
    (sends : moment.effect = .send owner request) :
    moment.task? = some (.send (some owner) request) ∧
      moment.scene.channel.isOpen owner = true := by
  have cause := moment.cause
  rw [sends] at cause
  cases cause with
  | send carried isOpen => exact ⟨carried, isOpen⟩

/-- A moment hands to sockets what its effect does. -/
theorem hands (moment : Moment) :
    Hands moment.scene.channel moment.effect.frames moment.after.channel := by
  rw [moment.after_eq]
  refine moment.hands_found.trans (Effect.hands fun owner request sends => ?_)
  rw [found_eq]
  · exact Channel.spawned_of_open (send_of_effect sends).2
  · rw [sends]
    exact Effect.noConfusion
  · rw [sends]
    exact Effect.noConfusion

theorem sent_after (moment : Moment) (generation : Nat) :
    moment.after.channel.sent generation =
      moment.scene.channel.sent generation ++ moment.effect.frames generation := by
  obtain ⟨commands, joined, framed⟩ := moment.hands generation
  unfold Channel.sent
  rw [joined, List.filterMap_append, framed]

/-- A request at hand is handed over in the next moment, and no other is. -/
theorem frames_effect (allowed : moment.scene.allows moment.event = true) (generation : Nat) :
    moment.effect.frames generation = moment.scene.unsent generation := by
  unfold Scene.unsent
  split
  · next owner request head =>
      have busy : moment.scene.free = false := by
        rw [Scene.free, head]
        rfl
      have carried : moment.task? = some (.send (some owner) request) := by
        unfold task?
        cases event : moment.event with
        | work => exact head
        | _ => simp [event, Scene.allows, busy] at allowed
      rw [effect_of_task carried]
      by_cases same : owner = generation
      · subst same
        cases isOpen : moment.scene.channel.isOpen owner <;>
          simp [Task.effect, isOpen, Effect.frames]
      · simp only [Task.effect, same, false_and, if_false]
        split
        · simp [Effect.frames, same]
        · rfl
  · next other =>
      cases sends : moment.effect with
      | send owner request =>
          obtain ⟨_, _, rest, agenda⟩ := work_of_task (send_of_effect sends).1
          exact absurd (by rw [agenda]; rfl) (other owner request)
      | _ => rfl

/-- A request that is made is at hand in the next moment. -/
theorem head_of_request {event : String} {data : Option Json} {timeout : Option Duration}
    (calls : moment.call? = some (.request event data timeout)) :
    moment.after.agenda.head? = some (.send moment.scene.channel.link.socket
      (.make moment.scene.channel.ids.peek event data)) := by
  obtain ⟨⟨agenda, channel⟩, happens⟩ := moment
  cases happens with
  | call own call =>
      cases calls
      rfl
  | work =>
      cases agenda with
      | nil => cases calls
      | cons task rest =>
          obtain ⟨own, entry, later, ran⟩ := Task.run_of_call calls channel
          show ((task.run channel).1 ++ rest).head? = _
          rw [ran]
          rfl
  | _ => cases calls

/-- To make a request opens and closes no socket. -/
theorem isOpen_of_call {call : Call} (allowed : moment.scene.allows moment.event = true)
    (calls : moment.call? = some call) (generation : Nat) :
    moment.after.channel.isOpen generation = moment.scene.channel.isOpen generation := by
  have silent : moment.event.told? generation = none := by
    cases event : moment.event with
    | socket => simp [call?, event] at calls
    | _ => rfl
  rw [isOpen_after allowed, silent]
  rfl

end Moment

namespace Run

variable {settings : Settings} {draw : Nat → Nat} {past : List Moment} {scene : Scene}
  {moment : Moment}

/-- After a moment the request at hand is the one that was made in it. -/
theorem unsent_after (run : Run (.start settings draw) past moment.scene)
    (allowed : moment.scene.allows moment.event = true) (generation : Nat) :
    moment.after.unsent generation = (moment.frame? generation).toList := by
  by_cases requests : ∃ event data timeout, moment.call? = some (.request event data timeout)
  · obtain ⟨event, data, timeout, calls⟩ := requests
    unfold Scene.unsent Moment.frame?
    rw [Moment.head_of_request calls, calls]
    cases socket : moment.scene.channel.link.socket with
    | none => simp
    | some owner =>
        simp only [Moment.isOpen_of_call allowed calls, Option.some.injEq]
        split <;> rfl
  · have unframed : moment.frame? generation = none := by
      unfold Moment.frame?
      split
      · next event data timeout calls => exact absurd ⟨event, data, timeout, calls⟩ requests
      · rfl
    rw [unframed]
    unfold Scene.unsent
    split
    · next owner request head =>
        -- a send at hand would come from a request in this very moment
        obtain ⟨rest, agenda⟩ := List.head?_eq_some_iff.mp head
        obtain ⟨earlier, last, same, _, _, origin⟩ := (run.step allowed).origin rfl agenda rfl
        obtain ⟨_, single⟩ := List.append_inj' same rfl
        cases single
        generalize sends : Task.send (some owner) request = task at origin
        cases origin with
        | send calls => exact absurd ⟨_, _, _, calls⟩ requests
        | _ => cases sends
    · rfl

/-- The frames that a socket was handed, and the one at hand, are those of the requests that were
made while it was owned and open. -/
theorem sent (run : Run (.start settings draw) past scene) (generation : Nat) :
    scene.channel.sent generation ++ scene.unsent generation =
      past.filterMap (Moment.frame? generation) := by
  induction run with
  | start => rfl
  | @step past scene event run allowed ih =>
      have after := Moment.sent_after ⟨scene, event⟩ generation
      rw [Moment.frames_effect allowed, ih] at after
      have hand := @unsent_after _ _ _ ⟨scene, event⟩ run allowed generation
      rw [List.filterMap_append]
      show (Moment.mk scene event).after.channel.sent generation ++
        (Moment.mk scene event).after.unsent generation = _
      rw [after, hand]
      cases framed : (Moment.mk scene event).frame? generation <;> simp [framed]

end Run

/-! ## Order -/

namespace Moment

variable {moment : Moment} {generation : Nat} {entry : RequestId × String}

/-- A frame is that of a request, which found its socket owned and open. -/
theorem issue_of_frame (framed : moment.frame? generation = some entry) :
    (∃ issue, moment.issue? = some issue ∧ issue.id = entry.1) ∧
      moment.scene.channel.link.socket = some generation ∧
      moment.scene.channel.isOpen generation = true := by
  unfold frame? at framed
  split at framed
  · next event data timeout calls =>
      split at framed
      · next owned =>
          cases framed
          refine ⟨?_, owned⟩
          unfold issue?
          rw [calls]
          exact ⟨_, rfl, rfl⟩
      · cases framed
  · cases framed

end Moment

/-- The requests of a queue are among those that were issued, in their order. -/
theorem frames_sublist (past : List Moment) (generation : Nat) :
    ((past.filterMap (Moment.frame? generation)).map Prod.fst).Sublist
      ((issues past).map Issue.id) := by
  induction past with
  | nil => exact List.Sublist.refl _
  | cons moment past ih =>
      unfold issues at ih ⊢
      cases framed : moment.frame? generation with
      | none =>
          rw [List.filterMap_cons_none framed]
          refine ih.trans (List.Sublist.map _ ?_)
          cases issued : moment.issue? with
          | none => rw [List.filterMap_cons_none issued]
          | some issue =>
              rw [List.filterMap_cons_some issued]
              exact List.sublist_cons_self _ _
      | some entry =>
          obtain ⟨⟨issue, issued, same⟩, _⟩ := Moment.issue_of_frame framed
          rw [List.filterMap_cons_some framed, List.filterMap_cons_some issued, List.map_cons,
            List.map_cons, same]
          exact ih.cons_cons entry.1

namespace Accounts

variable {past : List Moment} {channel : Channel}

/-- Identifiers grow in the order in which requests are issued. -/
theorem increasing (accounts : Accounts past channel) (few : (issues past).length < UInt64.size) :
    ((issues past).map Issue.id).Pairwise fun first second => first.value < second.value := by
  rw [accounts.named, List.pairwise_map]
  refine List.pairwise_lt_range.imp_of_mem fun {m n} left right smaller => ?_
  rw [List.mem_range] at left right
  rw [UInt64.lt_iff_toNat_lt]
  show (UInt64.ofNat (m + 1)).toNat < (UInt64.ofNat (n + 1)).toNat
  rw [UInt64.toNat_ofNat_of_lt' (by omega), UInt64.toNat_ofNat_of_lt' (by omega)]
  omega

/-- A request is issued in one moment. -/
theorem same_moment (accounts : Accounts past channel) (few : (issues past).length < UInt64.size)
    {one two : Moment} (first : one ∈ past) (second : two ∈ past) {left right : Issue}
    (issued : one.issue? = some left) (again : two.issue? = some right)
    (same : left.id = right.id) : one = two := by
  have single := accounts.nodup few
  clear few accounts
  induction past with
  | nil => cases first
  | cons head rest ih =>
      unfold issues at single ih
      have occurs {moment : Moment} {issue : Issue} (made : moment.issue? = some issue)
          (present : moment ∈ rest) : issue.id ∈ (rest.filterMap Moment.issue?).map Issue.id :=
        List.mem_map_of_mem (List.mem_filterMap.mpr ⟨moment, present, made⟩)
      cases made : head.issue? with
      | none =>
          rw [List.filterMap_cons_none made] at single
          rcases List.mem_cons.mp first with rfl | left
          · cases made.symm.trans issued
          · rcases List.mem_cons.mp second with rfl | right
            · cases made.symm.trans again
            · exact ih left right single
      | some issue =>
          rw [List.filterMap_cons_some made, List.map_cons, List.nodup_cons] at single
          rcases List.mem_cons.mp first with rfl | left
          · rcases List.mem_cons.mp second with rfl | right
            · rfl
            · cases made.symm.trans issued
              exact absurd (same ▸ occurs again right) single.1
          · rcases List.mem_cons.mp second with rfl | right
            · cases made.symm.trans again
              exact absurd (same ▸ occurs issued left) single.1
            · exact ih left right single.2

end Accounts

namespace Run

variable {settings : Settings} {draw : Nat → Nat} {past : List Moment} {scene : Scene}

/-- Identifiers grow along a queue. -/
theorem sent_ordered (run : Run (.start settings draw) past scene)
    (few : (issues past).length < UInt64.size) (generation : Nat) :
    (scene.channel.sent generation).Pairwise fun first second =>
      first.1.value < second.1.value := by
  have ordered := ((run.accounts few).increasing few).sublist (frames_sublist past generation)
  rw [List.pairwise_map, ← run.sent generation] at ordered
  exact (List.pairwise_append.mp ordered).1

/-- What a socket was handed is a request that was made while it was owned and open. -/
theorem moment_of_sent (run : Run (.start settings draw) past scene) {generation : Nat}
    {entry : RequestId × String} (handed : entry ∈ scene.channel.sent generation) :
    ∃ moment ∈ past, moment.frame? generation = some entry := by
  have framed : entry ∈ past.filterMap (Moment.frame? generation) := by
    rw [← run.sent generation]
    exact List.mem_append_left _ handed
  exact List.mem_filterMap.mp framed

/-- A request is handed to the socket that was owned when it was made, or to none. -/
theorem owned_of_sent (run : Run (.start settings draw) past scene)
    (few : (issues past).length < UInt64.size) {generation : Nat} {entry : RequestId × String}
    (handed : entry ∈ scene.channel.sent generation) {moment : Moment} (present : moment ∈ past)
    {issue : Issue} (issued : moment.issue? = some issue) (same : issue.id = entry.1) :
    moment.scene.channel.link.socket = some generation ∧
      moment.scene.channel.isOpen generation = true := by
  obtain ⟨other, occurs, framed⟩ := run.moment_of_sent handed
  obtain ⟨⟨made, makes, named⟩, owned⟩ := Moment.issue_of_frame framed
  have equal := (run.accounts few).same_moment few present occurs issued makes
    (same.trans named.symm)
  rw [equal]
  exact owned

end Run

end Intercom
