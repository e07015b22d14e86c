import Intercom.Proofs.Effect

/-!
# What a moment does to the link

Of the link, readiness depends on four fields: the owned socket, the latest generation, the ready
flag and the greeting. `Core` holds these, and `Moment.move` tells what a moment does to them. The
open flag of a socket is no field of the link; it changes with what that socket tells alone.

Results: the core after a moment is its move applied to the core before (`Moment.core_after`), the
open flags after a moment depend on what was told (`Moment.isOpen_after`), and every move comes from
a call, a notice or a task (`Moment.move_requires`). Sockets are numbered from 1 on, in the order in
which they are spawned (`Course.generations`), and an owned socket is the latest one
(`Course.latest`).
-/

namespace Intercom

/-! ## Moves -/

/-- What readiness depends on, apart from the open flag. -/
structure Core where
  socket : Option Nat
  generation : Nat
  ready : Bool
  hello : Option Hello

/-- What a moment does to the core of the link. -/
inductive Move where
  /-- A socket is spawned. -/
  | spawn
  /-- The client disconnects. -/
  | disconnect
  /-- The latest socket tells that it closed. -/
  | lose
  /-- A greeting by the latest socket is taken note of. -/
  | greet (push : Push)
  | keep

namespace Link

def core (link : Link) : Core :=
  ⟨link.socket, link.generation, link.ready, link.hello⟩

end Link

namespace Move

/-- The sockets that a move spawns. -/
def births (core : Core) : Move → List Nat
  | .spawn => [core.generation + 1]
  | _ => []

def apply (core : Core) : Move → Core
  | .spawn => ⟨some (core.generation + 1), core.generation + 1, false, none⟩
  | .disconnect => { core with socket := none, ready := false }
  | .lose => { core with socket := none, ready := false }
  | .greet push => { core with ready := true, hello := push.hello? }
  | .keep => core

end Move

/-- To connect spawns a socket, unless one is owned. -/
def Link.connecting (link : Link) : Move :=
  if link.socket.isSome then .keep else .spawn

/-- What an effect does to the core. -/
def Effect.move (link : Link) : Effect → Move
  | .openSocket => link.connecting
  | .releaseSocket => .disconnect
  | .close => .lose
  | .greet push => .greet push
  | _ => .keep

/-- What the moment does to the core. -/
def Moment.move (moment : Moment) : Move :=
  moment.effect.move moment.scene.channel.link

/-- The sockets that were spawned, the first one first. -/
def Channel.generations (channel : Channel) : List Nat :=
  channel.handles.map Handle.generation

/-- `Moves before move after`: on the way from one channel to the other the move is made, the
sockets that it spawns are entered, and no open flag changes. -/
structure Moves (before : Channel) (move : Move) (after : Channel) : Prop where
  core : after.link.core = move.apply before.link.core
  born : after.generations = before.generations ++ move.births before.link.core
  flags : ∀ generation, after.isOpen generation = before.isOpen generation

/-! ## Operations -/

namespace Moves

theorem of_eq {before after : Channel} (link : after.link.core = before.link.core)
    (handles : after.handles = before.handles) : Moves before .keep after := by
  refine ⟨link, ?_, fun generation => ?_⟩
  · unfold Channel.generations
    rw [handles]
    exact (List.append_nil _).symm
  · unfold Channel.isOpen Channel.handle?
    rw [handles]

theorem refl (channel : Channel) : Moves channel .keep channel :=
  .of_eq rfl rfl

/-- What is kept before and after a move makes no difference to it. -/
theorem after_keep {first second third : Channel} {move : Move} (kept : Moves first .keep second)
    (moves : Moves second move third) : Moves first move third := by
  have core : second.link.core = first.link.core := kept.core
  have born : second.generations = first.generations := kept.born.trans (List.append_nil _)
  refine ⟨?_, ?_, fun generation => (moves.flags generation).trans (kept.flags generation)⟩
  · rw [moves.core, core]
  · rw [moves.born, born, core]

theorem then_keep {first second third : Channel} {move : Move} (moves : Moves first move second)
    (kept : Moves second .keep third) : Moves first move third := by
  refine ⟨?_, ?_, fun generation => (kept.flags generation).trans (moves.flags generation)⟩
  · exact Eq.trans kept.core moves.core
  · rw [kept.born, moves.born]
    exact List.append_nil _

end Moves

namespace Channel

/-- A handle is found after a change to one, and the change was made if it is that one. -/
theorem handle?_updateHandle (channel : Channel) (changed generation : Nat)
    {change : Handle → Handle} (same : ∀ handle, (change handle).generation = handle.generation) :
    (channel.updateHandle changed change).handle? generation =
      (channel.handle? generation).map fun handle =>
        if generation = changed then change handle else handle := by
  unfold handle? updateHandle
  dsimp only
  rw [List.find?_map]
  have found : (fun handle : Handle => decide (handle.generation = generation)) ∘
      (fun handle => if handle.generation = changed then change handle else handle) =
      fun handle => decide (handle.generation = generation) := by
    funext handle
    rw [Function.comp_apply]
    split
    · rw [same]
    · rfl
  rw [found]
  cases first : channel.handles.find? fun handle => handle.generation = generation with
  | none => rfl
  | some handle =>
      have named : handle.generation = generation := by simpa using List.find?_some first
      rw [Option.map_some, Option.map_some, named]

/-- The flag of a socket that has a handle is set as it is told; the others stay. -/
theorem isOpen_setOpen {channel : Channel} {generation : Nat}
    (spawned : (channel.handle? generation).isSome = true) (flag : Bool) (other : Nat) :
    (channel.setOpen generation flag).isOpen other =
      if other = generation then flag else channel.isOpen other := by
  unfold isOpen setOpen
  rw [handle?_updateHandle]
  · by_cases same : other = generation
    · subst same
      obtain ⟨handle, found⟩ := Option.isSome_iff_exists.mp spawned
      simp [found]
    · cases channel.handle? other <;> simp [same]
  · exact fun _ => rfl

theorem generations_updateHandle (channel : Channel) (changed : Nat) {change : Handle → Handle}
    (same : ∀ handle, (change handle).generation = handle.generation) :
    (channel.updateHandle changed change).generations = channel.generations := by
  unfold generations updateHandle
  rw [List.map_map]
  refine List.map_congr_left fun handle _ => ?_
  rw [Function.comp_apply]
  split
  · exact same handle
  · rfl

theorem handles_cancelAlarm (channel : Channel) (ticket : Option Nat) :
    (channel.cancelAlarm ticket).handles = channel.handles := by
  cases ticket <;> rfl

theorem link_cancelAlarm (channel : Channel) (ticket : Option Nat) :
    (channel.cancelAlarm ticket).link = channel.link := by
  cases ticket <;> rfl

theorem moves_enqueue (channel : Channel) (generation : Nat) (command : Command) :
    Moves channel .keep (channel.enqueue generation command) := by
  refine ⟨rfl, ?_, fun other => ?_⟩
  · refine (channel.generations_updateHandle generation ?_).trans (List.append_nil _).symm
    exact fun _ => rfl
  · unfold isOpen enqueue
    rw [handle?_updateHandle]
    · cases channel.handle? other with
      | none => rfl
      | some handle =>
          rw [Option.map_some]
          dsimp only
          split <;> rfl
    · exact fun _ => rfl

/-- A new socket is not open, and no other socket had its generation. -/
theorem moves_openSocket (channel : Channel) :
    Moves channel channel.link.connecting channel.openSocket := by
  unfold openSocket Link.connecting
  split
  · exact .refl channel
  · refine ⟨?_, ?_, fun generation => ?_⟩
    · simp only [Move.apply, Link.core, cancelReconnect, link_cancelAlarm]
    · simp [generations, Move.births, Link.core, cancelReconnect, link_cancelAlarm,
        handles_cancelAlarm]
    · unfold isOpen handle?
      dsimp only [cancelReconnect]
      rw [handles_cancelAlarm, List.find?_append]
      cases channel.handles.find? fun handle => handle.generation = generation with
      | some handle => rfl
      | none =>
          rw [Option.none_or, List.find?_singleton]
          by_cases new : channel.link.generation + 1 = generation
          · simp [link_cancelAlarm, new]
          · simp [link_cancelAlarm, new]

theorem moves_releaseSocket (channel : Channel) :
    Moves channel .disconnect channel.releaseSocket.2 := by
  have kept : Moves channel .keep channel.cancelReconnect := by
    refine .of_eq ?_ (channel.handles_cancelAlarm channel.link.alarm)
    simp only [Link.core, cancelReconnect, link_cancelAlarm]
  exact kept.after_keep ⟨rfl, (List.append_nil _).symm, fun _ => rfl⟩

theorem moves_shutDown (channel : Channel) (generation : Nat) :
    Moves channel .keep (channel.shutDown generation) :=
  (channel.moves_enqueue generation .shutdown).then_keep (moves_enqueue _ generation .release)

theorem moves_loseSocket (channel : Channel) : Moves channel .lose channel.loseSocket := by
  unfold loseSocket
  cases channel.link.socket with
  | none => exact ⟨rfl, (List.append_nil _).symm, fun _ => rfl⟩
  | some generation =>
      exact (channel.moves_enqueue generation .release).after_keep
        ⟨rfl, (List.append_nil _).symm, fun _ => rfl⟩

theorem moves_closeLink {channel after : Channel} (closed : channel.closeLink? = some after) :
    Moves channel .lose after := by
  unfold closeLink? at closed
  split at closed
  · cases closed
    exact channel.moves_loseSocket
  · refine channel.moves_loseSocket.then_keep ?_
    unfold scheduleReconnect? at closed
    split at closed
    · dsimp only at closed
      split at closed <;> cases closed <;> exact .of_eq rfl rfl
    · cases closed

theorem moves_settle (channel : Channel) (id : RequestId) (outcome : Outcome) :
    Moves channel .keep (channel.settle id outcome) := by
  unfold settle
  split
  · exact .refl channel
  · exact .of_eq (congrArg Link.core (link_cancelAlarm _ _)) (handles_cancelAlarm _ _)

theorem moves_rejectThrough (channel : Channel) (generation : Nat) :
    Moves channel .keep (channel.rejectThrough generation) := by
  unfold rejectThrough
  dsimp only
  generalize channel.pending.filter _ = stale
  induction stale generalizing channel with
  | nil => exact .refl channel
  | cons first rest ih =>
      rw [List.foldl_cons]
      exact (channel.moves_settle first.id (.error .connectionClosed)).then_keep (ih _)

theorem moves_register (channel : Channel) (id : RequestId) (event : String) (generation : Nat)
    (timeout : Duration) :
    Moves channel .keep (channel.register id event generation timeout) := by
  unfold register attachAlarm
  dsimp only
  split <;> exact .of_eq rfl rfl

end Channel

/-! ## Effects -/

namespace Effect

theorem moves (effect : Effect) (channel : Channel) :
    Moves channel (effect.move channel.link) (effect.apply channel) := by
  cases effect with
  | keep => exact .refl channel
  | callbacks after => exact .of_eq rfl rfl
  | openSocket => exact channel.moves_openSocket
  | releaseSocket => exact channel.moves_releaseSocket
  | shutDown generation => exact channel.moves_shutDown generation
  | send generation request => exact channel.moves_enqueue generation _
  | register event timeout =>
      have kept : Moves channel .keep { channel with ids := channel.ids.take.2 } := .of_eq rfl rfl
      exact kept.then_keep (Channel.moves_register _ _ _ _ _)
  | settle id outcome => exact channel.moves_settle id outcome
  | reject generation => exact channel.moves_rejectThrough generation
  | close =>
      cases closed : channel.closeLink? with
      | some after =>
          simp only [apply, closed, Option.getD_some]
          exact Channel.moves_closeLink closed
      | none =>
          simp only [apply, closed, Option.getD_none]
          exact channel.moves_loseSocket
  | greet push => exact ⟨rfl, (List.append_nil _).symm, fun _ => rfl⟩
  | retry => exact .of_eq rfl rfl
  | forget => exact .of_eq rfl rfl
  | silence ticket => exact .of_eq rfl rfl
  | wait => exact .of_eq rfl rfl
  | collect => exact .of_eq rfl rfl

end Effect

/-! ## The link after a moment -/

/-- The open flag that a notice goes with. -/
def Notice.flag? : Notice → Option Bool
  | .opened => some true
  | .closed _ => some false
  | .message _ => none
  | .sendFailed _ _ => none

namespace Event

/-- What the socket of a generation itself tells. -/
def told? (generation : Nat) : Event → Option Notice
  | .socket speaker notice => if speaker = generation then some notice else none
  | _ => none

theorem told?_iff {event : Event} {generation : Nat} {notice : Notice} :
    event.told? generation = some notice ↔ event = .socket generation notice := by
  cases event with
  | socket speaker other =>
      by_cases same : speaker = generation
      · subst same
        simp [told?]
      · simp [told?, same]
  | _ => simp [told?]

end Event

namespace Channel

theorem link_reflect (channel : Channel) (generation : Nat) (notice : Notice) :
    (channel.reflect generation notice).link = channel.link := by
  cases notice <;> rfl

theorem generations_reflect (channel : Channel) (generation : Nat) (notice : Notice) :
    (channel.reflect generation notice).generations = channel.generations := by
  cases notice with
  | opened => exact channel.generations_updateHandle generation fun _ => rfl
  | closed => exact channel.generations_updateHandle generation fun _ => rfl
  | message => rfl
  | sendFailed => rfl

theorem isOpen_reflect {channel : Channel} {generation : Nat}
    (spawned : (channel.handle? generation).isSome = true) (notice : Notice) (other : Nat) :
    (channel.reflect generation notice).isOpen other =
      if other = generation then notice.flag?.getD (channel.isOpen other)
      else channel.isOpen other := by
  cases notice with
  | opened => exact isOpen_setOpen spawned true other
  | closed => exact isOpen_setOpen spawned false other
  | message => exact (ite_self _).symm
  | sendFailed => exact (ite_self _).symm

end Channel

namespace Moment

theorem link_found (moment : Moment) : moment.found.link = moment.scene.channel.link := by
  obtain ⟨_, found⟩ := moment.found_frame
  rw [found]

theorem generations_found (moment : Moment) :
    moment.found.generations = moment.scene.channel.generations := by
  unfold found
  split
  · exact Channel.generations_reflect _ _ _
  · rfl

/-- A moment makes its move and enters the sockets that it spawns. -/
theorem moves_after (moment : Moment) :
    moment.after.channel.link.core = moment.move.apply moment.scene.channel.link.core ∧
      moment.after.channel.generations =
        moment.scene.channel.generations ++ moment.move.births moment.scene.channel.link.core := by
  have moves := moment.effect.moves moment.found
  rw [← moment.after_eq, moment.link_found] at moves
  constructor
  · rw [moves.core, moment.link_found]
    rfl
  · rw [moves.born, moment.generations_found, moment.link_found]
    rfl

/-- The core after a moment is its move applied to the core before. -/
theorem core_after (moment : Moment) :
    moment.after.channel.link.core = moment.move.apply moment.scene.channel.link.core :=
  moment.moves_after.1

/-- Generations only grow. -/
theorem generation_le (moment : Moment) :
    moment.scene.channel.link.generation ≤ moment.after.channel.link.generation := by
  have number := congrArg Core.generation moment.core_after
  change moment.after.channel.link.generation = _ at number
  rw [number]
  cases moment.move with
  | spawn => exact Nat.le_succ _
  | _ => exact Nat.le_refl _

/-- A socket's flag after a moment is what the socket told, or what it was. -/
theorem isOpen_after {moment : Moment} (allowed : moment.scene.allows moment.event = true)
    (generation : Nat) :
    moment.after.channel.isOpen generation =
      ((moment.event.told? generation).bind Notice.flag?).getD
        (moment.scene.channel.isOpen generation) := by
  have flags := (moment.effect.moves moment.found).flags generation
  rw [← moment.after_eq] at flags
  rw [flags]
  obtain ⟨⟨agenda, channel⟩, event⟩ := moment
  cases event with
  | socket speaker notice =>
      simp only [Scene.allows, Bool.and_eq_true] at allowed
      refine (Channel.isOpen_reflect allowed.2 notice generation).trans ?_
      by_cases same : generation = speaker
      · subst same
        simp [Event.told?]
      · simp [Event.told?, same, Ne.symm same]
  | _ => rfl

end Moment

/-! ## Where moves come from -/

namespace Move

/-- What a move requires of the link and of what is done. A greeting and a loss come from the latest
socket; a loss need not be one of a socket that is still owned. -/
def Requires (link : Link) (call? : Option Call) (notice? : Option (Nat × Notice))
    (task? : Option Task) : Move → Prop
  | .spawn => link.socket = none
  | .disconnect => call? = some .disconnect
  | .lose => ∃ closing, notice? = some (link.generation, .closed closing)
  | .greet push => task? = some (.dispatch link.generation push) ∧ push.isHello = true
  | .keep => True

end Move

namespace Moment

variable {moment : Moment}

/-- Every move of a moment has what it requires. -/
theorem move_requires (moment : Moment) :
    moment.move.Requires moment.scene.channel.link moment.call? moment.notice? moment.task? := by
  have connecting : moment.scene.channel.link.connecting.Requires moment.scene.channel.link
      moment.call? moment.notice? moment.task? := by
    unfold Link.connecting
    split
    · trivial
    · next free => simpa [Move.Requires] using free
  have cause := moment.cause
  unfold move
  generalize moment.effect = effect at cause
  cases cause with
  | connect => exact connecting
  | reconnect => exact connecting
  | disconnect calls => exact calls
  | close taken => exact ⟨_, taken⟩
  | greet carried hello => exact ⟨carried, hello⟩
  | _ => trivial

/-- A socket is spawned only if none is owned. -/
theorem free_of_move (spawns : moment.move = .spawn) :
    moment.scene.channel.link.socket = none := by
  have required := moment.move_requires
  rw [spawns] at required
  exact required

theorem call_of_move (disconnects : moment.move = .disconnect) :
    moment.call? = some .disconnect := by
  have required := moment.move_requires
  rw [disconnects] at required
  exact required

theorem notice_of_move (loses : moment.move = .lose) :
    ∃ closing, moment.notice? = some (moment.scene.channel.link.generation, .closed closing) := by
  have required := moment.move_requires
  rw [loses] at required
  exact required

theorem move_of_task {task : Task} (carried : moment.task? = some task) :
    moment.move = (task.effect moment.scene.channel).move moment.scene.channel.link := by
  rw [move, effect_of_task carried]

/-- A greeting is noted when a push of that kind by the latest socket is acted on. -/
theorem greet_iff {push : Push} :
    moment.move = .greet push ↔
      moment.task? = some (.dispatch moment.scene.channel.link.generation push) ∧
        push.isHello = true := by
  constructor
  · intro greets
    have required := moment.move_requires
    rw [greets] at required
    exact required
  · rintro ⟨carried, hello⟩
    rw [move_of_task carried]
    simp [Task.effect, Effect.move, hello]

/-- The close of the latest socket is a loss, whether or not the socket is still owned. -/
theorem lose_of_told {closing : Closing}
    (told : moment.event = .socket moment.scene.channel.link.generation (.closed closing)) :
    moment.move = .lose := by
  simp [move, effect, told, Task.effect, Effect.move]

/-- A message moves nothing as long as it is not acted on. -/
theorem keep_of_message {generation : Nat} {text : String}
    (told : moment.event = .socket generation (.message text)) : moment.move = .keep := by
  simp [move, effect, told, Task.effect, Effect.move]

end Moment

/-! ## The sockets of a run -/

namespace Channel

theorem mem_generations {channel : Channel} {generation : Nat}
    (spawned : (channel.handle? generation).isSome = true) : generation ∈ channel.generations := by
  obtain ⟨handle, found⟩ := Option.isSome_iff_exists.mp spawned
  have named : handle.generation = generation := by simpa using List.find?_some found
  exact List.mem_map.mpr ⟨handle, List.mem_of_find?_eq_some found, named⟩

end Channel

namespace Course

variable {settings : Settings} {draw : Nat → Nat} {past : List Moment} {channel : Channel}

/-- The sockets are numbered from 1 to the latest generation. -/
theorem generations (course : Course (Scene.start settings draw).channel past channel) :
    channel.generations = List.range' 1 channel.link.generation := by
  induction course with
  | start => rfl
  | @step past moment _ _ ih =>
      obtain ⟨core, born⟩ := moment.moves_after
      have number := congrArg Core.generation core
      change moment.after.channel.link.generation = _ at number
      -- a spawn appends the next number, and every other move appends none
      rw [born, number, ih]
      cases moment.move with
      | spawn =>
          refine Eq.trans ?_ List.range'_1_concat.symm
          rw [Nat.add_comm 1]
          rfl
      | _ => exact List.append_nil _

/-- Generations only grow. -/
theorem generation_le {first last : Channel} (course : Course first past last) :
    first.link.generation ≤ last.link.generation :=
  (course.preserves (fun channel => first.link.generation ≤ channel.link.generation)
    (fun moment grown => Nat.le_trans grown moment.generation_le) (Nat.le_refl _)).1

/-- An owned socket is the latest one. -/
theorem latest (course : Course (Scene.start settings draw).channel past channel) {generation : Nat}
    (owned : channel.link.socket = some generation) : channel.link.generation = generation := by
  induction course with
  | start => cases owned
  | @step past moment _ _ ih =>
      have after := moment.core_after
      have number := congrArg Core.generation after
      have socket := (congrArg Core.socket after).symm.trans owned
      change moment.after.channel.link.generation = _ at number
      rw [number]
      cases moves : moment.move with
      | spawn =>
          rw [moves] at socket
          exact Option.some.inj socket
      | disconnect | lose =>
          rw [moves] at socket
          cases socket
      | greet | keep =>
          rw [moves] at socket
          exact ih socket

end Course

namespace Run

variable {settings : Settings} {draw : Nat → Nat} {past : List Moment} {scene : Scene}

/-- The sockets of a run are numbered from 1 to the latest generation. -/
theorem generations (run : Run (.start settings draw) past scene) :
    scene.channel.generations = List.range' 1 scene.channel.link.generation :=
  run.course.generations

/-- Only a socket of a positive generation tells anything. -/
theorem speaker_pos {moment : Moment} (run : Run (.start settings draw) past moment.scene)
    (allowed : moment.scene.allows moment.event = true) {generation : Nat} {notice : Notice}
    (told : moment.event = .socket generation notice) : 0 < generation := by
  rw [told] at allowed
  simp only [Scene.allows, Bool.and_eq_true] at allowed
  have present := Channel.mem_generations allowed.2
  rw [run.generations, List.mem_range'_1] at present
  omega

end Run

end Intercom
