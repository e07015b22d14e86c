import Intercom.Proofs.Rejection

/-!
# Sockets that were replaced

A socket that was replaced may go on to tell that it opened, and what it received. `Channel.blur`
leaves out all that this can change: whether replaced sockets are open. Every operation on a channel
respects it, so that a run goes on in the same way whatever replaced sockets tell.

When a replaced socket closes at last, the requests up to its generation end, and nothing else
happens.

Results:
1. `Channel.blur_apply`: no operation depends on whether replaced sockets are open.
2. `Scene.blur_after`: nor does any event of a run.
3. `replaced_for_good`: a run with anything that replaced sockets tell in between is the same run,
   and their closes only reject requests.
-/

namespace Intercom

open AccountsLemmas

/-! ## Definitions -/

/-- The handle of a socket, without regard to whether it is open if it was replaced. -/
def Handle.blur (latest : Nat) (handle : Handle) : Handle :=
  if handle.generation < latest then { handle with isOpen := false } else handle

/-- The channel without regard to whether replaced sockets are open. -/
def Channel.blur (channel : Channel) : Channel :=
  { channel with handles := channel.handles.map (Handle.blur channel.link.generation) }

namespace Scene

/-- The scene without regard to whether replaced sockets are open. -/
def blur (scene : Scene) : Scene :=
  ⟨scene.agenda, scene.channel.blur⟩

/-- `one.Resembles two`: the same is to be done, and the channels differ in nothing but whether
replaced sockets are open. -/
structure Resembles (one two : Scene) : Prop where
  agenda : two.agenda = one.agenda
  channel : two.channel.blur = one.channel.blur
  status : two.channel.status = one.channel.status

end Scene

/-- Whether a notice is told before the socket closes, and is about no request's write. -/
def Notice.isTraffic : Notice → Bool
  | .opened => true
  | .message _ => true
  | _ => false

/-- `Murmurs scene moments after`: a socket that was replaced, or a call in its place, tells that it
opened or what it received. -/
inductive Murmurs (scene : Scene) : List Moment → Scene → Prop where
  | socket {generation : Nat} {notice : Notice} :
      generation < scene.channel.link.generation → notice.isTraffic = true →
      Murmurs scene [⟨scene, .socket generation notice⟩]
        (scene.after (.socket generation notice))
  | call {own : Option SubscriptionId} {generation : Nat} {notice : Notice} :
      generation < scene.channel.link.generation → notice.isTraffic = true →
      Murmurs scene
        [⟨scene, .call own (.notify generation notice)⟩,
          ⟨scene.after (.call own (.notify generation notice)), .work⟩]
        ((scene.after (.call own (.notify generation notice))).after .work)

/-- `Disturbed first kept all scene`: the moments `all` lead from `first` to `scene`. All but `kept`
are such as `Murmurs` says, at any points. -/
inductive Disturbed (first : Scene) : List Moment → List Moment → Scene → Prop where
  | start : Disturbed first [] [] first
  | step {kept all : List Moment} {scene : Scene} (event : Event) :
      Disturbed first kept all scene →
      Disturbed first (kept ++ [⟨scene, event⟩]) (all ++ [⟨scene, event⟩]) (scene.after event)
  | murmur {kept all moments : List Moment} {scene after : Scene} :
      Disturbed first kept all scene → Murmurs scene moments after →
      Disturbed first kept (all ++ moments) after

/-- `Undisturbed past kept all scene other`: the moments `past` and `kept`, which lead to the two
scenes, show the same, and all callbacks start in the same order with what was in between. -/
structure Undisturbed (past kept all : List Moment) (scene other : Scene) : Prop where
  events : kept.map Moment.event = past.map Moment.event
  scenes : List.Forall₂ Scene.Resembles (past.map Moment.scene) (kept.map Moment.scene)
  ends : scene.Resembles other
  possible : ∀ moment ∈ kept, moment.scene.allows moment.event = true
  invocations : all.filterMap Moment.invocation? = past.filterMap Moment.invocation?

/-- What the close of a replaced socket does, and all that it does, after the moments `past`. -/
structure LateClose (past : List Moment) (close : Moment) (generation : Nat) : Prop where
  /-- Of what can be seen, nothing changes at first. -/
  blur : close.after.channel.blur = close.scene.channel.blur
  /-- No callback is to run, and nothing connects. -/
  leads : close.leads = [.sweep generation]
  next : ∀ event, close.after.allows event = true → event = .work
  done : (close.after.after .work).agenda = close.scene.rest close.event
  rejection : Rejection generation close.after.channel (close.after.after .work).channel
  exact : (issues past).length < UInt64.size →
    ExactRejection generation close.after.channel (close.after.after .work).channel

/-! ## Operations -/

namespace Handle

theorem generation_blur (latest : Nat) (handle : Handle) :
    (handle.blur latest).generation = handle.generation := by
  unfold blur
  split <;> rfl

theorem blur_blur {early late : Nat} (grown : early ≤ late) (handle : Handle) :
    (handle.blur early).blur late = handle.blur late := by
  by_cases old : handle.generation < early
  · simp [blur, old, Nat.lt_of_lt_of_le old grown]
  · simp [blur, old]

end Handle

namespace Channel

theorem blur_blur (channel : Channel) : channel.blur.blur = channel.blur := by
  unfold blur
  simp only [List.map_map]
  congr 1
  exact List.map_congr_left fun handle _ => Handle.blur_blur (Nat.le_refl _) handle

theorem blur_enqueue (channel : Channel) (generation : Nat) (command : Command) :
    (channel.enqueue generation command).blur = channel.blur.enqueue generation command := by
  unfold enqueue updateHandle blur
  simp only [List.map_map]
  congr 1
  refine List.map_congr_left fun handle _ => ?_
  simp only [Function.comp_apply, Handle.generation_blur]
  split
  · unfold Handle.blur
    dsimp only
    split <;> rfl
  · rfl

theorem blur_settle (channel : Channel) (id : RequestId) (outcome : Outcome) :
    (channel.settle id outcome).blur = channel.blur.settle id outcome := by
  have same : channel.blur.pending = channel.pending := rfl
  unfold settle
  rw [same]
  split
  · rfl
  · next waiting _ => cases alarm : waiting.alarm <;> rfl

theorem blur_settleEach (channel : Channel) (requests : List Waiting) (outcome : Outcome) :
    (channel.settleEach requests outcome).blur = channel.blur.settleEach requests outcome := by
  induction requests generalizing channel with
  | nil => rfl
  | cons first rest ih =>
      exact (ih (channel.settle first.id outcome)).trans
        (congrArg (settleEach · rest outcome) (channel.blur_settle first.id outcome))

theorem blur_register (channel : Channel) (id : RequestId) (event : String) (generation : Nat)
    (timeout : Duration) :
    (channel.register id event generation timeout).blur =
      channel.blur.register id event generation timeout := by
  rw [register_eq, register_eq]
  rfl

theorem blur_cancelReconnect (channel : Channel) :
    channel.cancelReconnect.blur = channel.blur.cancelReconnect := by
  have same : channel.blur.link = channel.link := rfl
  unfold cancelReconnect
  rw [same]
  cases channel.link.alarm <;> rfl

theorem blur_loseSocket (channel : Channel) :
    channel.loseSocket.blur = channel.blur.loseSocket := by
  have same : channel.blur.link = channel.link := rfl
  unfold loseSocket
  rw [same]
  split
  · next generation _ =>
      rw [← channel.blur_enqueue generation .release]
      rfl
  · rfl

theorem blur_closeLink (channel : Channel) :
    channel.blur.closeLink? = channel.closeLink?.map blur := by
  unfold closeLink?
  rw [← channel.blur_loseSocket]
  generalize channel.loseSocket = lost
  have same : channel.blur.link = channel.link := rfl
  rw [same]
  split
  · rfl
  · unfold scheduleReconnect?
    have link : lost.blur.link = lost.link := rfl
    have settings : lost.blur.settings = lost.settings := rfl
    rw [link, settings]
    split
    · dsimp only
      split <;> rfl
    · rfl

/-- The socket that is replaced joins those that were replaced before. -/
theorem blur_openSocket (channel : Channel) :
    channel.openSocket.blur = channel.blur.openSocket.blur := by
  have same : channel.blur.link = channel.link := rfl
  unfold openSocket
  rw [same]
  split
  · exact channel.blur_blur.symm
  · rw [← channel.blur_cancelReconnect]
    generalize channel.cancelReconnect = before
    unfold blur
    simp only [List.map_append, List.map_map]
    congr 2
    refine List.map_congr_left fun handle _ => ?_
    exact (Handle.blur_blur (Nat.le_succ _) handle).symm

theorem blur_setOpen (channel : Channel) (generation : Nat) (flag : Bool) :
    (channel.setOpen generation flag).blur = (channel.blur.setOpen generation flag).blur := by
  unfold setOpen updateHandle blur
  simp only [List.map_map]
  congr 1
  refine List.map_congr_left fun handle _ => ?_
  simp only [Function.comp_apply, Handle.generation_blur]
  split
  · unfold Handle.blur
    dsimp only
    split <;> simp_all
  · exact (Handle.blur_blur (Nat.le_refl _) handle).symm

theorem blur_setOpen_of_lt {channel : Channel} {generation : Nat}
    (old : generation < channel.link.generation) (flag : Bool) :
    (channel.setOpen generation flag).blur = channel.blur := by
  unfold setOpen updateHandle blur
  simp only [List.map_map]
  congr 1
  refine List.map_congr_left fun handle _ => ?_
  rw [Function.comp_apply]
  split
  · next named => simp [Handle.blur, named, old]
  · rfl

theorem blur_reflect (channel : Channel) (generation : Nat) (notice : Notice) :
    (channel.reflect generation notice).blur =
      (channel.blur.reflect generation notice).blur := by
  cases notice with
  | opened => exact channel.blur_setOpen generation true
  | closed => exact channel.blur_setOpen generation false
  | message => exact channel.blur_blur.symm
  | sendFailed => exact channel.blur_blur.symm

theorem blur_reflect_of_lt {channel : Channel} {generation : Nat}
    (old : generation < channel.link.generation) (notice : Notice) :
    (channel.reflect generation notice).blur = channel.blur := by
  cases notice with
  | opened => exact blur_setOpen_of_lt old true
  | closed => exact blur_setOpen_of_lt old false
  | message => rfl
  | sendFailed => rfl

/-! ## Views -/

theorem handle?_blur (channel : Channel) (generation : Nat) :
    channel.blur.handle? generation =
      (channel.handle? generation).map (Handle.blur channel.link.generation) := by
  unfold handle? blur
  dsimp only
  rw [List.find?_map]
  congr 2
  funext handle
  rw [Function.comp_apply, Handle.generation_blur]

/-- Whether the latest socket is open can still be seen. -/
theorem isOpen_blur (channel : Channel) :
    channel.blur.isOpen channel.link.generation = channel.isOpen channel.link.generation := by
  unfold isOpen
  rw [handle?_blur]
  cases found : channel.handle? channel.link.generation with
  | none => rfl
  | some handle =>
      have named : handle.generation = channel.link.generation := by
        simpa using List.find?_some found
      simp [Handle.blur, named]

theorem status_blur {channel : Channel} (latest : ∀ generation,
    channel.link.socket = some generation → channel.link.generation = generation) :
    channel.blur.status = channel.status := by
  have same : channel.blur.link = channel.link := rfl
  unfold status
  rw [same]
  split
  · rfl
  · next generation owned =>
      rw [← latest generation owned, isOpen_blur]

/-! ## Effects, tasks and events -/

/-- No operation depends on whether replaced sockets are open. -/
theorem blur_apply (channel : Channel) (effect : Effect) :
    (effect.apply channel).blur = (effect.apply channel.blur).blur := by
  -- all but one may be carried out before the blur or after it
  have moved (same : (effect.apply channel).blur = effect.apply channel.blur) :
      (effect.apply channel).blur = (effect.apply channel.blur).blur := by
    rw [← same, blur_blur]
  cases effect with
  | openSocket => exact channel.blur_openSocket
  | releaseSocket =>
      refine moved ?_
      unfold Effect.apply releaseSocket
      rw [← channel.blur_cancelReconnect]
      rfl
  | shutDown generation =>
      refine moved ?_
      unfold Effect.apply shutDown
      rw [blur_enqueue, blur_enqueue]
  | send generation request => exact moved (channel.blur_enqueue generation _)
  | register event timeout =>
      refine moved ?_
      unfold Effect.apply
      rw [blur_register]
      rfl
  | settle id outcome => exact moved (channel.blur_settle id outcome)
  | reject generation => exact moved (channel.blur_settleEach _ _)
  | close =>
      refine moved ?_
      unfold Effect.apply
      rw [blur_closeLink, ← channel.blur_loseSocket]
      cases channel.closeLink? <;> rfl
  | _ => exact moved rfl

end Channel

namespace Call

theorem begin_blur (own : Option SubscriptionId) (call : Call) (channel : Channel) :
    (call.begin own channel.blur).1 = (call.begin own channel).1 ∧
      (call.begin own channel.blur).2.1 = (call.begin own channel).2.1 := by
  cases call <;> exact ⟨rfl, rfl⟩

theorem effect_blur (own : Option SubscriptionId) (call : Call) (channel : Channel) :
    call.effect own channel.blur = call.effect own channel := by
  cases call <;> rfl

end Call

namespace Task

theorem perform_blur (running : Running) (call : Call) (channel : Channel) :
    (perform running call channel.blur).1 = (perform running call channel).1 := by
  obtain ⟨reply, agenda⟩ := call.begin_blur running.own channel
  unfold perform
  dsimp only
  rw [reply, agenda]

/-- What a task leads to does not depend on whether replaced sockets are open. -/
theorem leads_blur (task : Task) (channel : Channel) :
    (task.run channel.blur).1 = (task.run channel).1 := by
  have link : channel.blur.link = channel.link := rfl
  cases task with
  | send socket request =>
      cases socket with
      | none => rfl
      | some generation =>
          simp only [run]
          split <;> split <;> rfl
  | receive generation notice =>
      cases notice with
      | opened => rfl
      | sendFailed => rfl
      | message text =>
          simp only [run, link]
          split
          · split <;> rfl
          · rfl
      | closed closing =>
          simp only [run, link, Channel.blur_closeLink]
          split
          · cases channel.closeLink? <;> rfl
          · rfl
  | route generation message =>
      cases message with
      | push => rfl
      | response answer =>
          have waits : channel.blur.isPending answer.id = channel.isPending answer.id := rfl
          simp only [run, waits]
          split
          · rfl
          · split <;> rfl
  | dispatch generation push =>
      simp only [run, link]
      split <;> rfl
  | announceReady =>
      have hook : channel.blur.onConnect = channel.onConnect := rfl
      simp only [run, hook]
      split <;> rfl
  | deliver push current listeners completed =>
      cases current with
      | none => cases listeners <;> rfl
      | some running =>
          obtain ⟨label, own, actions⟩ := running
          cases actions with
          | nil => rfl
          | cons action =>
              cases action with
              | panic => rfl
              | call call => exact congrArg (· ++ _) (perform_blur _ call channel)
  | announceClose =>
      have hook : channel.blur.onDisconnect = channel.onDisconnect := rfl
      simp only [run, hook]
      split <;> rfl
  | callback running =>
      obtain ⟨label, own, actions⟩ := running
      cases actions with
      | nil => rfl
      | cons action =>
          cases action with
          | panic => rfl
          | call call => exact congrArg (· ++ _) (perform_blur _ call channel)
  | _ => rfl

/-- Nor does what a task does to the channel, if only the latest socket is owned, and a frame is
handed to the latest socket only. -/
theorem effect_blur {task : Task} {channel : Channel}
    (owned : ∀ generation, channel.link.socket = some generation →
      channel.link.generation = generation)
    (sends : ∀ generation request, task = .send (some generation) request →
      channel.link.generation = generation) :
    task.effect channel.blur = task.effect channel := by
  have link : channel.blur.link = channel.link := rfl
  cases task with
  | send socket request =>
      cases socket with
      | none => rfl
      | some generation =>
          simp only [effect, ← sends generation request rfl, Channel.isOpen_blur]
  | receive generation notice =>
      cases notice with
      | closed => simp only [effect, link]
      | _ => rfl
  | route generation message => cases message <;> rfl
  | dispatch generation push => simp only [effect, link]
  | announceReady generation =>
      have hook : channel.blur.onConnect = channel.onConnect := rfl
      have ready : channel.blur.connected = channel.connected :=
        congrArg (· == Status.ready) (Channel.status_blur owned)
      simp only [effect, run, hook, ready]
      split <;> rfl
  | deliver push current listeners completed =>
      cases current with
      | none => cases listeners <;> rfl
      | some running =>
          obtain ⟨label, own, actions⟩ := running
          cases actions with
          | nil => rfl
          | cons action =>
              cases action with
              | panic => rfl
              | call call => exact call.effect_blur own channel
  | announceClose closing =>
      have hook : channel.blur.onDisconnect = channel.onDisconnect := rfl
      simp only [effect, run, hook]
      split <;> rfl
  | callback running =>
      obtain ⟨label, own, actions⟩ := running
      cases actions with
      | nil => rfl
      | cons action =>
          cases action with
          | panic => rfl
          | call call => exact call.effect_blur own channel
  | _ => rfl

/-- After the blur a task does what it does before. -/
theorem run_blur {task : Task} {channel : Channel}
    (owned : ∀ generation, channel.link.socket = some generation →
      channel.link.generation = generation)
    (sends : ∀ generation request, task = .send (some generation) request →
      channel.link.generation = generation) :
    (task.run channel.blur).1 = (task.run channel).1 ∧
      (task.run channel.blur).2.blur = (task.run channel).2.blur := by
  refine ⟨task.leads_blur channel, ?_⟩
  rw [run_effect, run_effect, effect_blur owned sends, ← Channel.blur_apply]

/-- What a replaced socket tells before it closes changes nothing and leads to nothing. -/
theorem receive_of_lt {channel : Channel} {generation : Nat} {notice : Notice}
    (old : generation < channel.link.generation) (traffic : notice.isTraffic = true) :
    (Task.receive generation notice).run channel = ([], channel) := by
  cases notice with
  | opened => rfl
  | message text => exact if_neg (Nat.ne_of_gt old)
  | sendFailed => cases traffic
  | closed => cases traffic

end Task

namespace Scene

variable {scene one two : Scene}

/-- Only the latest socket is owned, and a frame is about to be handed to the latest socket only. -/
structure Current (scene : Scene) : Prop where
  owned : ∀ generation, scene.channel.link.socket = some generation →
    scene.channel.link.generation = generation
  sends : ∀ generation request, scene.agenda.head? = some (.send (some generation) request) →
    scene.channel.link.generation = generation

theorem allows_blur (scene : Scene) (event : Event) :
    scene.blur.allows event = scene.allows event := by
  cases event with
  | socket generation notice =>
      show (scene.free && (scene.channel.blur.handle? generation).isSome) = _
      rw [Channel.handle?_blur, Option.isSome_map]
      rfl
  | _ => rfl

/-- No event depends on whether replaced sockets are open. -/
theorem blur_after (current : scene.Current) (event : Event) :
    (scene.blur.after event).blur = (scene.after event).blur := by
  have performs : (scene.blur.perform event).1 = (scene.perform event).1 ∧
      (scene.blur.perform event).2.blur = (scene.perform event).2.blur := by
    cases event with
    | call own call =>
        refine ⟨(call.begin_blur own scene.channel).2, ?_⟩
        show (call.begin own scene.channel.blur).2.2.blur = (call.begin own scene.channel).2.2.blur
        rw [Call.begin_effect, Call.begin_effect, Call.effect_blur, ← Channel.blur_apply]
    | socket generation notice =>
        have runs (channel : Channel) (same : channel.link = scene.channel.link) :=
          @Task.run_blur (.receive generation notice) channel (same ▸ current.owned)
            (fun _ _ other => nomatch other)
        obtain ⟨leads, after⟩ := runs _ (scene.channel.link_reflect generation notice)
        obtain ⟨leadsToo, afterToo⟩ := runs _ (scene.channel.blur.link_reflect generation notice)
        rw [← Channel.blur_reflect] at leadsToo afterToo
        exact ⟨leadsToo.symm.trans leads, afterToo.symm.trans after⟩
    | alarm alarm => exact ⟨rfl, (scene.channel.blur_apply (.silence alarm.ticket)).symm⟩
    | wait milliseconds => exact ⟨rfl, (scene.channel.blur_apply (.wait milliseconds)).symm⟩
    | collect => exact ⟨rfl, (scene.channel.blur_apply .collect).symm⟩
    | work =>
        obtain ⟨agenda, channel⟩ := scene
        cases agenda with
        | nil => exact ⟨rfl, Channel.blur_blur _⟩
        | cons task rest =>
            refine Task.run_blur current.owned fun generation request same => ?_
            exact current.sends generation request (congrArg some same)
  have rests : scene.blur.rest event = scene.rest event := by
    cases event <;> rfl
  exact congrArg₂ Scene.mk (congrArg₂ (· ++ ·) performs.1 rests) performs.2

end Scene

theorem Moment.invocation?_blur (scene : Scene) (event : Event) :
    Moment.invocation? ⟨scene.blur, event⟩ = Moment.invocation? ⟨scene, event⟩ :=
  rfl

/-! ## Two runs -/

/-- In every run, only the latest socket is owned and handed frames to. -/
theorem Run.current {settings : Settings} {draw : Nat → Nat} {past : List Moment} {scene : Scene}
    (run : Run (.start settings draw) past scene) : scene.Current where
  owned := fun _ => run.course.latest
  sends := by
    intro generation request head
    obtain ⟨rest, agenda⟩ := List.head?_eq_some_iff.mp head
    obtain ⟨earlier, moment, _, reached, rfl, origin⟩ := run.origin rfl agenda rfl
    generalize same : some generation = socket at origin
    cases origin with
    | send calls =>
        obtain ⟨own, registers⟩ := Moment.effect_of_call calls
        have number := congrArg Core.generation moment.core_after
        rw [Moment.move, registers] at number
        exact number.trans (reached.course.latest same.symm)

namespace Scene

variable {one two : Scene}

namespace Resembles

theorem blur (resembles : one.Resembles two) : two.blur = one.blur :=
  congrArg₂ Scene.mk resembles.agenda resembles.channel

theorem of_blur (current : one.Current) (same : two.blur = one.blur) : one.Resembles two := by
  have channel : two.channel.blur = one.channel.blur := congrArg Scene.channel same
  have link : two.channel.link = one.channel.link := (congrArg Channel.link channel :)
  refine ⟨(congrArg Scene.agenda same :), channel, ?_⟩
  rw [← Channel.status_blur current.owned, ← channel, Channel.status_blur]
  rw [link]
  exact current.owned

theorem current (resembles : one.Resembles two) (current : one.Current) : two.Current := by
  have link : two.channel.link = one.channel.link := (congrArg Channel.link resembles.channel :)
  constructor
  · rw [link]
    exact current.owned
  · rw [link, resembles.agenda]
    exact current.sends

/-- The same events are possible in two scenes that resemble each other. -/
theorem allows (resembles : one.Resembles two) (event : Event) :
    two.allows event = one.allows event := by
  rw [← two.allows_blur, resembles.blur, allows_blur]

theorem invocation? (resembles : one.Resembles two) (event : Event) :
    Moment.invocation? ⟨two, event⟩ = Moment.invocation? ⟨one, event⟩ := by
  rw [← Moment.invocation?_blur two, resembles.blur, Moment.invocation?_blur]

/-- The same event leads on to scenes that resemble each other. -/
theorem after (resembles : one.Resembles two) (current : one.Current) {event : Event}
    (next : (one.after event).Current) : (one.after event).Resembles (two.after event) := by
  refine of_blur next ?_
  rw [← blur_after (resembles.current current), resembles.blur, blur_after current]

end Resembles

end Scene

namespace Murmurs

variable {scene after : Scene} {moments : List Moment}

theorem blur (murmurs : Murmurs scene moments after) : after.blur = scene.blur := by
  cases murmurs with
  | @socket generation notice old traffic =>
      have ran := @Task.receive_of_lt (scene.channel.reflect generation notice) generation notice
        (by rwa [Channel.link_reflect]) traffic
      show Scene.mk (((Task.receive generation notice).run _).1 ++ scene.agenda)
        ((Task.receive generation notice).run _).2.blur = _
      rw [ran, Channel.blur_reflect_of_lt old]
      rfl
  | @call own generation notice old traffic =>
      show Scene.mk (((Task.receive generation notice).run scene.channel).1 ++ scene.agenda)
        ((Task.receive generation notice).run scene.channel).2.blur = _
      rw [Task.receive_of_lt old traffic]
      rfl

theorem invocations (murmurs : Murmurs scene moments after) :
    moments.filterMap Moment.invocation? = [] := by
  cases murmurs <;> rfl

end Murmurs

namespace Disturbed

variable {settings : Settings} {draw : Nat → Nat} {past kept all : List Moment}
  {scene other : Scene}

/-- Whatever replaced sockets tell in between, a run goes on as it would have gone. -/
theorem undisturbed (disturbed : Disturbed (.start settings draw) kept all other)
    (run : Run (.start settings draw) past scene)
    (same : kept.map Moment.event = past.map Moment.event) :
    Undisturbed past kept all scene other := by
  induction disturbed generalizing past scene with
  | start =>
      obtain rfl := List.map_eq_nil_iff.mp same.symm
      rw [run.nothing]
      exact ⟨rfl, .nil, ⟨rfl, rfl, rfl⟩, fun _ absent => absurd absent List.not_mem_nil, rfl⟩
  | @step kept all other event _ ih =>
      obtain ⟨earlier, moment, rfl⟩ : ∃ earlier moment, past = earlier ++ [moment] := by
        cases past using List.reverseRecOn with
        | nil => simp at same
        | append_singleton earlier moment => exact ⟨earlier, moment, rfl⟩
      obtain ⟨reached, allowed, rfl⟩ := run.last
      simp only [List.map_append, List.map_cons, List.map_nil] at same
      obtain ⟨before, now⟩ := List.append_inj' same rfl
      obtain rfl : event = moment.event := List.singleton_inj.mp now
      have past := ih reached before
      have current := reached.current
      constructor
      · simpa using same
      · rw [List.map_append, List.map_append]
        exact List.rel_append past.scenes (.cons past.ends .nil)
      · exact past.ends.after current run.current
      · intro moment present
        rcases List.mem_append.mp present with old | new
        · exact past.possible moment old
        · rw [List.mem_singleton.mp new]
          exact (past.ends.allows _).trans allowed
      · have starts : Moment.invocation? ⟨other, moment.event⟩ = moment.invocation? :=
          past.ends.invocation? moment.event
        simp only [List.filterMap_append, past.invocations, List.filterMap_cons, starts,
          List.filterMap_nil]
  | murmur _ murmurs ih =>
      have past := ih run same
      refine { past with ends := ?_, invocations := ?_ }
      · exact .of_blur run.current (murmurs.blur.trans past.ends.blur)
      · rw [List.filterMap_append, murmurs.invocations, List.append_nil, past.invocations]

end Disturbed

/-- A run in which no replaced socket tells anything. -/
theorem Disturbed.of_run {first scene : Scene} {past : List Moment} (run : Run first past scene) :
    Disturbed first past past scene := by
  induction run with
  | start => exact .start
  | step _ _ ih => exact ih.step _

/-! ## The close of a replaced socket -/

namespace Moment

variable {moment : Moment} {generation : Nat} {notice : Notice}

/-- The flag of a replaced socket is all that is found to have changed. -/
theorem blur_found (taken : moment.notice? = some (generation, notice))
    (old : generation < moment.scene.channel.link.generation) :
    moment.found.blur = moment.scene.channel.blur := by
  obtain ⟨⟨agenda, channel⟩, event⟩ := moment
  cases event with
  | socket =>
      cases taken
      exact Channel.blur_reflect_of_lt old _
  | _ => rfl

end Moment

/-- The close of a replaced socket is taken in and its requests are rejected, and that is all. -/
theorem Run.lateClose {settings : Settings} {draw : Nat → Nat} {past : List Moment} {close : Moment}
    (run : Run (.start settings draw) past close.scene)
    (allowed : close.scene.allows close.event = true) {generation : Nat} {closing : Closing}
    (taken : close.notice? = some (generation, .closed closing))
    (old : generation < close.scene.channel.link.generation) : LateClose past close generation := by
  have ran : (Task.receive generation (.closed closing)).run close.found =
      ([.sweep generation], close.found) := by
    refine if_neg ?_
    rw [close.link_found]
    exact Nat.ne_of_gt old
  obtain ⟨leads, after⟩ := Moment.after_of_notice taken
  rw [ran] at leads after
  rw [leads] at after
  have reached : Run (.start settings draw) (past ++ [close]) close.after := run.step allowed
  have sweeps : Moment.task? ⟨close.after, .work⟩ = some (.sweep generation) := by
    rw [after]
    rfl
  obtain ⟨rejection, exact⟩ := reached.rejection sweeps
  rw [issues_append, Moment.issue?_of_notice taken, Option.toList_none, List.append_nil] at exact
  refine ⟨?_, leads, fun event => ?_, ?_, rejection, exact⟩
  · rw [after]
    exact Moment.blur_found taken old
  · refine Scene.work_of_busy ?_
    rw [after]
    rfl
  · rw [after]
    rfl

/-! ## No interference -/

/-- Whatever replaced sockets tell in between, every run goes on as it would have gone: at the same
events the same is to be done by the same channel, and the same callbacks start, but for the flags
of the replaced sockets themselves. When a replaced socket closes, the requests up to its generation
are rejected, and nothing else happens. -/
theorem replaced_for_good {settings : Settings} {draw : Nat → Nat} {past : List Moment}
    {scene : Scene} (run : Run (.start settings draw) past scene) :
    (∀ kept all other, Disturbed (.start settings draw) kept all other →
        kept.map Moment.event = past.map Moment.event →
        Undisturbed past kept all scene other) ∧
      ∀ event generation closing, scene.allows event = true →
        Moment.notice? ⟨scene, event⟩ = some (generation, .closed closing) →
        generation < scene.channel.link.generation →
        LateClose past ⟨scene, event⟩ generation := by
  refine ⟨fun kept all other disturbed same => disturbed.undisturbed run same, ?_⟩
  intro event generation closing allowed taken old
  exact @Run.lateClose _ _ past ⟨scene, event⟩ run allowed generation closing taken old

/-- One request waits for a socket that the client has let go of, and one for its successor. -/
def outlived : List Event :=
  [.call none (.onConnect (.make "connected" [] none)), .call none .connect,
    .call none (.request "status" none none), .work, .call none .disconnect, .work,
    .call none .connect, .call none (.request "status" none none), .work]

/-- A greeting. -/
def belatedHello : Notice :=
  .message "\x7b\"event\":\"hello\"\x7d"

/-- An answer to the second request. -/
def belatedAnswer : Notice :=
  .message "\x7b\"id\":2\x7d"

/-- After `outlived` the first socket greets and answers the second request, then the second one
opens, and at last the first one closes. -/
theorem replaced_for_good_outlived : ∃ past scene kept all other,
    Run (.start default fun _ => 0) past scene ∧
      past.map Moment.event = outlived ++ [.socket 2 .opened] ∧
      Disturbed (.start default fun _ => 0) kept all other ∧
      all.map Moment.event =
        outlived ++ [.socket 1 belatedHello, .socket 1 belatedAnswer, .socket 2 .opened] ∧
      Undisturbed past kept all scene other ∧
      LateClose past ⟨scene, .socket 1 (.closed (.abnormal "stream ended"))⟩ 1 := by
  have seen : (((Scene.start default fun _ => 0).play [] outlived).map fun played =>
      let opened := played.2.after (.socket 2 .opened)
      (played.2.allows (.socket 2 .opened), played.2.channel.link.generation,
        opened.allows (.socket 1 (.closed (.abnormal "stream ended"))),
        opened.channel.link.generation)) = some (true, 2, true, 2) := by
    cbv
  obtain ⟨⟨past, scene⟩, played, views⟩ := Option.map_eq_some_iff.mp seen
  obtain ⟨opens, latest, closes, still⟩ :=
    Prod.mk.inj views |>.imp_right fun views => Prod.mk.inj views |>.imp_right Prod.mk.inj
  have run := Scene.run_of_play .start played
  have events : past.map Moment.event = outlived := Scene.events_of_play played
  have old : 1 < scene.channel.link.generation := Nat.lt_of_lt_of_eq Nat.one_lt_two latest.symm
  have greets : Murmurs scene _ _ := @Murmurs.socket scene 1 belatedHello old rfl
  have link := congrArg (fun scene => scene.channel.link.generation) greets.blur
  have answers : Murmurs (scene.after (.socket 1 belatedHello)) _ _ :=
    @Murmurs.socket _ 1 belatedAnswer (Nat.lt_of_lt_of_eq old link.symm) rfl
  have disturbed := (((Disturbed.of_run run).murmur greets).murmur answers).step (.socket 2 .opened)
  obtain ⟨settled, late⟩ := replaced_for_good (run.step opens)
  refine ⟨_, _, _, _, _, run.step opens, ?_, disturbed, ?_, settled _ _ _ disturbed ?_,
    late _ _ _ closes rfl (Nat.lt_of_lt_of_eq Nat.one_lt_two still.symm)⟩
  · simp [events]
  · simp [events]
  · simp

end Intercom
