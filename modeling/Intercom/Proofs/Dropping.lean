import Mathlib
import Intercom.Proofs.Accounts
import Intercom.Proofs.Callback

/-!
# Futures that are dropped

The client may drop the future of a request whenever it likes. `Channel.without` leaves out all that
this can change: the dropped futures themselves, and what later calls are told about them. Every
operation on a channel respects it, so that a run goes on in the same way whatever futures are
dropped.

Results:
1. `Channel.without_apply`: no operation depends on futures that are dropped.
2. `Scene.without_after`: nor does any event of a run.
3. `Moment.concludes`: a request waits until it is answered, its time is over, its write fails or
   its socket closes.
4. `dropped_unnoticed`: a run in which futures are dropped is the same run.
-/

namespace Intercom

/-! ## Definitions -/

section Without

variable (dropped : List RequestId)

/-- The answer to a call, without what it tells of a dropped future. -/
def Reply.without (call : Call) (reply : Reply) : Reply :=
  match call with
  | .forget id => if id ∈ dropped then .held false else reply
  | _ => reply

/-- The line of the record, without what it tells of a dropped future. -/
def Entry.without : Entry → Entry
  | .did label call reply => .did label call (reply.without dropped call)
  | entry => entry

def Task.without : Task → Task
  | .report entry => .report (entry.without dropped)
  | task => task

/-- The channel without its dropped futures, and without what the record tells of them. -/
def Channel.without (channel : Channel) : Channel :=
  { channel with
    futures := channel.futures.filter fun future => future.id ∉ dropped
    journal := channel.journal.map (Entry.without dropped) }

def Scene.without (scene : Scene) : Scene :=
  ⟨scene.agenda.map (Task.without dropped), scene.channel.without dropped⟩

/-- `one.Matches two`: the scenes differ in dropped futures and in what is told of them at most. -/
structure Scene.Matches (one two : Scene) : Prop where
  agenda : two.agenda.map (Task.without dropped) = one.agenda.map (Task.without dropped)
  /-- Requests that wait, alarms, link, sockets with their frames, callbacks: all is the same. -/
  channel : ∃ futures journal, two.channel = { one.channel with futures, journal }
  journal : two.channel.journal.map (Entry.without dropped) =
    one.channel.journal.map (Entry.without dropped)
  /-- Any other future is held in both or in neither, and its outcome is the same. -/
  futures : two.channel.futures.filter (fun future => future.id ∉ dropped) =
    one.channel.futures.filter fun future => future.id ∉ dropped
  /-- What the client can take is the same. -/
  outcomes : two.channel.takeSettled.1.filter (fun settled => settled.1 ∉ dropped) =
    one.channel.takeSettled.1.filter fun settled => settled.1 ∉ dropped

end Without

/-- `Dropping first dropped kept all scene`: the moments `all` lead from `first` to `scene`. All but
`kept` are drops of these futures, at any points, also in the middle of a call or a notice. -/
inductive Dropping (first : Scene) (dropped : List RequestId) :
    List Moment → List Moment → Scene → Prop where
  | start : Dropping first dropped [] [] first
  | step {kept all : List Moment} {scene : Scene} (event : Event) :
      Dropping first dropped kept all scene →
      Dropping first dropped (kept ++ [⟨scene, event⟩]) (all ++ [⟨scene, event⟩])
        (scene.after event)
  | drop {kept all : List Moment} {scene : Scene} {id : RequestId} (own : Option SubscriptionId) :
      id ∈ dropped → Dropping first dropped kept all scene →
      Dropping first dropped kept (all ++ [⟨scene, .call own (.forget id)⟩])
        (scene.after (.call own (.forget id)))

/-- `moment.Concludes id`: in this moment a request with the identifier is answered, or its time is
over, or its frame cannot be written, or its socket or a later one has closed. -/
inductive Moment.Concludes (moment : Moment) (id : RequestId) : Prop where
  | answered {generation : Nat} {answer : Response} :
      moment.task? = some (.route generation (.response answer)) → answer.id = id →
      moment.Concludes id
  | expired {timeout : Duration} : moment.task? = some (.expire id timeout) →
      moment.Concludes id
  | failed {generation : Nat} {failure : Failure} :
      moment.notice? = some (generation, .sendFailed id failure) → moment.Concludes id
  | closed {generation : Nat} {waiting : Waiting} :
      moment.task? = some (.sweep generation) → waiting ∈ moment.scene.channel.pending →
      waiting.id = id → waiting.generation ≤ generation → moment.Concludes id

/-- `Unnoticed dropped past kept all scene other`: the moments `past` and `kept`, which lead to the
two scenes, match, and all callbacks start in the same order with what was dropped in between. -/
structure Unnoticed (dropped : List RequestId) (past kept all : List Moment) (scene other : Scene) :
    Prop where
  events : kept.map Moment.event = past.map Moment.event
  scenes : List.Forall₂ (Scene.Matches dropped) (past.map Moment.scene) (kept.map Moment.scene)
  ends : scene.Matches dropped other
  possible : ∀ moment ∈ kept, moment.scene.allows moment.event = true
  invocations : all.filterMap Moment.invocation? = past.filterMap Moment.invocation?
  /-- A request waits until it is concluded, whether its future is held or not. -/
  waits : ∀ moment ∈ all, ∀ id, moment.scene.channel.isPending id = true →
    moment.after.channel.isPending id = false → moment.Concludes id
  /-- An answer to a request that waits settles it, and no listener is told of it. -/
  consumed : ∀ moment ∈ all, ∀ generation answer,
    moment.task? = some (.route generation (.response answer)) →
    moment.scene.channel.isPending answer.id = true →
    moment.leads = [] ∧ moment.after.channel = moment.scene.channel.settle answer.id answer.result

/-! ## Operations -/

variable {dropped : List RequestId}

namespace Reply

@[simp] theorem without_without (call : Call) (reply : Reply) :
    (reply.without dropped call).without dropped call = reply.without dropped call := by
  cases call with
  | forget id =>
      simp only [without]
      split <;> rfl
  | _ => rfl

end Reply

namespace Entry

@[simp] theorem without_without (entry : Entry) :
    (entry.without dropped).without dropped = entry.without dropped := by
  cases entry with
  | did label call reply => exact congrArg (did label call) (reply.without_without call)
  | _ => rfl

end Entry

/-- Futures that are changed, but for their identifiers, are left out as before. -/
theorem filter_map_futures {change : Future → Future}
    (kept : ∀ future, (change future).id = future.id) (futures : List Future) :
    (futures.map change).filter (fun future => future.id ∉ dropped) =
      (futures.filter fun future => future.id ∉ dropped).map change := by
  rw [List.filter_map]
  refine congrArg (List.map change) (List.filter_congr fun future _ => ?_)
  rw [Function.comp_apply, kept]

namespace Channel

variable (channel : Channel)

@[simp] theorem without_without :
    (channel.without dropped).without dropped = channel.without dropped := by
  simp [without, List.filter_filter]

theorem resolve_without (id : RequestId) (outcome : Outcome) :
    (channel.without dropped).resolve id outcome =
      (channel.resolve id outcome).without dropped := by
  unfold resolve without
  rw [filter_map_futures]
  intro future
  split <;> rfl

theorem settle_without (id : RequestId) (outcome : Outcome) :
    (channel.without dropped).settle id outcome = (channel.settle id outcome).without dropped := by
  have same : (channel.without dropped).pending = channel.pending := rfl
  unfold settle
  rw [same]
  split
  · rfl
  · next waiting _ =>
      rw [← resolve_without]
      cases waiting.alarm <;> rfl

theorem settleEach_without (requests : List Waiting) (outcome : Outcome) :
    (channel.without dropped).settleEach requests outcome =
      (channel.settleEach requests outcome).without dropped := by
  induction requests generalizing channel with
  | nil => rfl
  | cons first rest ih =>
      exact (congrArg (settleEach · rest outcome) (channel.settle_without first.id outcome)).trans
        (ih (channel.settle first.id outcome))

theorem cancelReconnect_without :
    (channel.without dropped).cancelReconnect = channel.cancelReconnect.without dropped := by
  unfold cancelReconnect
  dsimp only [without]
  cases channel.link.alarm <;> rfl

theorem loseSocket_without :
    (channel.without dropped).loseSocket = channel.loseSocket.without dropped := by
  unfold loseSocket
  dsimp only [without]
  cases channel.link.socket <;> rfl

theorem closeLink?_without :
    (channel.without dropped).closeLink? = channel.closeLink?.map (without dropped) := by
  have link : (channel.without dropped).link = channel.link := rfl
  unfold closeLink?
  rw [loseSocket_without, link]
  split
  · rfl
  · generalize channel.loseSocket = lost
    have link : (lost.without dropped).link = lost.link := rfl
    have settings : (lost.without dropped).settings = lost.settings := rfl
    unfold scheduleReconnect?
    rw [link, settings]
    split
    · dsimp only
      split <;> rfl
    · rfl

theorem openSocket_without :
    (channel.without dropped).openSocket = channel.openSocket.without dropped := by
  have link : (channel.without dropped).link = channel.link := rfl
  unfold openSocket
  rw [cancelReconnect_without, link]
  split <;> rfl

/-- A request is entered the same, but its future may be among the dropped ones. -/
theorem register_without (id : RequestId) (event : String) (generation : Nat)
    (timeout : Duration) :
    ((channel.without dropped).register id event generation timeout).without dropped =
      (channel.register id event generation timeout).without dropped := by
  rw [register_eq, register_eq]
  simp [without, enterWaiting, setAlarm, List.filter_filter]

theorem forget_without (id : RequestId) :
    ((channel.without dropped).forget id).2 = (channel.forget id).2.without dropped := by
  unfold forget without
  rw [filter_map_futures]
  intro future
  split <;> rfl

/-- Whether a future was still held is the same, unless it is dropped. -/
theorem held_without (id : RequestId) :
    (Reply.held ((channel.without dropped).forget id).1).without dropped (.forget id) =
      (Reply.held (channel.forget id).1).without dropped (.forget id) := by
  simp only [Reply.without]
  split
  · rfl
  · next kept =>
      refine congrArg Reply.held ?_
      unfold forget without
      dsimp only
      rw [List.any_filter]
      refine List.any_congr rfl fun future => ?_
      by_cases same : future.id = id <;> simp [same, kept]

theorem takeSettled_without :
    (channel.without dropped).takeSettled.2 = channel.takeSettled.2.without dropped := by
  unfold takeSettled without
  rw [filter_map_futures]
  intro future
  split <;> rfl

/-- Of what the client can take, all is there but the outcomes of dropped futures. -/
theorem outcomes_without :
    (channel.without dropped).takeSettled.1 =
      channel.takeSettled.1.filter fun settled => settled.1 ∉ dropped := by
  unfold takeSettled without
  dsimp only
  rw [List.filterMap_filter, List.filter_filterMap]
  refine List.filterMap_congr fun future _ => ?_
  by_cases kept : future.id ∈ dropped <;> cases future.held <;> cases future.outcome <;>
    simp [kept, Option.filter]

end Channel

/-- The effect, without what the record tells of dropped futures. -/
def Effect.without (dropped : List RequestId) : Effect → Effect
  | .callbacks after =>
      .callbacks { after with journal := after.journal.map (Entry.without dropped) }
  | effect => effect

namespace Channel

variable (channel : Channel)

/-- No operation depends on futures that are dropped. -/
theorem without_apply (effect : Effect) :
    ((effect.without dropped).apply (channel.without dropped)).without dropped =
      (effect.apply channel).without dropped := by
  -- all but two may be carried out with the dropped futures or without them
  have moved (same : effect.apply (channel.without dropped) =
      (effect.apply channel).without dropped) :
      (effect.apply (channel.without dropped)).without dropped =
        (effect.apply channel).without dropped := by
    rw [same, without_without]
  cases effect with
  | callbacks after =>
      simp [Effect.without, Effect.apply, withCallbacks, without, List.filter_filter]
  | openSocket => exact moved channel.openSocket_without
  | releaseSocket =>
      refine moved ?_
      unfold Effect.apply releaseSocket
      rw [cancelReconnect_without]
      rfl
  | register event timeout =>
      exact register_without { channel with ids := channel.ids.take.2 } _ _ _ _
  | settle id outcome => exact moved (channel.settle_without id outcome)
  | reject generation => exact moved (channel.settleEach_without _ _)
  | close =>
      refine moved ?_
      unfold Effect.apply
      rw [closeLink?_without, loseSocket_without, Option.getD_map]
  | forget id => exact moved (channel.forget_without id)
  | collect => exact moved channel.takeSettled_without
  | _ => exact moved rfl

theorem reflect_without (generation : Nat) (notice : Notice) :
    (channel.without dropped).reflect generation notice =
      (channel.reflect generation notice).without dropped := by
  cases notice <;> rfl

/-- Effects that are the same but for dropped futures do the same but for dropped futures. -/
theorem apply_congr {one two : Effect} {first second : Channel}
    (effects : two.without dropped = one.without dropped)
    (channels : second.without dropped = first.without dropped) :
    (two.apply second).without dropped = (one.apply first).without dropped := by
  rw [← second.without_apply, effects, channels, without_apply]

/-- The callbacks of channels that are the same but for dropped futures. -/
theorem callbacks_congr {first second : Channel}
    (channels : second.without dropped = first.without dropped) :
    (Effect.callbacks second.callbacks).without dropped =
      (Effect.callbacks first.callbacks).without dropped :=
  congrArg (fun channel : Channel => Effect.callbacks channel.callbacks) channels

theorem record_without (entry : Entry) :
    ((channel.without dropped).record (entry.without dropped)).without dropped =
      (channel.record entry).without dropped := by
  simp [record, without, List.filter_filter]

end Channel

/-! ## Calls and tasks -/

namespace Call

variable (own : Option SubscriptionId) (call : Call) (channel : Channel)

/-- A call answers the same, but for dropped futures, and leads to the same. -/
theorem begin_without :
    (call.begin own (channel.without dropped)).1.without dropped call =
        (call.begin own channel).1.without dropped call ∧
      (call.begin own (channel.without dropped)).2.1 = (call.begin own channel).2.1 := by
  cases call with
  | forget id => exact ⟨channel.held_without id, rfl⟩
  | _ => exact ⟨rfl, rfl⟩

theorem effect_without :
    (call.effect own (channel.without dropped)).without dropped =
      (call.effect own channel).without dropped := by
  cases call <;>
    simp [effect, begin, Effect.without, Channel.without, Channel.callbacks, Channel.addHook]

end Call

namespace Running

/-- A hook starts the same. -/
theorem start_without (hook : Hook) (own : Option SubscriptionId) (entry : Entry)
    (channel : Channel) :
    (start hook own entry (channel.without dropped)).2.without dropped =
      (start hook own entry channel).2.without dropped := by
  simp [start, Channel.record, Channel.countRun, Channel.without, List.filter_filter]

end Running

namespace Task

@[simp] theorem without_without (task : Task) :
    (task.without dropped).without dropped = task.without dropped := by
  cases task with
  | report entry => exact congrArg report entry.without_without
  | _ => rfl

theorem perform_without (running : Running) (call : Call) (channel : Channel) :
    (perform running call (channel.without dropped)).1.map (without dropped) =
      (perform running call channel).1.map (without dropped) := by
  obtain ⟨reply, leads⟩ := @Call.begin_without dropped running.own call channel
  unfold perform
  simp only [List.map_append, List.map_cons, List.map_nil, without, Entry.without, reply, leads]

/-- What a task leads to does not depend on dropped futures. -/
theorem leads_without (task : Task) (channel : Channel) :
    ((task.without dropped).run (channel.without dropped)).1.map (without dropped) =
      (task.run channel).1.map (without dropped) := by
  have link : (channel.without dropped).link = channel.link := rfl
  cases task with
  | send socket request =>
      cases socket with
      | none => rfl
      | some generation =>
          simp only [without, run]
          split <;> split <;> rfl
  | receive generation notice =>
      cases notice with
      | opened => rfl
      | sendFailed => rfl
      | message text =>
          simp only [without, run, link]
          split
          · split <;> rfl
          · rfl
      | closed closing =>
          simp only [without, run, link, Channel.closeLink?_without]
          split
          · cases channel.closeLink? <;> rfl
          · rfl
  | route generation message =>
      cases message with
      | push => rfl
      | response answer =>
          have waits : (channel.without dropped).isPending answer.id =
            channel.isPending answer.id := rfl
          simp only [without, run, waits]
          split
          · rfl
          · split <;> rfl
  | dispatch generation push =>
      simp only [without, run, link]
      split <;> rfl
  | announceReady =>
      have hook : (channel.without dropped).onConnect = channel.onConnect := rfl
      simp only [without, run, hook]
      split <;> rfl
  | deliver push current listeners completed =>
      cases current with
      | none => cases listeners <;> rfl
      | some running =>
          obtain ⟨label, own, actions⟩ := running
          cases actions with
          | nil => rfl
          | cons action =>
              cases action with
              | panic => rfl
              | call call =>
                  simp only [without, run, List.map_append, perform_without]
  | announceClose =>
      have hook : (channel.without dropped).onDisconnect = channel.onDisconnect := rfl
      simp only [without, run, hook]
      split <;> rfl
  | callback running =>
      obtain ⟨label, own, actions⟩ := running
      cases actions with
      | nil => rfl
      | cons action =>
          cases action with
          | panic => rfl
          | call call => simp only [without, run, List.map_append, perform_without]
  | _ => rfl

/-- Nor does what a task does to the channel. -/
theorem effect_without (task : Task) (channel : Channel) :
    ((task.without dropped).effect (channel.without dropped)).without dropped =
      (task.effect channel).without dropped := by
  have idle : (Effect.callbacks (channel.without dropped).callbacks).without dropped =
      (Effect.callbacks channel.callbacks).without dropped :=
    Channel.callbacks_congr channel.without_without
  cases task with
  | send socket request => cases socket <;> rfl
  | receive generation notice => cases notice <;> rfl
  | route generation message => cases message <;> rfl
  | announceReady generation =>
      have hook : (channel.without dropped).onConnect = channel.onConnect := rfl
      simp only [without, effect, run, hook]
      split
      · exact idle
      · next hook _ => exact Channel.callbacks_congr (Running.start_without hook none _ channel)
  | deliver push current listeners completed =>
      cases current with
      | none =>
          cases listeners with
          | nil => exact idle
          | cons listener rest =>
              exact Channel.callbacks_congr
                (Running.start_without listener.handler (some listener.id) _ channel)
      | some running =>
          obtain ⟨label, own, actions⟩ := running
          cases actions with
          | nil => exact idle
          | cons action =>
              cases action with
              | panic => exact idle
              | call call => exact call.effect_without own channel
  | announceClose closing =>
      have hook : (channel.without dropped).onDisconnect = channel.onDisconnect := rfl
      simp only [without, effect, run, hook]
      split
      · exact idle
      · next hook _ => exact Channel.callbacks_congr (Running.start_without hook none _ channel)
  | callback running =>
      obtain ⟨label, own, actions⟩ := running
      cases actions with
      | nil => exact idle
      | cons action =>
          cases action with
          | panic => exact idle
          | call call => exact call.effect_without own channel
  | report entry => exact Channel.callbacks_congr (channel.record_without entry)
  | _ => rfl

/-- A task does the same and leads to the same, but for dropped futures. -/
theorem run_without {one two : Task} {first second : Channel}
    (tasks : two.without dropped = one.without dropped)
    (channels : second.without dropped = first.without dropped) :
    (two.run second).1.map (without dropped) = (one.run first).1.map (without dropped) ∧
      (two.run second).2.without dropped = (one.run first).2.without dropped := by
  constructor
  · rw [← two.leads_without, tasks, channels, leads_without]
  · rw [run_effect, run_effect]
    refine Channel.apply_congr ?_ channels
    rw [← two.effect_without, tasks, channels, effect_without]

end Task

namespace Scene

/-- No event depends on dropped futures. -/
theorem without_after (scene : Scene) (event : Event) :
    ((scene.without dropped).after event).without dropped =
      (scene.after event).without dropped := by
  have channel : (scene.channel.without dropped).without dropped =
      scene.channel.without dropped :=
    scene.channel.without_without
  have apply (effect : Effect) :
      (effect.apply (scene.channel.without dropped)).without dropped =
        (effect.apply scene.channel).without dropped :=
    Channel.apply_congr rfl channel
  have performs :
      ((scene.without dropped).perform event).1.map (Task.without dropped) =
          (scene.perform event).1.map (Task.without dropped) ∧
        ((scene.without dropped).perform event).2.without dropped =
          (scene.perform event).2.without dropped := by
    cases event with
    | call own call =>
        refine ⟨congrArg _ (call.begin_without own scene.channel).2, ?_⟩
        show (call.begin own _).2.2.without dropped = (call.begin own _).2.2.without dropped
        rw [Call.begin_effect, Call.begin_effect]
        exact Channel.apply_congr (call.effect_without own scene.channel) channel
    | socket generation notice =>
        refine Task.run_without rfl ?_
        exact (congrArg _ (scene.channel.reflect_without generation notice)).trans
          (Channel.without_without _)
    | alarm alarm => exact ⟨rfl, apply (.silence alarm.ticket)⟩
    | wait milliseconds => exact ⟨rfl, apply (.wait milliseconds)⟩
    | collect => exact ⟨rfl, apply .collect⟩
    | work =>
        obtain ⟨agenda, channel⟩ := scene
        cases agenda with
        | nil => exact ⟨rfl, channel⟩
        | cons task rest => exact Task.run_without task.without_without channel
  have rests : ((scene.without dropped).rest event).map (Task.without dropped) =
      (scene.rest event).map (Task.without dropped) := by
    have idle : (scene.agenda.map (Task.without dropped)).map (Task.without dropped) =
        scene.agenda.map (Task.without dropped) := by
      simp
    cases event with
    | work =>
        show (scene.agenda.map (Task.without dropped)).tail.map (Task.without dropped) =
          scene.agenda.tail.map (Task.without dropped)
        rw [List.map_tail, idle, ← List.map_tail]
    | _ => exact idle
  refine congrArg₂ Scene.mk ?_ performs.2
  show List.map _ (_ ++ _) = List.map _ (_ ++ _)
  rw [List.map_append, List.map_append, performs.1, rests]

theorem after_congr {one two : Scene} (same : two.without dropped = one.without dropped)
    (event : Event) : (two.after event).without dropped = (one.after event).without dropped := by
  rw [← two.without_after, same, without_after]

theorem allows_without (scene : Scene) (event : Event) :
    (scene.without dropped).allows event = scene.allows event := by
  have free : (scene.without dropped).free = scene.free := by
    unfold Scene.free without
    rw [List.head?_map, Option.all_map]
    congr 1
    funext task
    cases task <;> rfl
  cases event with
  | work => exact congrArg Bool.not List.isEmpty_map
  | call => exact free
  | wait => exact free
  | collect => exact free
  | socket generation notice =>
      exact congrArg (· && (scene.channel.handle? generation).isSome) free
  | alarm alarm =>
      exact congrArg (fun free => free && decide (alarm ∈ scene.channel.alarms) &&
        alarm.due ≤ scene.channel.now) free

theorem invocation?_without (scene : Scene) (event : Event) :
    Moment.invocation? ⟨scene.without dropped, event⟩ =
      Moment.invocation? ⟨scene, event⟩ := by
  obtain ⟨agenda, channel⟩ := scene
  cases event with
  | work =>
      cases agenda with
      | nil => rfl
      | cons task rest => cases task <;> rfl
  | _ => rfl

/-- To drop one of these futures changes nothing but that. -/
theorem after_drop (scene : Scene) (own : Option SubscriptionId) {id : RequestId}
    (among : id ∈ dropped) :
    (scene.after (.call own (.forget id))).without dropped = scene.without dropped := by
  have futures : (scene.channel.forget id).2.without dropped = scene.channel.without dropped := by
    unfold Channel.forget Channel.without
    dsimp only
    rw [filter_map_futures fun future => by split <;> rfl]
    congr 1
    refine (List.map_congr_left fun future held => if_neg fun same => ?_).trans (List.map_id _)
    simp [same, among] at held
  exact congrArg (Scene.mk _) futures

namespace Matches

variable {one two : Scene}

theorem of_without (same : two.without dropped = one.without dropped) :
    one.Matches dropped two := by
  have channel : two.channel.without dropped = one.channel.without dropped :=
    congrArg Scene.channel same
  refine ⟨(congrArg Scene.agenda same :), ⟨two.channel.futures, two.channel.journal, ?_⟩,
    (congrArg Channel.journal channel :), (congrArg Channel.futures channel :), ?_⟩
  · exact congrArg (fun channel : Channel =>
      { channel with futures := two.channel.futures, journal := two.channel.journal }) channel
  · rw [← Channel.outcomes_without, channel, Channel.outcomes_without]

theorem without (matching : one.Matches dropped two) :
    two.without dropped = one.without dropped := by
  obtain ⟨agenda, ⟨futures, journal, channel⟩, lines, others, _⟩ := matching
  refine congrArg₂ Scene.mk agenda ?_
  unfold Channel.without
  rw [lines, others, channel]

end Matches

end Scene

/-! ## How a request ends -/

namespace Moment

variable {moment : Moment}

/-- A request that waits no more after a moment is concluded in it. -/
theorem concludes {id : RequestId} (waits : moment.scene.channel.isPending id = true)
    (gone : moment.after.channel.isPending id = false) : moment.Concludes id := by
  rw [Bool.eq_false_iff] at gone
  cases made : moment.issue? with
  | some issue =>
      obtain ⟨event, data, timeout, calls, _⟩ := AccountsLemmas.call_of_issue made
      refine absurd ?_ gone
      rw [registers calls, Effect.apply, Channel.isPending_register]
      exact Bool.or_eq_true_iff.mpr (.inl waits)
  | none =>
      cases acts : moment.trigger? with
      | none => exact absurd (((keeps made acts).isPending id).trans waits) gone
      | some trigger =>
          have hits : trigger.Hits moment.scene.channel id := by
            by_contra spared
            rw [triggers acts] at gone
            exact gone ((trigger.isPending_apply _ id).mpr ⟨waits, spared⟩)
          have cause := moment.cause
          unfold trigger? at acts
          generalize moment.effect = effect at cause acts
          cases cause with
          | answer carried =>
              cases acts
              exact .answered carried (Eq.symm hits)
          | expire carried =>
              cases acts
              cases hits
              exact .expired carried
          | failed taken =>
              cases acts
              cases hits
              exact .failed taken
          | sweep carried =>
              cases acts
              obtain ⟨waiting, present, same, stale⟩ := hits
              exact .closed carried present same stale
          | _ => cases acts

/-- An answer to a request that waits is its response, whether or not it names an event. -/
theorem consumes {generation : Nat} {answer : Response}
    (carried : moment.task? = some (.route generation (.response answer)))
    (waits : moment.scene.channel.isPending answer.id = true) :
    moment.leads = [] ∧
      moment.after.channel = moment.scene.channel.settle answer.id answer.result := by
  have ran : (Task.route generation (.response answer)).run moment.scene.channel =
      ([], moment.scene.channel.settle answer.id answer.result) := if_pos waits
  obtain ⟨_, after, _⟩ := work_of_task carried
  rw [leads_of_task carried, after, ran]
  exact ⟨rfl, rfl⟩

end Moment

/-! ## Two runs -/

namespace Dropping

variable {first : Scene} {past kept all : List Moment} {scene other : Scene}

/-- Whatever futures are dropped in between, a run goes on as it would have gone. -/
theorem unnoticed (dropping : Dropping first dropped kept all other) (run : Run first past scene)
    (same : kept.map Moment.event = past.map Moment.event) :
    Unnoticed dropped past kept all scene other := by
  induction dropping generalizing past scene with
  | start =>
      obtain rfl := List.map_eq_nil_iff.mp same.symm
      rw [run.nothing]
      have none : ∀ moment ∈ ([] : List Moment), moment.scene.allows moment.event = true :=
        fun _ absent => absurd absent List.not_mem_nil
      exact ⟨rfl, .nil, .of_without rfl, none, rfl, fun _ _ _ => Moment.concludes,
        fun _ _ _ _ => Moment.consumes⟩
  | @step kept all other event _ ih =>
      obtain ⟨earlier, moment, rfl⟩ : ∃ earlier moment, past = earlier ++ [moment] := by
        cases past using List.reverseRecOn with
        | nil => simp at same
        | append_singleton earlier moment => exact ⟨earlier, moment, rfl⟩
      obtain ⟨reached, allowed, rfl⟩ := run.last
      simp only [List.map_append, List.map_cons, List.map_nil] at same
      obtain ⟨before, now⟩ := List.append_inj' same rfl
      obtain rfl : event = moment.event := List.singleton_inj.mp now
      have past := ih reached before
      have alike := past.ends.without
      refine ⟨?_, ?_, .of_without (Scene.after_congr alike moment.event), ?_, ?_,
        fun _ _ _ => Moment.concludes, fun _ _ _ _ => Moment.consumes⟩
      · simpa using same
      · rw [List.map_append, List.map_append]
        exact List.rel_append past.scenes (.cons past.ends .nil)
      · intro later present
        rcases List.mem_append.mp present with old | new
        · exact past.possible later old
        · rw [List.mem_singleton.mp new]
          show other.allows moment.event = true
          rw [← other.allows_without, alike, Scene.allows_without, allowed]
      · have starts : Moment.invocation? ⟨other, moment.event⟩ = moment.invocation? := by
          rw [← other.invocation?_without, alike, Scene.invocation?_without]
        simp only [List.filterMap_append, past.invocations, List.filterMap_cons, starts,
          List.filterMap_nil]
  | @drop kept all other id own among _ ih =>
      have past := ih run same
      refine { past with
        ends := .of_without ?_
        invocations := ?_
        waits := fun _ _ _ => Moment.concludes
        consumed := fun _ _ _ _ => Moment.consumes }
      · rw [other.after_drop own among, past.ends.without]
      · rw [List.filterMap_append, past.invocations]
        exact List.append_nil _

/-- A run in which no future is dropped. -/
theorem of_run (dropped : List RequestId) (run : Run first past scene) :
    Dropping first dropped past past scene := by
  induction run with
  | start => exact .start
  | step _ _ ih => exact ih.step _

end Dropping

/-- Every run with drops of futures at any points goes on as it would have gone: at the same events
the same requests wait with the same alarms, link, sockets and callbacks are the same, the same
frames are handed to the same sockets, and the same callbacks start. Every future that was not
dropped has the same outcome. A request whose future was dropped waits until it is concluded, and an
answer to it is its response. -/
theorem dropped_unnoticed {settings : Settings} {draw : Nat → Nat} {past : List Moment}
    {scene : Scene} (run : Run (.start settings draw) past scene) :
    ∀ dropped kept all other, Dropping (.start settings draw) dropped kept all other →
      kept.map Moment.event = past.map Moment.event →
      Unnoticed dropped past kept all scene other :=
  fun _ _ _ _ dropping same => dropping.unnoticed run same

/-- A request for an event that somebody listens for. -/
def listenedFor : List Event :=
  [.call none (.on "status" (.make "listener" [] none)), .call none .connect,
    .call none (.request "status" none none), .work, .socket 1 .opened]

/-- An answer to the first request that names the event. -/
def taggedAnswer : Notice :=
  .message "\x7b\"id\":1,\"event\":\"status\"\x7d"

/-- After `listenedFor` the client drops its future before the answer arrives. -/
theorem dropped_unnoticed_listenedFor : ∃ past scene kept all other,
    Run (.start default fun _ => 0) past scene ∧
      past.map Moment.event = listenedFor ++ [.socket 1 taggedAnswer, .work] ∧
      Dropping (.start default fun _ => 0) [⟨1⟩] kept all other ∧
      all.map Moment.event =
        listenedFor ++ [.call none (.forget ⟨1⟩), .socket 1 taggedAnswer, .work] ∧
      Unnoticed [⟨1⟩] past kept all scene other := by
  have seen : (((Scene.start default fun _ => 0).play [] listenedFor).map fun played =>
      (played.2.allows (.socket 1 taggedAnswer),
        (played.2.after (.socket 1 taggedAnswer)).allows .work)) = some (true, true) := by
    cbv
  obtain ⟨⟨past, scene⟩, played, views⟩ := Option.map_eq_some_iff.mp seen
  obtain ⟨answers, works⟩ := Prod.mk.inj views
  have run := Scene.run_of_play .start played
  have events : past.map Moment.event = listenedFor := Scene.events_of_play played
  have dropping := ((((Dropping.of_run [⟨1⟩] run).drop none List.mem_cons_self).step
    (.socket 1 taggedAnswer)).step .work)
  refine ⟨_, _, _, _, _, (run.step answers).step works, ?_, dropping, ?_,
    dropped_unnoticed ((run.step answers).step works) _ _ _ _ dropping ?_⟩
  · simp [events]
  · simp [events]
  · simp

end Intercom
