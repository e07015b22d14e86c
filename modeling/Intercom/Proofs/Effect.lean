import Intercom.Proofs.Pending
import Intercom.Proofs.Run

/-!
# What a moment does to a channel

A moment carries out one operation on the channel. `Moment.effect` tells which, so that a property
of every step is a property of every operation, and no later proof goes through the tasks again.

Results:
1. `Moment.after_eq`: the channel after a moment is the effect of the moment, carried out on the
   channel that it finds.
2. `Moment.cause`: every effect has its cause in a call, a notice, a task or an event.
3. `Effect.apply_withCallbacks`: an operation that is not about callbacks does the same whatever
   callbacks there are, and leaves them.
-/

namespace Intercom

/-! ## Effects -/

/-- The callbacks of a channel, and what they have left behind. -/
structure Callbacks where
  listeners : Listeners Hook
  onConnect : Option Hook
  onDisconnect : Option Hook
  runs : List Nat
  journal : List Entry

namespace Channel

def callbacks (channel : Channel) : Callbacks :=
  ⟨channel.listeners, channel.onConnect, channel.onDisconnect, channel.runs, channel.journal⟩

/-- The channel with other callbacks. -/
def withCallbacks (channel : Channel) (callbacks : Callbacks) : Channel :=
  { channel with
    listeners := callbacks.listeners
    onConnect := callbacks.onConnect
    onDisconnect := callbacks.onDisconnect
    runs := callbacks.runs
    journal := callbacks.journal }

end Channel

/-- One operation on a channel. -/
inductive Effect where
  | keep
  /-- Callbacks come, go or run, and the record grows. -/
  | callbacks (after : Callbacks)
  | openSocket
  | releaseSocket
  | shutDown (generation : Nat)
  | send (generation : Nat) (request : Request)
  /-- A request is numbered and waits from now on. -/
  | register (event : String) (timeout : Option Duration)
  | settle (id : RequestId) (outcome : Outcome)
  | reject (generation : Nat)
  /-- The latest socket has closed. -/
  | close
  | greet (push : Push)
  /-- The alarm of a reconnection is looked at. -/
  | retry
  | forget (id : RequestId)
  | silence (ticket : Nat)
  | wait (milliseconds : Nat)
  | collect

namespace Effect

/-- The channel after the operation. -/
def apply (channel : Channel) : Effect → Channel
  | .keep => channel
  | .callbacks after => channel.withCallbacks after
  | .openSocket => channel.openSocket
  | .releaseSocket => channel.releaseSocket.2
  | .shutDown generation => channel.shutDown generation
  | .send generation request => channel.enqueue generation (.send request.id request.text)
  | .register event timeout =>
      Channel.register { channel with ids := channel.ids.take.2 } channel.ids.peek event
        channel.link.generation (timeout.getD channel.settings.requestTimeout)
  | .settle id outcome => channel.settle id outcome
  | .reject generation => channel.rejectThrough generation
  | .close => channel.closeLink?.getD channel.loseSocket
  | .greet push => (channel.greet push).2
  | .retry => channel.checkReconnect.2
  | .forget id => (channel.forget id).2
  | .silence ticket => channel.cancelAlarm (some ticket)
  | .wait milliseconds => { channel with now := channel.now + milliseconds }
  | .collect => channel.takeSettled.2

end Effect

/-- What a call does to a channel. -/
def Call.effect (own : Option SubscriptionId) (channel : Channel) (call : Call) : Effect :=
  match call with
  | .connect => .openSocket
  | .disconnect => .releaseSocket
  | .request event _ timeout => .register event timeout
  | .forget id => .forget id
  | .count _ => .keep
  | .notify _ _ => .keep
  | _ => .callbacks (call.begin own channel).2.2.callbacks

/-- What a task does to a channel. A callback does what the call does that it is about to make. -/
def Task.effect (channel : Channel) (task : Task) : Effect :=
  match task with
  | .connect => .openSocket
  | .shutDown generation => .shutDown generation
  | .send (some generation) request =>
      if channel.isOpen generation then .send generation request else .keep
  | .send none _ => .keep
  | .receive _ (.sendFailed id failure) => .settle id (.error failure)
  | .receive generation (.closed _) =>
      if channel.link.generation = generation then .close else .keep
  | .receive _ _ => .keep
  | .route _ (.response answer) => .settle answer.id answer.result
  | .route _ (.push _) => .keep
  | .dispatch generation push =>
      if push.isHello && channel.link.generation = generation then .greet push else .keep
  | .broadcast _ => .keep
  | .sweep generation => .reject generation
  | .expire id timeout => .settle id (.error (Channel.timeoutFailure id timeout))
  | .reconnect => .retry
  | .deliver _ (some ⟨_, own, .call call :: _⟩) _ _ => call.effect own channel
  | .callback ⟨_, own, .call call :: _⟩ => call.effect own channel
  | _ => .callbacks (task.run channel).2.callbacks

namespace Moment

/-- The channel as the moment finds it: a socket's flag goes with what the socket tells. -/
def found (moment : Moment) : Channel :=
  match moment.event with
  | .socket generation notice => moment.scene.channel.reflect generation notice
  | _ => moment.scene.channel

/-- A moment finds nothing changed but open flags. -/
theorem found_frame (moment : Moment) :
    ∃ handles, moment.found = { moment.scene.channel with handles } := by
  unfold found
  split
  · next generation notice _ => cases notice <;> exact ⟨_, rfl⟩
  · exact ⟨_, rfl⟩

/-- What the moment does to the channel. -/
def effect (moment : Moment) : Effect :=
  match moment.event with
  | .call own call => call.effect own moment.scene.channel
  | .socket generation notice => (Task.receive generation notice).effect moment.scene.channel
  | .alarm alarm => .silence alarm.ticket
  | .wait milliseconds => .wait milliseconds
  | .collect => .collect
  | .work =>
      match moment.scene.agenda with
      | [] => .keep
      | task :: _ => task.effect moment.scene.channel

end Moment

/-! ## The channel after a moment -/

namespace Call

theorem begin_effect (own : Option SubscriptionId) (call : Call) (channel : Channel) :
    (call.begin own channel).2.2 = (call.effect own channel).apply channel := by
  cases call <;> rfl

end Call

namespace Task

theorem run_effect (task : Task) (channel : Channel) :
    (task.run channel).2 = (task.effect channel).apply channel := by
  cases task with
  | send socket request =>
      cases socket with
      | none => rfl
      | some generation =>
          simp only [run, effect]
          split <;> rfl
  | receive generation notice =>
      cases notice with
      | opened => rfl
      | message text =>
          simp only [run, effect]
          split
          · split <;> rfl
          · rfl
      | sendFailed => rfl
      | closed closing =>
          simp only [run, effect]
          split
          · cases closed : channel.closeLink? <;> simp [Effect.apply, closed]
          · rfl
  | route generation message =>
      cases message with
      | push => rfl
      | response answer =>
          simp only [run, effect, Effect.apply]
          split
          · rfl
          · -- nobody waits for the answer, so to settle it changes nothing
            next waiting =>
              rw [Channel.settle_of_absent (by simpa using waiting)]
              split <;> rfl
  | dispatch generation push =>
      simp only [run, effect]
      split <;> rfl
  | announceReady =>
      simp only [run, effect]
      split <;> rfl
  | deliver push current listeners completed =>
      cases current with
      | none => cases listeners <;> rfl
      | some running =>
          obtain ⟨label, own, actions⟩ := running
          cases actions with
          | nil => rfl
          | cons action =>
              cases action with
              | call call => exact call.begin_effect own channel
              | panic => rfl
  | announceClose =>
      simp only [run, effect]
      split <;> rfl
  | callback running =>
      obtain ⟨label, own, actions⟩ := running
      cases actions with
      | nil => rfl
      | cons action =>
          cases action with
          | call call => exact call.begin_effect own channel
          | panic => rfl
  | _ => rfl

end Task

namespace Moment

theorem effect_of_task {moment : Moment} {task : Task} (carried : moment.task? = some task) :
    moment.effect = task.effect moment.scene.channel := by
  obtain ⟨work, _, rest, agenda⟩ := work_of_task carried
  simp only [effect, work, agenda]

/-- A notice has the same effect from a socket and from a call in its place. -/
theorem effect_of_notice {moment : Moment} {generation : Nat} {notice : Notice}
    (taken : moment.notice? = some (generation, notice)) :
    moment.effect = (Task.receive generation notice).effect moment.scene.channel := by
  obtain ⟨⟨agenda, channel⟩, event⟩ := moment
  cases event with
  | socket =>
      cases taken
      rfl
  | work =>
      cases agenda with
      | nil => cases taken
      | cons task rest =>
          cases task with
          | receive =>
              cases taken
              rfl
          | _ => cases taken
  | _ => cases taken

/-- Whoever makes a call, the moment does what the call does. -/
theorem effect_of_call {moment : Moment} {call : Call} (calls : moment.call? = some call) :
    ∃ own, moment.effect = call.effect own moment.scene.channel := by
  obtain ⟨⟨agenda, channel⟩, event⟩ := moment
  cases event with
  | call own other =>
      cases calls
      exact ⟨own, rfl⟩
  | work =>
      cases agenda with
      | nil => cases calls
      | cons task rest =>
          change task.call? = some call at calls
          unfold Task.call? at calls
          split at calls
          · next label own made actions =>
              cases calls
              exact ⟨own, rfl⟩
          · next push label own made actions listeners completed =>
              cases calls
              exact ⟨own, rfl⟩
          · cases calls
  | _ => cases calls

/-- The channel after a moment is its effect on the channel that it finds. -/
theorem after_eq (moment : Moment) : moment.after.channel = moment.effect.apply moment.found := by
  obtain ⟨⟨agenda, channel⟩, event⟩ := moment
  cases event with
  | call own call => exact call.begin_effect own channel
  | socket generation notice =>
      have ran := (Task.receive generation notice).run_effect (channel.reflect generation notice)
      refine ran.trans ?_
      cases notice <;> rfl
  | alarm => rfl
  | wait => rfl
  | collect => rfl
  | work =>
      cases agenda with
      | nil => rfl
      | cons task rest => exact task.run_effect channel

/-- A notice is taken in by the channel that the moment finds, whoever tells it. -/
theorem after_of_notice {moment : Moment} {generation : Nat} {notice : Notice}
    (taken : moment.notice? = some (generation, notice)) :
    moment.leads = ((Task.receive generation notice).run moment.found).1 ∧
      moment.after = ⟨moment.leads ++ moment.scene.rest moment.event,
        ((Task.receive generation notice).run moment.found).2⟩ := by
  obtain ⟨⟨agenda, channel⟩, event⟩ := moment
  cases event with
  | socket =>
      cases taken
      exact ⟨rfl, rfl⟩
  | work =>
      cases agenda with
      | nil => cases taken
      | cons task rest =>
          cases task with
          | receive =>
              cases taken
              exact ⟨rfl, rfl⟩
          | _ => cases taken
  | _ => cases taken

/-- A flag changes only in moments that do nothing else, or that close the link. -/
theorem found_eq {moment : Moment} (acts : moment.effect ≠ .keep) (lasts : moment.effect ≠ .close) :
    moment.found = moment.scene.channel := by
  obtain ⟨⟨agenda, channel⟩, event⟩ := moment
  cases event with
  | socket generation notice =>
      cases notice with
      | opened => exact absurd rfl acts
      | message => rfl
      | sendFailed => rfl
      | closed closing =>
          simp only [effect, Task.effect] at acts lasts
          split at lasts
          · exact absurd rfl lasts
          · next other => simp [other] at acts
  | _ => rfl

end Moment

/-! ## Causes -/

/-- `Cause moment effect`: what the moment does has that effect. -/
inductive Cause (moment : Moment) : Effect → Prop where
  | keep : Cause moment .keep
  | callbacks {after : Callbacks} : Cause moment (.callbacks after)
  | connect : moment.call? = some .connect → Cause moment .openSocket
  | reconnect : moment.task? = some .connect → Cause moment .openSocket
  | disconnect : moment.call? = some .disconnect → Cause moment .releaseSocket
  | shutDown {generation : Nat} : moment.task? = some (.shutDown generation) →
      Cause moment (.shutDown generation)
  | send {generation : Nat} {request : Request} :
      moment.task? = some (.send (some generation) request) →
      moment.scene.channel.isOpen generation = true → Cause moment (.send generation request)
  | request {event : String} {data : Option Json} {timeout : Option Duration} :
      moment.call? = some (.request event data timeout) → Cause moment (.register event timeout)
  | answer {generation : Nat} {answer : Response} :
      moment.task? = some (.route generation (.response answer)) →
      Cause moment (.settle answer.id answer.result)
  | expire {id : RequestId} {timeout : Duration} : moment.task? = some (.expire id timeout) →
      Cause moment (.settle id (.error (Channel.timeoutFailure id timeout)))
  | failed {generation : Nat} {id : RequestId} {failure : Failure} :
      moment.notice? = some (generation, .sendFailed id failure) →
      Cause moment (.settle id (.error failure))
  | sweep {generation : Nat} : moment.task? = some (.sweep generation) →
      Cause moment (.reject generation)
  | close {closing : Closing} :
      moment.notice? = some (moment.scene.channel.link.generation, .closed closing) →
      Cause moment .close
  | greet {push : Push} :
      moment.task? = some (.dispatch moment.scene.channel.link.generation push) →
      push.isHello = true → Cause moment (.greet push)
  | retry : moment.task? = some .reconnect → Cause moment .retry
  | forget {id : RequestId} : moment.call? = some (.forget id) → Cause moment (.forget id)
  | alarm {alarm : Alarm} : moment.event = .alarm alarm → Cause moment (.silence alarm.ticket)
  | wait {milliseconds : Nat} : moment.event = .wait milliseconds →
      Cause moment (.wait milliseconds)
  | collect : moment.event = .collect → Cause moment .collect

namespace Cause

variable {moment : Moment}

theorem of_call {call : Call} (calls : moment.call? = some call) (own : Option SubscriptionId) :
    Cause moment (call.effect own moment.scene.channel) := by
  cases call with
  | connect => exact .connect calls
  | disconnect => exact .disconnect calls
  | request => exact .request calls
  | forget => exact .forget calls
  | count => exact .keep
  | notify => exact .keep
  | _ => exact .callbacks

theorem of_notice {generation : Nat} {notice : Notice}
    (taken : moment.notice? = some (generation, notice)) :
    Cause moment ((Task.receive generation notice).effect moment.scene.channel) := by
  cases notice with
  | opened => exact .keep
  | message => exact .keep
  | sendFailed => exact .failed taken
  | closed closing =>
      simp only [Task.effect]
      split
      · next current => exact .close (current ▸ taken)
      · exact .keep

theorem of_task {task : Task} (carried : moment.task? = some task) :
    Cause moment (task.effect moment.scene.channel) := by
  obtain ⟨work, _, rest, agenda⟩ := Moment.work_of_task carried
  cases task with
  | connect => exact .reconnect carried
  | shutDown => exact .shutDown carried
  | send socket request =>
      cases socket with
      | none => exact .keep
      | some generation =>
          simp only [Task.effect]
          split
          · next isOpen => exact .send carried isOpen
          · exact .keep
  | receive generation notice =>
      refine of_notice ?_
      simp only [Moment.notice?, work, agenda, List.head?_cons]
  | route generation message =>
      cases message with
      | response => exact .answer carried
      | push => exact .keep
  | dispatch generation push =>
      simp only [Task.effect]
      split
      · next accepted =>
          simp only [Bool.and_eq_true, decide_eq_true_eq] at accepted
          exact .greet (accepted.2 ▸ carried) accepted.1
      · exact .keep
  | broadcast => exact .keep
  | sweep => exact .sweep carried
  | expire => exact .expire carried
  | reconnect => exact .retry carried
  | deliver push current listeners completed =>
      cases current with
      | none => exact .callbacks
      | some running =>
          obtain ⟨label, own, actions⟩ := running
          cases actions with
          | nil => exact .callbacks
          | cons action =>
              cases action with
              | panic => exact .callbacks
              | call call =>
                  refine of_call ?_ own
                  simp only [Moment.call?, work, agenda, List.head?_cons, Option.bind_some,
                    Task.call?]
  | callback running =>
      obtain ⟨label, own, actions⟩ := running
      cases actions with
      | nil => exact .callbacks
      | cons action =>
          cases action with
          | panic => exact .callbacks
          | call call =>
              refine of_call ?_ own
              simp only [Moment.call?, work, agenda, List.head?_cons, Option.bind_some, Task.call?]
  | announceReady => exact .callbacks
  | announceClose => exact .callbacks
  | report => exact .callbacks

end Cause

/-- Every effect of a moment has a cause. -/
theorem Moment.cause (moment : Moment) : Cause moment moment.effect := by
  obtain ⟨⟨agenda, channel⟩, event⟩ := moment
  cases event with
  | call own call => exact .of_call rfl own
  | socket generation notice => exact .of_notice rfl
  | alarm => exact .alarm rfl
  | wait => exact .wait rfl
  | collect => exact .collect rfl
  | work =>
      cases agenda with
      | nil => exact .keep
      | cons task rest => exact .of_task rfl

/-! ## Callbacks -/

/-- The callbacks that an effect leaves, if it sets them. -/
def Effect.callbacks? : Effect → Option Callbacks
  | .callbacks after => some after
  | _ => none

namespace Channel

variable (channel : Channel) (callbacks : Callbacks)

theorem settle_withCallbacks (id : RequestId) (outcome : Outcome) :
    (channel.withCallbacks callbacks).settle id outcome =
      (channel.settle id outcome).withCallbacks callbacks := by
  unfold settle
  dsimp only [withCallbacks]
  split
  · rfl
  · next waiting _ => cases waiting.alarm <;> rfl

theorem settleEach_withCallbacks (requests : List Waiting) (outcome : Outcome) :
    (channel.withCallbacks callbacks).settleEach requests outcome =
      (channel.settleEach requests outcome).withCallbacks callbacks := by
  induction requests generalizing channel with
  | nil => rfl
  | cons first rest ih =>
      show ((channel.withCallbacks callbacks).settle first.id outcome).settleEach rest outcome = _
      rw [settle_withCallbacks, ih]
      rfl

theorem cancelReconnect_withCallbacks :
    (channel.withCallbacks callbacks).cancelReconnect =
      channel.cancelReconnect.withCallbacks callbacks := by
  unfold cancelReconnect
  dsimp only [withCallbacks]
  cases channel.link.alarm <;> rfl

theorem loseSocket_withCallbacks :
    (channel.withCallbacks callbacks).loseSocket = channel.loseSocket.withCallbacks callbacks := by
  unfold loseSocket
  dsimp only [withCallbacks]
  cases channel.link.socket <;> rfl

theorem scheduleReconnect?_withCallbacks :
    (channel.withCallbacks callbacks).scheduleReconnect? =
      channel.scheduleReconnect?.map fun after => after.withCallbacks callbacks := by
  have link : (channel.withCallbacks callbacks).link = channel.link := rfl
  have settings : (channel.withCallbacks callbacks).settings = channel.settings := rfl
  unfold scheduleReconnect?
  rw [link, settings]
  split
  · dsimp only
    split <;> rfl
  · rfl

theorem closeLink?_withCallbacks :
    (channel.withCallbacks callbacks).closeLink? =
      channel.closeLink?.map fun after => after.withCallbacks callbacks := by
  have link : (channel.withCallbacks callbacks).link = channel.link := rfl
  unfold closeLink?
  rw [loseSocket_withCallbacks, link]
  split
  · rfl
  · exact scheduleReconnect?_withCallbacks channel.loseSocket callbacks

theorem openSocket_withCallbacks :
    (channel.withCallbacks callbacks).openSocket = channel.openSocket.withCallbacks callbacks := by
  have link : (channel.withCallbacks callbacks).link = channel.link := rfl
  unfold openSocket
  rw [cancelReconnect_withCallbacks, link]
  split <;> rfl

end Channel

namespace Effect

/-- No operation looks at callbacks or changes them, unless it is about them. -/
theorem apply_withCallbacks {effect : Effect} (apart : effect.callbacks? = none)
    (channel : Channel) (callbacks : Callbacks) :
    effect.apply (channel.withCallbacks callbacks) =
      (effect.apply channel).withCallbacks callbacks := by
  cases effect with
  | callbacks => cases apart
  | openSocket => exact channel.openSocket_withCallbacks callbacks
  | releaseSocket =>
      show (Channel.releaseSocket _).2 = _
      unfold Channel.releaseSocket
      rw [Channel.cancelReconnect_withCallbacks]
      rfl
  | register event timeout =>
      show Channel.register _ _ _ _ _ = Channel.withCallbacks (Channel.register _ _ _ _ _) _
      rw [Channel.register_eq, Channel.register_eq]
      rfl
  | settle id outcome => exact channel.settle_withCallbacks callbacks id outcome
  | reject generation => exact channel.settleEach_withCallbacks callbacks _ _
  | close =>
      show (Channel.closeLink? _).getD (Channel.loseSocket _) = _
      rw [Channel.closeLink?_withCallbacks, Channel.loseSocket_withCallbacks, Option.getD_map]
      rfl
  | _ => rfl

theorem callbacks_apply (effect : Effect) (channel : Channel) :
    (effect.apply channel).callbacks = effect.callbacks?.getD channel.callbacks := by
  cases about : effect.callbacks? with
  | none =>
      have same := apply_withCallbacks about channel channel.callbacks
      exact (congrArg Channel.callbacks same).trans rfl
  | some after =>
      cases effect with
      | callbacks =>
          cases about
          rfl
      | _ => cases about

end Effect

namespace Task

/-- Whether a task is about callbacks: it starts one, runs one, or writes into the record. -/
def isOfCallbacks : Task → Bool
  | .announceReady _ => true
  | .announceClose _ => true
  | .deliver _ _ _ _ => true
  | .callback _ => true
  | .report _ => true
  | _ => false

theorem callbacks?_effect {task : Task} (apart : task.isOfCallbacks = false) (channel : Channel) :
    (task.effect channel).callbacks? = none := by
  cases task with
  | announceReady => cases apart
  | announceClose => cases apart
  | deliver => cases apart
  | callback => cases apart
  | report => cases apart
  | send socket request =>
      cases socket with
      | none => rfl
      | some generation =>
          simp only [effect]
          split <;> rfl
  | receive generation notice =>
      cases notice with
      | closed closing =>
          simp only [effect]
          split <;> rfl
      | _ => rfl
  | route generation message => cases message <;> rfl
  | dispatch generation push =>
      simp only [effect]
      split <;> rfl
  | _ => rfl

end Task

end Intercom
