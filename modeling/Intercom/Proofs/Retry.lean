import Mathlib
import Intercom.Proofs.Accounts
import Intercom.Proofs.Link
import Intercom.Proofs.Origin

/-!
# Reconnection

A socket that closes by itself is to be replaced after a while, if the policy allows it. The link
knows of one alarm at most that is to bring this about. To connect and to disconnect take it away,
so that there is no reconnection while a socket is owned, and none after the client has
disconnected, as long as every socket closes once.

Results:
1. `Effect.spares_or`: what the link says about reconnections changes in four operations only.
2. `Run.tended`: a reconnection is to come only after the latest socket closed by itself.
3. `Moment.released_after`: a channel that was disconnected stays so until something connects it.
4. `link_upheld`: the invariant of the link, and what it means for a client that disconnects.
-/

namespace Intercom

/-! ## Definitions -/

namespace Channel

/-- The alarms of reconnections that have not gone off. -/
def retries (channel : Channel) : List Alarm :=
  channel.alarms.filter fun alarm => alarm.purpose = .reconnect

end Channel

/-- The socket whose close the moment takes in. -/
def Moment.closed? (moment : Moment) : Option Nat :=
  match moment.notice? with
  | some (generation, .closed _) => some generation
  | _ => none

/-- No socket closes more than once. -/
def ClosesOnce (past : List Moment) : Prop :=
  (past.filterMap Moment.closed?).Nodup

/-- What holds of the link of a channel at any time. -/
structure LinkUpheld (channel : Channel) : Prop where
  /-- An owned socket is the latest one. The client has not disconnected since, and no reconnection
  is to come. -/
  owned : ∀ generation, channel.link.socket = some generation →
    channel.link.generation = generation ∧ channel.link.manual = false ∧ channel.retries = []
  single : channel.retries.length ≤ 1
  /-- A reconnection that is to come can be called off. No socket is owned then, and the client has
  not disconnected. -/
  retrying : ∀ alarm ∈ channel.retries, channel.link.alarm = some alarm.ticket ∧
    channel.link.socket = none ∧ channel.link.manual = false ∧
    channel.settings.backoff.enabled = true
  /-- The sockets that were spawned have the generations 1, 2, 3, …, each of them once. -/
  numbered : channel.generations = List.range' 1 channel.link.generation
  waiting : ∀ waiting ∈ channel.pending, waiting.generation ≤ channel.link.generation
  greeted : channel.link.ready = true → channel.link.socket.isSome = true →
    channel.hello.isSome = true

/-- The client has disconnected, and nothing has connected the channel since. -/
structure Released (channel : Channel) : Prop where
  free : channel.link.socket = none
  manual : channel.link.manual = true

/-- If the client has disconnected and has not connected since, then no socket was spawned since,
the channel is disconnected and no reconnection is to come. -/
def StaysReleased (past : List Moment) (channel : Channel) : Prop :=
  ∀ earlier release later, past = earlier ++ release :: later →
    release.call? = some .disconnect → (∀ moment ∈ later, moment.call? ≠ some .connect) →
    channel.generations = release.scene.channel.generations ∧
      channel.status = .disconnected ∧ channel.retries = []

/-! ## Operations -/

/-- What the link says about reconnections. -/
structure Watch where
  socket : Option Nat
  generation : Nat
  manual : Bool
  alarm : Option Nat

def Link.watch (link : Link) : Watch :=
  ⟨link.socket, link.generation, link.manual, link.alarm⟩

/-- `Spares before after`: no reconnection is set on the way, and the link says the same. -/
structure Spares (before after : Channel) : Prop where
  settings : after.settings = before.settings
  watch : after.link.watch = before.link.watch
  retries : after.retries.Sublist before.retries

namespace Spares

variable {before after : Channel}

/-- A change to other fields alone spares the link. -/
theorem of_eq (settings : after.settings = before.settings)
    (watch : after.link.watch = before.link.watch) (alarms : after.alarms = before.alarms) :
    Spares before after := by
  refine ⟨settings, watch, ?_⟩
  unfold Channel.retries
  rw [alarms]

theorem refl (channel : Channel) : Spares channel channel :=
  .of_eq rfl rfl rfl

theorem trans {first second third : Channel} (one : Spares first second)
    (two : Spares second third) : Spares first third :=
  ⟨two.settings.trans one.settings, two.watch.trans one.watch, two.retries.trans one.retries⟩

theorem socket (spares : Spares before after) : after.link.socket = before.link.socket :=
  congrArg Watch.socket spares.watch

theorem generation (spares : Spares before after) :
    after.link.generation = before.link.generation :=
  congrArg Watch.generation spares.watch

theorem manual (spares : Spares before after) : after.link.manual = before.link.manual :=
  congrArg Watch.manual spares.watch

theorem alarm (spares : Spares before after) : after.link.alarm = before.link.alarm :=
  congrArg Watch.alarm spares.watch

end Spares

namespace Channel

theorem spares_cancelAlarm (channel : Channel) (ticket : Option Nat) :
    Spares channel (channel.cancelAlarm ticket) := by
  cases ticket with
  | none => exact .refl channel
  | some ticket => exact ⟨rfl, rfl, List.filter_sublist.filter _⟩

theorem spares_settle (channel : Channel) (id : RequestId) (outcome : Outcome) :
    Spares channel (channel.settle id outcome) := by
  unfold settle
  split
  · exact .refl channel
  · next waiting _ =>
      have removed : Spares channel
          { channel with pending := channel.pending.filter fun other => other.id != id } :=
        .of_eq rfl rfl rfl
      exact (removed.trans (spares_cancelAlarm _ waiting.alarm)).trans (.of_eq rfl rfl rfl)

theorem spares_settleEach (channel : Channel) (requests : List Waiting) (outcome : Outcome) :
    Spares channel (channel.settleEach requests outcome) := by
  induction requests generalizing channel with
  | nil => exact .refl channel
  | cons first rest ih => exact (channel.spares_settle first.id outcome).trans (ih _)

theorem spares_register (channel : Channel) (id : RequestId) (event : String) (generation : Nat)
    (timeout : Duration) : Spares channel (channel.register id event generation timeout) := by
  rw [register_eq]
  refine ⟨rfl, rfl, ?_⟩
  -- the alarm that is set is for the request
  simp [retries, setAlarm, enterWaiting]

/-- An alarm that is called off leaves those with other tickets. -/
theorem retries_cancelAlarm (channel : Channel) (ticket : Nat) :
    (channel.cancelAlarm (some ticket)).retries =
      channel.retries.filter fun alarm => alarm.ticket != ticket :=
  List.filter_comm _ _ _

/-- The channel with an alarm for its next attempt to connect. -/
def retryAt (channel : Channel) (due : Nat) (attempts : UInt32) : Channel :=
  { channel with
    nextTicket := channel.nextTicket + 1
    alarms := channel.alarms ++ [⟨channel.nextTicket, due, .reconnect⟩]
    link := { channel.link with attempts, alarm := some channel.nextTicket } }

/-- When the attempt to connect is due that a close brings about now. -/
def retryDue (channel : Channel) : Nat :=
  channel.now + (channel.settings.backoff.delayFor (channel.link.attempts + 1)
    (channel.draw channel.nextTicket)).millisecondsUp

/-- The channel without its socket, and with these handles. -/
def bereft (channel : Channel) (handles : List Handle) : Channel :=
  { channel with handles, link := { channel.link with socket := none, ready := false } }

/-- Of a socket that is lost, only the link and the socket's handle take note. -/
theorem loseSocket_frame (channel : Channel) :
    ∃ handles, channel.loseSocket = channel.bereft handles := by
  unfold loseSocket
  cases channel.link.socket <;> exact ⟨_, rfl⟩

/-- A socket that is lost leaves the rest of the link as it is. -/
theorem loseSocket_eq (channel : Channel) :
    channel.loseSocket.retries = channel.retries ∧
      channel.loseSocket.link = { channel.link with socket := none, ready := false } := by
  obtain ⟨handles, same⟩ := channel.loseSocket_frame
  rw [same]
  exact ⟨rfl, rfl⟩

/-- What the close of a socket does to the link: unless the client has disconnected or the policy
allows no further attempt, an alarm is set for one. -/
theorem closeLink?_eq (channel : Channel) :
    channel.closeLink? =
      if channel.link.manual then some channel.loseSocket
      else if channel.link.attempts.toNat + 1 < UInt32.size then
        if channel.settings.backoff.allows (channel.link.attempts + 1) then
          some (channel.loseSocket.retryAt channel.retryDue (channel.link.attempts + 1))
        else some channel.loseSocket
      else none := by
  unfold closeLink? scheduleReconnect? retryDue
  unfold loseSocket
  cases channel.link.socket <;> rfl

/-- After the close of a socket an alarm is set if the client has not disconnected and the policy
allows a further attempt, and if attempts can be counted. -/
theorem closeLink_getD (channel : Channel) :
    channel.closeLink?.getD channel.loseSocket =
      if channel.link.manual = false ∧ channel.link.attempts.toNat + 1 < UInt32.size ∧
          channel.settings.backoff.allows (channel.link.attempts + 1) = true then
        channel.loseSocket.retryAt channel.retryDue (channel.link.attempts + 1)
      else channel.loseSocket := by
  rw [closeLink?_eq]
  cases channel.link.manual with
  | true => simp
  | false =>
      by_cases counted : channel.link.attempts.toNat + 1 < UInt32.size
      · cases channel.settings.backoff.allows (channel.link.attempts + 1) <;> simp [counted]
      · simp [counted]

/-- After the close of a socket an alarm is set at most, and only if the client has not disconnected
and the policy is enabled. -/
theorem closeLink_cases (channel : Channel) :
    channel.closeLink?.getD channel.loseSocket = channel.loseSocket ∨
      channel.loseSocket.link.manual = false ∧
        channel.loseSocket.settings.backoff.enabled = true ∧
        ∃ due attempts,
          channel.closeLink?.getD channel.loseSocket = channel.loseSocket.retryAt due attempts := by
  rw [closeLink_getD]
  split
  · next wanted =>
      obtain ⟨released, _, allowed⟩ := wanted
      unfold Backoff.allows at allowed
      rw [Bool.and_eq_true] at allowed
      obtain ⟨handles, same⟩ := channel.loseSocket_frame
      rw [same]
      exact .inr ⟨released, allowed.1, _, _, rfl⟩
  · exact .inl rfl

theorem socket_closeLink (channel : Channel) :
    (channel.closeLink?.getD channel.loseSocket).link.socket = none := by
  obtain ⟨_, link⟩ := channel.loseSocket_eq
  rcases channel.closeLink_cases with same | ⟨_, _, due, attempts, same⟩
  · rw [same, link]
  · rw [same]
    exact congrArg Link.socket link

theorem retries_retryAt (channel : Channel) (due : Nat) (attempts : UInt32) :
    (channel.retryAt due attempts).retries =
      channel.retries ++ [⟨channel.nextTicket, due, .reconnect⟩] := by
  simp [retries, retryAt]

end Channel

namespace Effect

/-- What the link says about reconnections changes in four operations only. -/
theorem spares_or (effect : Effect) (channel : Channel) :
    Spares channel (effect.apply channel) ∨ effect = .openSocket ∨ effect = .releaseSocket ∨
      effect = .close ∨ effect = .retry := by
  cases effect with
  | openSocket => exact .inr (.inl rfl)
  | releaseSocket => exact .inr (.inr (.inl rfl))
  | close => exact .inr (.inr (.inr (.inl rfl)))
  | retry => exact .inr (.inr (.inr (.inr rfl)))
  | register event timeout =>
      have numbered : Spares channel { channel with ids := channel.ids.take.2 } :=
        .of_eq rfl rfl rfl
      exact .inl (numbered.trans (Channel.spares_register _ _ _ _ _))
  | settle id outcome => exact .inl (channel.spares_settle id outcome)
  | reject generation => exact .inl (channel.spares_settleEach _ _)
  | silence ticket => exact .inl (channel.spares_cancelAlarm (some ticket))
  | _ => exact .inl (.of_eq rfl rfl rfl)

end Effect

/-! ## Reconnections of a run -/

/-- The alarm is to connect the channel again, whose latest socket has closed by itself. -/
structure Awaited (past : List Moment) (channel : Channel) (alarm : Alarm) : Prop where
  known : channel.link.alarm = some alarm.ticket
  free : channel.link.socket = none
  wanted : channel.link.manual = false
  enabled : channel.settings.backoff.enabled = true
  closed : channel.link.generation ∈ past.filterMap Moment.closed?

/-- No reconnection is to come, or one that is awaited. -/
def Tended (past : List Moment) (channel : Channel) : Prop :=
  channel.retries = [] ∨ ∃ alarm, channel.retries = [alarm] ∧ Awaited past channel alarm

namespace Tended

variable {past : List Moment} {channel after : Channel}

theorem append (tended : Tended past channel) (moment : Moment) :
    Tended (past ++ [moment]) channel := by
  rcases tended with quiet | ⟨alarm, single, awaited⟩
  · exact .inl quiet
  · refine .inr ⟨alarm, single, { awaited with closed := ?_ }⟩
    rw [List.filterMap_append]
    exact List.mem_append_left _ awaited.closed

theorem spare (tended : Tended past channel) (spares : Spares channel after) :
    Tended past after := by
  rcases tended with quiet | ⟨alarm, single, awaited⟩
  · exact .inl (List.sublist_nil.mp (quiet ▸ spares.retries))
  · rcases List.sublist_singleton.mp (single ▸ spares.retries) with quiet | kept
    · exact .inl quiet
    · refine .inr ⟨alarm, kept, ?_⟩
      constructor
      · rw [spares.alarm, awaited.known]
      · rw [spares.socket, awaited.free]
      · rw [spares.manual, awaited.wanted]
      · rw [spares.settings, awaited.enabled]
      · rw [spares.generation]
        exact awaited.closed

/-- To take away the alarm that the link knows of is to take away every reconnection. -/
theorem retries_cancelReconnect (tended : Tended past channel) :
    channel.cancelReconnect.retries = [] := by
  show (channel.cancelAlarm channel.link.alarm).retries = []
  rcases tended with quiet | ⟨alarm, single, awaited⟩
  · have spares := channel.spares_cancelAlarm channel.link.alarm
    exact List.sublist_nil.mp (quiet ▸ spares.retries)
  · rw [awaited.known, Channel.retries_cancelAlarm, single]
    simp

theorem openSocket (tended : Tended past channel) : Tended past channel.openSocket := by
  unfold Channel.openSocket
  split
  · exact tended
  · exact .inl tended.retries_cancelReconnect

/-- The close of a socket that was not replaced brings a reconnection at most. -/
theorem close (quiet : channel.retries = [])
    (closed : channel.link.generation ∈ past.filterMap Moment.closed?) :
    Tended past (channel.closeLink?.getD channel.loseSocket) := by
  obtain ⟨kept, link⟩ := channel.loseSocket_eq
  rcases channel.closeLink_cases with same | ⟨wanted, enabled, due, attempts, same⟩
  · exact .inl (by rw [same, kept, quiet])
  · refine .inr ⟨⟨channel.loseSocket.nextTicket, due, .reconnect⟩, ?_, ?_⟩
    · rw [same, Channel.retries_retryAt, kept, quiet]
      rfl
    · rw [same]
      refine ⟨rfl, ?_, wanted, enabled, ?_⟩
      · show channel.loseSocket.link.socket = none
        rw [link]
      · show channel.loseSocket.link.generation ∈ _
        rw [link]
        exact closed

/-- A reconnection that goes off is the only one. -/
theorem retries_of_ring (tended : Tended past channel) {alarm : Alarm}
    (present : alarm ∈ channel.alarms) (purpose : alarm.purpose = .reconnect) :
    (channel.cancelAlarm (some alarm.ticket)).retries = [] := by
  have found : alarm ∈ channel.retries := by
    simpa [Channel.retries, purpose] using present
  rcases tended with quiet | ⟨other, single, _⟩
  · rw [quiet] at found
    cases found
  · rw [single, List.mem_singleton] at found
    subst found
    rw [Channel.retries_cancelAlarm, single]
    simp

/-- While a socket is owned, or if the latest one has not closed, no reconnection is to come. -/
theorem quiet_of_unclosed (tended : Tended past channel)
    (unclosed : channel.link.generation ∉ past.filterMap Moment.closed?) :
    channel.retries = [] := by
  rcases tended with quiet | ⟨_, _, awaited⟩
  · exact quiet
  · exact absurd awaited.closed unclosed

end Tended

namespace Moment

theorem spares_found (moment : Moment) : Spares moment.scene.channel moment.found := by
  obtain ⟨_, found⟩ := moment.found_frame
  rw [found]
  exact .of_eq rfl rfl rfl

theorem closed?_eq_some {moment : Moment} {generation : Nat} :
    moment.closed? = some generation ↔
      ∃ closing, moment.notice? = some (generation, .closed closing) := by
  unfold closed?
  constructor
  · intro closes
    split at closes
    · next closing taken =>
        cases closes
        exact ⟨closing, taken⟩
    · cases closes
  · rintro ⟨closing, taken⟩
    rw [taken]

end Moment

namespace ClosesOnce

variable {past : List Moment} {moment : Moment}

theorem past_of_append {later : List Moment} (once : ClosesOnce (past ++ later)) :
    ClosesOnce past := by
  unfold ClosesOnce at once
  rw [List.filterMap_append] at once
  exact once.of_append_left

/-- A socket that closes now has not closed before. -/
theorem unclosed (once : ClosesOnce (past ++ [moment])) {generation : Nat}
    (closes : moment.closed? = some generation) : generation ∉ past.filterMap Moment.closed? := by
  unfold ClosesOnce at once
  rw [List.filterMap_append, List.nodup_append] at once
  intro present
  exact once.2.2 generation present generation (by simp [closes]) rfl

end ClosesOnce

namespace Run

variable {settings : Settings} {draw : Nat → Nat} {past : List Moment} {scene : Scene}

/-- If sockets close once, a reconnection is to come only after the latest socket has closed by
itself. None is to come while the one that went off last is looked at. -/
theorem tended (run : Run (.start settings draw) past scene) (once : ClosesOnce past) :
    Tended past scene.channel ∧
      ∀ rest, scene.agenda = .reconnect :: rest → scene.channel.retries = [] := by
  induction run with
  | start => exact ⟨.inl rfl, fun _ next => nomatch next⟩
  | @step past scene event run allowed ih =>
      obtain ⟨tended, looking⟩ := ih once.past_of_append
      have after := Moment.after_eq ⟨scene, event⟩
      have found := Moment.spares_found ⟨scene, event⟩
      have cause := Moment.cause ⟨scene, event⟩
      constructor
      · show Tended _ (Moment.after ⟨scene, event⟩).channel
        have before := (tended.spare found).append ⟨scene, event⟩
        rw [after]
        generalize Moment.effect ⟨scene, event⟩ = effect at cause
        rcases effect.spares_or (Moment.found ⟨scene, event⟩) with spares | rfl | rfl | rfl | rfl
        · exact before.spare spares
        · exact before.openSocket
        · exact .inl before.retries_cancelReconnect
        · cases cause with
          | close taken =>
              have closes := Moment.closed?_eq_some.mpr ⟨_, taken⟩
              have quiet := tended.quiet_of_unclosed (once.unclosed closes)
              refine .close (List.sublist_nil.mp (quiet ▸ found.retries)) ?_
              simp [found.generation, closes]
        · -- the alarm that went off was the only one
          cases cause with
          | retry carried =>
              obtain ⟨_, _, rest, agenda⟩ := Moment.work_of_task carried
              exact .inl (List.sublist_nil.mp (looking rest agenda ▸ found.retries))
      · intro rest next
        obtain ⟨earlier, ring, same, reached, arrived, origin⟩ :=
          (run.step allowed).origin rfl next rfl
        obtain ⟨rfl, single⟩ := List.append_inj' same rfl
        cases single
        cases origin with
        | @reconnect alarm rang purpose =>
            cases rang
            simp only [Scene.allows, Bool.and_eq_true, decide_eq_true_eq] at allowed
            exact tended.retries_of_ring allowed.1.2 purpose

end Run

/-! ## Owned, waiting, greeted -/

namespace Course

variable {settings : Settings} {draw : Nat → Nat} {past : List Moment} {channel : Channel}

/-- The client has not disconnected since an owned socket was spawned. -/
theorem wanted (course : Course (Scene.start settings draw).channel past channel)
    (owned : channel.link.socket.isSome = true) : channel.link.manual = false := by
  induction course with
  | start => rfl
  | @step past moment _ _ ih =>
      have found := moment.spares_found
      rw [moment.after_eq] at owned ⊢
      have before (same : moment.found.link.socket.isSome = true) :
          moment.found.link.manual = false := by
        rw [found.manual]
        exact ih (found.socket ▸ same)
      generalize moment.effect = effect at owned
      rcases effect.spares_or moment.found with spares | rfl | rfl | rfl | rfl
      · rw [spares.manual]
        exact before (spares.socket ▸ owned)
      · unfold Effect.apply Channel.openSocket at owned ⊢
        dsimp only at owned ⊢
        split
        · next held => exact before held
        · rfl
      · cases owned
      · rw [Effect.apply, Channel.socket_closeLink] at owned
        cases owned
      · exact before owned

/-- A channel that is ready has been greeted. -/
theorem greeted (course : Course (Scene.start settings draw).channel past channel)
    (ready : channel.link.ready = true) : channel.hello.isSome = true := by
  induction course with
  | start => cases ready
  | @step past moment _ _ ih =>
      have after := moment.core_after
      have flag := (congrArg Core.ready after).symm.trans ready
      have payload := congrArg Core.hello after
      change moment.after.channel.hello = _ at payload
      rw [payload]
      cases moves : moment.move with
      | spawn | disconnect | lose =>
          rw [moves] at flag
          cases flag
      | greet push =>
          simp [Move.apply, Push.hello?, (Moment.greet_iff.mp moves).2]
      | keep =>
          rw [moves] at flag
          exact ih flag

/-- No request waits on a generation that is still to come. -/
theorem waiting_le (course : Course (Scene.start settings draw).channel past channel) :
    ∀ waiting ∈ channel.pending, waiting.generation ≤ channel.link.generation := by
  induction course with
  | start => exact fun _ absent => absurd absent List.not_mem_nil
  | @step past moment _ _ ih =>
      have grown := moment.generation_le
      intro waiting present
      cases issued : moment.issue? with
      | some issue =>
          obtain ⟨event, data, timeout, calls, _⟩ := AccountsLemmas.call_of_issue issued
          rw [Moment.registers calls] at present
          rcases Channel.mem_register _ _ _ _ _ present with
            ⟨_, number⟩ | ⟨before, old, _, number⟩
          · exact number ▸ grown
          · exact Nat.le_trans (number ▸ ih before old) grown
      | none =>
          refine Nat.le_trans (ih waiting ?_) grown
          cases acts : moment.trigger? with
          | some trigger =>
              rw [Moment.triggers acts] at present
              exact (trigger.mem_apply _).1 waiting present
          | none => exact (Moment.keeps issued acts).pending ▸ present

end Course

/-! ## After the client has disconnected -/

namespace Move

theorem births_of_ne {move : Move} (stays : move ≠ .spawn) (core : Core) :
    move.births core = [] := by
  cases move with
  | spawn => exact absurd rfl stays
  | _ => rfl

end Move

namespace Moment

variable {moment : Moment}

/-- A reconnection goes on to connect only if it is still wanted. -/
theorem wanted_of_leads (leads : Task.connect ∈ moment.leads) :
    moment.task? = some .reconnect ∧ moment.scene.channel.link.manual = false := by
  cases Moment.origin (head_of_leads leads rfl) rfl with
  | connect carried =>
      refine ⟨carried, ?_⟩
      rw [leads_of_task carried] at leads
      cases manual : moment.scene.channel.link.manual with
      | false => rfl
      | true => simp [Task.run, Channel.checkReconnect, manual] at leads

/-- A call does not lead to an attempt to connect. -/
theorem connect_not_mem_leads {call : Call} (allowed : moment.scene.allows moment.event = true)
    (calls : moment.call? = some call) : Task.connect ∉ moment.leads := by
  intro leads
  have free := free_of_call allowed calls
  obtain ⟨_, _, rest, agenda⟩ := work_of_task (wanted_of_leads leads).1
  simp [Scene.free, agenda, Task.isCallback] at free

/-- To disconnect lets go of the socket and takes the reconnection away. -/
theorem after_disconnect (calls : moment.call? = some .disconnect) :
    moment.after.channel = moment.scene.channel.releaseSocket.2 := by
  obtain ⟨own, releases⟩ := effect_of_call calls
  rw [after_eq, releases, found_eq]
  · rfl
  · rw [releases]
    exact Effect.noConfusion
  · rw [releases]
    exact Effect.noConfusion

/-- To connect changes nothing while a socket is owned. -/
theorem after_connect (calls : moment.call? = some .connect)
    (owned : moment.scene.channel.link.socket.isSome = true) :
    moment.after.channel = moment.scene.channel := by
  obtain ⟨own, opens⟩ := effect_of_call calls
  rw [after_eq, opens, found_eq]
  · exact if_pos owned
  · rw [opens]
    exact Effect.noConfusion
  · rw [opens]
    exact Effect.noConfusion

/-- A channel that was disconnected stays so unless something connects it, and nothing goes on to do
that. -/
theorem released_after (released : Released moment.scene.channel)
    (silent : moment.call? ≠ some .connect) (idle : moment.task? ≠ some .connect) :
    Released moment.after.channel ∧ moment.move ≠ .spawn ∧ Task.connect ∉ moment.leads ∧
      (moment.scene.channel.retries = [] → moment.after.channel.retries = []) := by
  have found := moment.spares_found
  have before : Released moment.found :=
    ⟨found.socket.trans released.free, found.manual.trans released.manual⟩
  have quiet (none : moment.scene.channel.retries = []) : moment.found.retries = [] :=
    List.sublist_nil.mp (none ▸ found.retries)
  have stops : Task.connect ∉ moment.leads := by
    intro leads
    cases (wanted_of_leads leads).2.symm.trans released.manual
  have cause := moment.cause
  rw [after_eq, move]
  generalize moment.effect = effect at cause
  rcases effect.spares_or moment.found with spares | rfl | rfl | rfl | rfl
  · refine ⟨⟨spares.socket.trans before.free, spares.manual.trans before.manual⟩, ?_, stops,
      fun none => List.sublist_nil.mp (quiet none ▸ spares.retries)⟩
    cases cause with
    | connect calls => exact absurd calls silent
    | reconnect carried => exact absurd carried idle
    | _ => exact Move.noConfusion
  · cases cause with
    | connect calls => exact absurd calls silent
    | reconnect carried => exact absurd carried idle
  · refine ⟨⟨rfl, rfl⟩, Move.noConfusion, stops, fun none => ?_⟩
    have spares := moment.found.spares_cancelAlarm moment.found.link.alarm
    exact List.sublist_nil.mp (quiet none ▸ spares.retries)
  · obtain ⟨kept, link⟩ := moment.found.loseSocket_eq
    rcases moment.found.closeLink_cases with same | ⟨wanted, _⟩
    · rw [Effect.apply, same]
      refine ⟨⟨by rw [link], by rw [link]; exact before.manual⟩, Move.noConfusion, stops, ?_⟩
      exact fun none => kept.trans (quiet none)
    · rw [link] at wanted
      cases before.manual.symm.trans wanted
  · exact ⟨⟨before.free, before.manual⟩, Move.noConfusion, stops, quiet⟩

end Moment

namespace Run

variable {settings : Settings} {draw : Nat → Nat} {past earlier later : List Moment} {scene : Scene}
  {moment release : Moment}

/-- An attempt to connect that is at hand was led to by the last moment. -/
theorem leads_of_connect (run : Run (.start settings draw) past moment.scene)
    (allowed : moment.scene.allows moment.event = true)
    (present : Task.connect ∈ moment.after.agenda) : Task.connect ∈ moment.leads := by
  rcases List.mem_append.mp present with leads | left
  · exact leads
  · cases Run.rest_calm (run.tail_calm rfl) allowed left

/-- Until the client connects again, a channel that was disconnected owns no socket and spawns none,
and no reconnection is to come. -/
theorem released (run : Run (.start settings draw) (earlier ++ release :: later) scene)
    (once : ClosesOnce (earlier ++ release :: later)) (calls : release.call? = some .disconnect)
    (silent : ∀ moment ∈ later, moment.call? ≠ some .connect) :
    Released scene.channel ∧ scene.channel.retries = [] ∧ Task.connect ∉ scene.agenda ∧
      scene.channel.generations = release.scene.channel.generations := by
  induction later using List.reverseRecOn generalizing scene with
  | nil =>
      obtain ⟨reached, allowed, after⟩ := run.last
      have tended := (reached.tended once.past_of_append).1
      rw [after, Moment.after_disconnect calls]
      refine ⟨⟨rfl, rfl⟩, tended.retries_cancelReconnect, ?_, ?_⟩
      · intro present
        exact Moment.connect_not_mem_leads allowed calls (reached.leads_of_connect allowed present)
      · exact (release.scene.channel.moves_releaseSocket.born).trans (List.append_nil _)
  | append_singleton later final ih =>
      rw [← List.cons_append, ← List.append_assoc] at run once
      obtain ⟨released, quiet, idle, same⟩ := ih run.last.1 once.past_of_append
        fun moment old => silent moment (List.mem_append_left _ old)
      obtain ⟨reached, allowed, after⟩ := run.last
      obtain ⟨stays, keeps, stops, none⟩ := Moment.released_after released
        (silent final (by simp)) fun carried => idle (Moment.mem_of_task carried)
      rw [after]
      refine ⟨stays, none quiet, fun present => ?_, ?_⟩
      · exact stops (reached.leads_of_connect allowed present)
      · rw [final.moves_after.2, Move.births_of_ne keeps, List.append_nil, same]

end Run

/-! ## The invariant of the link -/

/-- In every run in which sockets close once, the invariant of the link holds. After the client has
disconnected no socket is spawned, the channel stays disconnected and no reconnection is to come,
until the client connects again. To connect changes nothing while a socket is owned. -/
theorem link_upheld {settings : Settings} {draw : Nat → Nat} {past : List Moment} {scene : Scene}
    (run : Run (.start settings draw) past scene) (once : ClosesOnce past) :
    LinkUpheld scene.channel ∧
      StaysReleased past scene.channel ∧
      ∀ moment ∈ past, moment.call? = some .connect →
        moment.scene.channel.link.socket.isSome = true →
        moment.after.channel = moment.scene.channel := by
  have tended := (run.tended once).1
  refine ⟨?_, ?_, fun moment _ => Moment.after_connect⟩
  · constructor
    · intro generation owned
      have held : scene.channel.link.socket.isSome = true := by rw [owned]; rfl
      refine ⟨run.course.latest owned, run.course.wanted held, ?_⟩
      rcases tended with quiet | ⟨_, _, awaited⟩
      · exact quiet
      · cases awaited.free.symm.trans owned
    · rcases tended with quiet | ⟨alarm, single, _⟩
      · simp [quiet]
      · simp [single]
    · intro alarm present
      rcases tended with quiet | ⟨other, single, awaited⟩
      · rw [quiet] at present
        cases present
      · rw [single, List.mem_singleton] at present
        subst present
        exact ⟨awaited.known, awaited.free, awaited.wanted, awaited.enabled⟩
    · exact run.course.generations
    · exact run.course.waiting_le
    · exact fun ready _ => run.course.greeted ready
  · rintro earlier release later rfl calls silent
    obtain ⟨released, quiet, _, same⟩ := run.released once calls silent
    exact ⟨same, by rw [Channel.status, released.free], quiet⟩

/-- The settings of a channel that connects again 100 milliseconds after its socket closed. -/
def persistent : Settings :=
  { (default : Settings) with
    backoff := .withJitter (.exponential (.ofMilliseconds 100) (.ofMilliseconds 100)) false }

/-- A socket closes and is replaced when the alarm goes off. The client disconnects, and the second
socket closes after that. -/
def replacedByAlarm : List Event :=
  [.call none .connect, .socket 1 (.closed (.abnormal "stream ended")), .work, .work, .wait 100,
    .alarm ⟨1, 100, .reconnect⟩, .work, .work, .call none .disconnect, .work,
    .socket 2 (.closed (.abnormal "closed before open")), .work, .work]

theorem link_upheld_replacedByAlarm : ∃ past scene,
    (Scene.start persistent fun _ => 0).play [] replacedByAlarm = some (past, scene) ∧
      ClosesOnce past ∧ scene.channel.generations = [1, 2] ∧
      LinkUpheld scene.channel ∧ StaysReleased past scene.channel ∧
      ∀ moment ∈ past, moment.call? = some .connect →
        moment.scene.channel.link.socket.isSome = true →
        moment.after.channel = moment.scene.channel := by
  have seen : (((Scene.start persistent fun _ => 0).play [] replacedByAlarm).map fun played =>
      (played.1.filterMap Moment.closed?, played.2.channel.generations)) =
        some ([1, 2], [1, 2]) := by
    cbv
  obtain ⟨⟨past, scene⟩, played, views⟩ := Option.map_eq_some_iff.mp seen
  obtain ⟨closes, sockets⟩ := Prod.mk.inj views
  have once : ClosesOnce past := by
    rw [ClosesOnce, closes]
    decide
  exact ⟨past, scene, played, once, sockets, link_upheld (Scene.run_of_play .start played) once⟩

end Intercom
