import Intercom.Proofs.Routing
import Intercom.Proofs.Sweep

/-!
# What a rejection takes along

When a socket has closed, the requests that were made on its generation or before are settled one
after the other. Each of them takes its alarm along. Alarms are told apart by their tickets, so that
no alarm of a reconnection goes with them.

Results:
1. `Course.ticketed`: an alarm that a waiting request knows of is its own, on every course.
2. `Ticketed.rejection`: requests, futures and alarms of requests are all that a rejection changes.
3. `Paired.exactRejection`: as long as identifiers are not given anew, it ends exactly the requests
   up to the generation, with their alarms.
-/

namespace Intercom

/-! ## Definitions -/

/-- Waiting requests know their alarms by tickets that no later alarm has. -/
structure Ticketed (channel : Channel) : Prop where
  known : ∀ alarm ∈ channel.alarms, alarm.ticket < channel.nextTicket
  issued : ∀ waiting ∈ channel.pending, ∀ ticket, waiting.alarm = some ticket →
    ticket < channel.nextTicket
  own : ∀ waiting ∈ channel.pending, ∀ alarm ∈ channel.alarms,
    waiting.alarm = some alarm.ticket → alarm.request? = some waiting.id

/-- The requests that wait on a generation or an earlier one. -/
def Channel.waitingThrough (channel : Channel) (generation : Nat) : List Waiting :=
  channel.pending.filter fun waiting => waiting.generation ≤ generation

/-- The future after all requests of a list were settled: one of theirs that was unresolved has the
outcome, and every other future stays as it is. -/
def Future.endWith (requests : List Waiting) (outcome : Outcome) (future : Future) : Future :=
  if (requests.any fun waiting => waiting.id = future.id) && future.outcome.isNone then
    { future with outcome := some outcome }
  else future

/-- `Rejection generation before after`: the requests up to the generation were taken out and their
futures ended. Nothing else changes but alarms, and no alarm of a reconnection. -/
structure Rejection (generation : Nat) (before after : Channel) : Prop where
  frame : ∃ pending futures alarms, after = { before with pending, futures, alarms }
  left : ∀ waiting ∈ after.pending, waiting ∈ before.pending ∧ generation < waiting.generation
  futures : after.futures = before.futures.map
    (Future.endWith (before.waitingThrough generation) (.error .connectionClosed))
  retries : after.retries = before.retries

/-- `ExactRejection generation before after`: the requests up to the generation have ended, with
their alarms, and each other request waits on with its own. -/
structure ExactRejection (generation : Nat) (before after : Channel) : Prop where
  pending : after.pending = before.pending.filter fun waiting => generation < waiting.generation
  resolved : ∀ waiting ∈ before.waitingThrough generation,
    after.Resolved waiting.id (.error .connectionClosed) ∧ after.alarmsOf waiting.id = []
  spared : ∀ id, (∀ waiting ∈ before.waitingThrough generation, waiting.id ≠ id) →
    after.fate? id = before.fate? id ∧ after.alarmsOf id = before.alarmsOf id

/-! ## Tickets -/

namespace Ticketed

variable {channel after : Channel}

/-- Requests and alarms may be taken away, and tickets be used up. -/
theorem restrict (ticketed : Ticketed channel)
    (alarms : ∀ alarm ∈ after.alarms, alarm ∈ channel.alarms)
    (pending : ∀ waiting ∈ after.pending, waiting ∈ channel.pending)
    (next : channel.nextTicket ≤ after.nextTicket) : Ticketed after where
  known := fun alarm present =>
    Nat.lt_of_lt_of_le (ticketed.known alarm (alarms alarm present)) next
  issued := fun waiting present ticket knows =>
    Nat.lt_of_lt_of_le (ticketed.issued waiting (pending waiting present) ticket knows) next
  own := fun waiting waits alarm present =>
    ticketed.own waiting (pending waiting waits) alarm (alarms alarm present)

theorem of_eq (ticketed : Ticketed channel) (alarms : after.alarms = channel.alarms)
    (pending : after.pending = channel.pending) (next : channel.nextTicket ≤ after.nextTicket) :
    Ticketed after :=
  ticketed.restrict (fun _ present => alarms ▸ present) (fun _ present => pending ▸ present) next

theorem cancelAlarm (ticketed : Ticketed channel) (ticket : Option Nat) :
    Ticketed (channel.cancelAlarm ticket) := by
  cases ticket with
  | none => exact ticketed
  | some ticket =>
      exact ticketed.restrict (fun _ present => (List.mem_filter.mp present).1)
        (fun _ present => present) (Nat.le_refl _)

theorem cancelReconnect (ticketed : Ticketed channel) : Ticketed channel.cancelReconnect :=
  (ticketed.cancelAlarm channel.link.alarm).of_eq rfl rfl (Nat.le_refl _)

theorem openSocket (ticketed : Ticketed channel) : Ticketed channel.openSocket := by
  unfold Channel.openSocket
  split
  · exact ticketed
  · exact ticketed.cancelReconnect.of_eq rfl rfl (Nat.le_succ _)

theorem releaseSocket (ticketed : Ticketed channel) : Ticketed channel.releaseSocket.2 :=
  ticketed.cancelReconnect.of_eq rfl rfl (Nat.le_refl _)

theorem settle (ticketed : Ticketed channel) (id : RequestId) (outcome : Outcome) :
    Ticketed (channel.settle id outcome) := by
  refine ticketed.restrict (fun _ present => Channel.alarms_settle present) ?_ ?_
  · intro waiting present
    rw [Channel.pending_settle] at present
    exact (List.mem_filter.mp present).1
  · cases waits : channel.isPending id with
    | false => rw [Channel.settle_of_absent waits]
    | true =>
        obtain ⟨_, _, same⟩ := Channel.settle_eq waits outcome
        rw [same]

theorem settleEach (ticketed : Ticketed channel) (requests : List Waiting) (outcome : Outcome) :
    Ticketed (channel.settleEach requests outcome) := by
  induction requests generalizing channel with
  | nil => exact ticketed
  | cons first rest ih => exact ih (ticketed.settle first.id outcome)

/-- Every request of an identifier is given the alarm that is set for the newest. -/
theorem register (ticketed : Ticketed channel) (id : RequestId) (event : String)
    (generation : Nat) (timeout : Duration) :
    Ticketed (channel.register id event generation timeout) := by
  rw [Channel.register_eq]
  have entered : ∀ waiting ∈ (channel.enterWaiting id event generation).pending,
      waiting.id ≠ id → waiting ∈ channel.pending := by
    intro waiting present other
    rcases List.mem_append.mp present with old | new
    · exact old
    · rw [List.mem_singleton.mp new] at other
      exact absurd rfl other
  constructor
  · intro alarm present
    rcases List.mem_append.mp present with old | new
    · exact Nat.lt_succ_of_lt (ticketed.known alarm old)
    · rw [List.mem_singleton.mp new]
      exact Nat.lt_succ_self _
  · intro waiting present ticket knows
    obtain ⟨before, among, rfl⟩ := List.mem_map.mp present
    split at knows
    · cases knows
      exact Nat.lt_succ_self _
    · next other =>
        exact Nat.lt_succ_of_lt (ticketed.issued before (entered before among other) ticket knows)
  · intro waiting present alarm alive knows
    obtain ⟨before, among, rfl⟩ := List.mem_map.mp present
    rcases List.mem_append.mp alive with old | new
    · split at knows
      · -- an alarm that was set before has an earlier ticket
        exact absurd (Option.some.inj knows).symm (Nat.ne_of_lt (ticketed.known alarm old))
      · next other =>
          rw [if_neg other]
          exact ticketed.own before (entered before among other) alarm old knows
    · rw [List.mem_singleton.mp new] at knows ⊢
      split at knows
      · next same =>
          rw [if_pos same]
          exact congrArg some same.symm
      · next other =>
          have earlier := ticketed.issued before (entered before among other) _ knows
          exact absurd earlier (Nat.lt_irrefl _)

theorem retryAt (ticketed : Ticketed channel) (due : Nat) (attempts : UInt32) :
    Ticketed (channel.retryAt due attempts) where
  known := by
    intro alarm present
    rcases List.mem_append.mp present with old | new
    · exact Nat.lt_succ_of_lt (ticketed.known alarm old)
    · rw [List.mem_singleton.mp new]
      exact Nat.lt_succ_self _
  issued := fun waiting present ticket knows =>
    Nat.lt_succ_of_lt (ticketed.issued waiting present ticket knows)
  own := by
    intro waiting present alarm alive knows
    rcases List.mem_append.mp alive with old | new
    · exact ticketed.own waiting present alarm old knows
    · rw [List.mem_singleton.mp new] at knows
      exact absurd (ticketed.issued waiting present _ knows) (Nat.lt_irrefl _)

theorem close (ticketed : Ticketed channel) :
    Ticketed (channel.closeLink?.getD channel.loseSocket) := by
  have lost : Ticketed channel.loseSocket := by
    unfold Channel.loseSocket
    cases channel.link.socket <;> exact ticketed.of_eq rfl rfl (Nat.le_refl _)
  rcases channel.closeLink_cases with same | ⟨_, _, due, attempts, same⟩
  · rw [same]
    exact lost
  · rw [same]
    exact lost.retryAt due attempts

theorem apply (ticketed : Ticketed channel) (effect : Effect) :
    Ticketed (effect.apply channel) := by
  cases effect with
  | openSocket => exact ticketed.openSocket
  | releaseSocket => exact ticketed.releaseSocket
  | register event timeout =>
      have numbered : Ticketed { channel with ids := channel.ids.take.2 } :=
        ticketed.of_eq rfl rfl (Nat.le_refl _)
      exact numbered.register _ _ _ _
  | settle id outcome => exact ticketed.settle id outcome
  | reject generation => exact ticketed.settleEach _ _
  | close => exact ticketed.close
  | silence ticket => exact ticketed.cancelAlarm (some ticket)
  | _ => exact ticketed.of_eq rfl rfl (Nat.le_refl _)

end Ticketed

/-- On every course, an alarm that a waiting request knows of is its own. -/
theorem Course.ticketed {settings : Settings} {draw : Nat → Nat} {past : List Moment}
    {channel : Channel} (course : Course (Scene.start settings draw).channel past channel) :
    Ticketed channel := by
  refine (course.preserves Ticketed (fun moment ticketed => ?_) ⟨nofun, nofun, nofun⟩).1
  have found : Ticketed moment.found := by
    unfold Moment.found
    split
    · next notice _ => cases notice <;> exact ticketed.of_eq rfl rfl (Nat.le_refl _)
    · exact ticketed
  rw [moment.after_eq]
  exact found.apply moment.effect

/-! ## Requests that are settled one after the other -/

/-- An unresolved future of a request in the list has the outcome. -/
theorem Future.endWith_of_mem {requests : List Waiting} {waiting : Waiting} {future : Future}
    (present : waiting ∈ requests) (same : future.id = waiting.id)
    (unresolved : future.outcome = none) (outcome : Outcome) :
    future.endWith requests outcome = { future with outcome := some outcome } := by
  have meant : (requests.any fun other => other.id = future.id) = true :=
    List.any_eq_true.mpr ⟨waiting, present, by simp [same]⟩
  rw [endWith, meant, unresolved]
  rfl

namespace Channel

variable {channel : Channel}

theorem futures_settle (channel : Channel) (id : RequestId) (outcome : Outcome) :
    (channel.settle id outcome).futures = channel.futures.map fun future =>
      if channel.isPending id && future.id = id && future.outcome.isNone then
        { future with outcome := some outcome }
      else future := by
  cases waits : channel.isPending id with
  | false =>
      rw [settle_of_absent waits]
      simp
  | true =>
      obtain ⟨_, _, same⟩ := settle_eq waits outcome
      rw [same]
      simp

theorem futures_settleEach (channel : Channel) (requests : List Waiting) (outcome : Outcome) :
    (channel.settleEach requests outcome).futures = channel.futures.map fun future =>
      if channel.isPending future.id then future.endWith requests outcome else future := by
  induction requests generalizing channel with
  | nil => simp [settleEach, Future.endWith]
  | cons first rest ih =>
      show ((channel.settle first.id outcome).settleEach rest outcome).futures = _
      rw [ih, futures_settle, List.map_map]
      refine List.map_congr_left fun future _ => ?_
      simp only [Function.comp_apply, isPending_settle, Future.endWith, List.any_cons]
      by_cases same : future.id = first.id
      · -- resolved together with the first, and so out of reach for the rest
        cases waits : channel.isPending first.id <;> cases known : future.outcome <;>
          simp [same, waits]
      · simp [same, Ne.symm same]

/-- Requests, futures and alarms are all that a settlement changes. -/
theorem settle_frame (channel : Channel) (id : RequestId) (outcome : Outcome) :
    ∃ pending futures alarms,
      channel.settle id outcome = { channel with pending, futures, alarms } := by
  cases waits : channel.isPending id with
  | false => exact ⟨_, _, _, settle_of_absent waits outcome⟩
  | true =>
      obtain ⟨_, _, settled⟩ := settle_eq waits outcome
      exact ⟨_, _, _, settled⟩

theorem settleEach_frame (channel : Channel) (requests : List Waiting) (outcome : Outcome) :
    ∃ pending futures alarms,
      channel.settleEach requests outcome = { channel with pending, futures, alarms } := by
  induction requests generalizing channel with
  | nil => exact ⟨_, _, _, rfl⟩
  | cons first rest ih =>
      obtain ⟨_, _, _, settled⟩ := channel.settle_frame first.id outcome
      obtain ⟨pending, futures, alarms, same⟩ := ih (channel.settle first.id outcome)
      refine ⟨pending, futures, alarms, same.trans ?_⟩
      rw [settled]

end Channel

namespace Ticketed

variable {channel : Channel}

/-- Of the alarms, a settlement takes one of its own request at most. -/
theorem filter_alarms_settle (ticketed : Ticketed channel) {id : RequestId} {keep : Alarm → Bool}
    (others : ∀ alarm, keep alarm = true → alarm.request? ≠ some id) (outcome : Outcome) :
    (channel.settle id outcome).alarms.filter keep = channel.alarms.filter keep := by
  unfold Channel.settle
  split
  · rfl
  · next waiting found =>
      have waits := List.mem_of_find?_eq_some found
      have named : waiting.id = id := by simpa using List.find?_some found
      show (Channel.cancelAlarm _ waiting.alarm).alarms.filter keep = _
      cases knows : waiting.alarm with
      | none => rfl
      | some ticket =>
          refine List.filter_filter.trans (List.filter_congr fun alarm alive => ?_)
          cases kept : keep alarm with
          | false => rfl
          | true =>
              rw [Bool.true_and, bne_iff_ne]
              rintro rfl
              exact others alarm kept (named ▸ ticketed.own waiting waits alarm alive knows)

/-- The alarm of a request that is settled is none of a reconnection. -/
theorem retries_settle (ticketed : Ticketed channel) (id : RequestId) (outcome : Outcome) :
    (channel.settle id outcome).retries = channel.retries := by
  refine ticketed.filter_alarms_settle (fun alarm reconnects => ?_) outcome
  simp only [decide_eq_true_eq] at reconnects
  simp [Alarm.request?, reconnects]

theorem retries_settleEach (ticketed : Ticketed channel) (requests : List Waiting)
    (outcome : Outcome) : (channel.settleEach requests outcome).retries = channel.retries := by
  induction requests generalizing channel with
  | nil => rfl
  | cons first rest ih =>
      exact (ih (ticketed.settle first.id outcome)).trans (ticketed.retries_settle first.id outcome)

/-! ## Rejections -/

/-- Requests, futures and alarms of requests are all that a rejection changes. -/
theorem rejection (ticketed : Ticketed channel) (generation : Nat) :
    Rejection generation channel (channel.rejectThrough generation) where
  frame := channel.settleEach_frame _ _
  left := by
    intro waiting present
    refine ⟨?_, Channel.lt_of_mem_rejectThrough present⟩
    rw [Channel.rejectThrough_eq, Channel.pending_settleEach] at present
    exact (List.mem_filter.mp present).1
  futures := by
    rw [Channel.rejectThrough_eq, Channel.futures_settleEach]
    refine List.map_congr_left fun future _ => ?_
    split
    · rfl
    · next absent =>
        -- none of the requests that wait is meant
        have others : ((channel.waitingThrough generation).any fun waiting =>
            waiting.id = future.id) = false := by
          refine List.any_eq_false.mpr fun waiting stale same => absent ?_
          exact Channel.isPending_iff.mpr
            ⟨waiting, (List.mem_filter.mp stale).1, of_decide_eq_true same⟩
        rw [Future.endWith, others]
        rfl
  retries := ticketed.retries_settleEach _ _

end Ticketed

namespace Paired

variable {past : List Moment} {channel : Channel}

/-- As long as identifiers are not given anew, a rejection ends exactly the requests up to the
generation. -/
theorem exactRejection (paired : Paired past channel) (accounts : Accounts past channel)
    (generation : Nat) :
    ExactRejection generation channel (channel.rejectThrough generation) := by
  have before := paired.onTime
  have after : OnTime past (channel.rejectThrough generation) :=
    (paired.settleEach _ _).onTime
  have waits (id : RequestId) : (channel.rejectThrough generation).isPending id =
      (channel.isPending id &&
        (channel.waitingThrough generation).all fun waiting => waiting.id != id) :=
    channel.isPending_settleEach _ _ id
  have fate (id : RequestId) : (channel.rejectThrough generation).fate? id =
      if channel.isPending id = true ∧ ∃ waiting ∈ channel.waitingThrough generation,
          waiting.id = id then
        (channel.fate? id).map fun known => some (known.getD (.error .connectionClosed))
      else channel.fate? id :=
    channel.fate?_settleEach _ _ id
  constructor
  · refine Channel.pending_rejectThrough fun one first two second same => ?_
    rw [List.inj_on_of_nodup_map paired.single first second same]
  · intro waiting stale
    have present := (List.mem_filter.mp stale).1
    have waited := Channel.isPending_iff.mpr ⟨waiting, present, rfl⟩
    have gone : (channel.rejectThrough generation).isPending waiting.id = false := by
      rw [waits, Bool.and_eq_false_iff, List.all_eq_false]
      exact .inr ⟨waiting, stale, by simp⟩
    refine ⟨⟨gone, ?_⟩, after.stopped waiting.id gone⟩
    rw [fate, if_pos ⟨waited, waiting, stale, rfl⟩, (accounts.open_iff waiting.id).mp waited]
    rfl
  · intro id others
    refine ⟨?_, ?_⟩
    · rw [fate, if_neg]
      rintro ⟨_, waiting, stale, same⟩
      exact others waiting stale same
    have still : (channel.rejectThrough generation).isPending id = channel.isPending id := by
      rw [waits, List.all_eq_true.mpr, Bool.and_true]
      exact fun waiting stale => bne_iff_ne.mpr (others waiting stale)
    cases waited : channel.isPending id with
    | false => rw [before.stopped id waited, after.stopped id (still.trans waited)]
    | true =>
        -- both know of one alarm for the request, and none was set
        obtain ⟨one, first, rfl⟩ := Channel.isPending_iff.mp waited
        obtain ⟨two, second, same⟩ := Channel.isPending_iff.mp (still.trans waited)
        obtain ⟨_, _, _, ticket, single⟩ := before.running one first
        obtain ⟨_, _, _, again, alone⟩ := after.running two second
        rw [same] at alone
        have kept : _ ∈ (channel.rejectThrough generation).alarmsOf one.id :=
          alone ▸ List.mem_cons_self
        obtain ⟨present, purpose⟩ := List.mem_filter.mp kept
        have known : _ ∈ channel.alarmsOf one.id :=
          List.mem_filter.mpr ⟨Channel.mem_settleEach.2 _ present, purpose⟩
        rw [single, List.mem_singleton] at known
        rw [single, alone, known]

end Paired

/-! ## Sweeps -/

/-- Whoever tells a notice, no request is made. -/
theorem Moment.issue?_of_notice {moment : Moment} {generation : Nat} {notice : Notice}
    (taken : moment.notice? = some (generation, notice)) : moment.issue? = none := by
  obtain ⟨⟨agenda, channel⟩, event⟩ := moment
  cases event with
  | socket => rfl
  | work =>
      cases agenda with
      | nil => cases taken
      | cons task rest =>
          cases task with
          | receive => rfl
          | _ => cases taken
  | _ => cases taken

/-- A sweep is a rejection, in every run. -/
theorem Run.rejection {settings : Settings} {draw : Nat → Nat} {past : List Moment} {sweep : Moment}
    (run : Run (.start settings draw) past sweep.scene) {generation : Nat}
    (sweeps : sweep.task? = some (.sweep generation)) :
    Rejection generation sweep.scene.channel sweep.after.channel ∧
      ((issues past).length < UInt64.size →
        ExactRejection generation sweep.scene.channel sweep.after.channel) := by
  rw [SweepLemmas.after_sweep sweeps]
  refine ⟨run.course.ticketed.rejection generation, fun few => ?_⟩
  obtain ⟨_, _, rest, agenda⟩ := Moment.work_of_task sweeps
  have paired := (run.ticking few).calm fun id timeout head => by
    rw [agenda] at head
    cases head
  exact paired.exactRejection (run.accounts few) generation

end Intercom
