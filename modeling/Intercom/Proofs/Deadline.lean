import Mathlib
import Intercom.Proofs.Retry
import Intercom.Proofs.Settlement

/-!
# Deadlines of requests

A request is registered together with an alarm for its deadline. Whatever settles the request takes
the alarm away, and nothing else does. When the alarm goes off, the request waits without one until
the next moment, in which its time is over; nobody has a turn in between.

Results:
1. `Moment.paired_after`: waiting requests and the alarms of requests are paired off, and a moment
   keeps them so, unless one of these alarms goes off in it.
2. `Run.ticking`: they are paired off whenever somebody has a turn.
3. `Run.quiet`: if nothing is left to be done, the alarms that are due can go off one after the
   other, until none is due.
4. `punctual`: no request waits beyond its deadline, and none ends with a timeout before it.
-/

namespace Intercom

open AccountsLemmas

/-! ## Definitions -/

/-- A request that was issued, and the millisecond at which its time is over. -/
structure Term where
  issue : Issue
  deadline : Nat

/-- The request that the moment issues, with its deadline. -/
def Moment.term? (moment : Moment) : Option Term :=
  moment.issue?.map fun issue =>
    ⟨issue, moment.scene.channel.now + issue.timeout.millisecondsUp⟩

/-- The requests that were issued with their deadlines, the first one first. -/
def terms (past : List Moment) : List Term :=
  past.filterMap Moment.term?

/-- The request that an alarm is for. -/
def Alarm.request? (alarm : Alarm) : Option RequestId :=
  match alarm.purpose with
  | .expire id _ => some id
  | .reconnect => none

namespace Channel

/-- The alarms for a request. -/
def alarmsOf (channel : Channel) (id : RequestId) : List Alarm :=
  channel.alarms.filter fun alarm => alarm.request? = some id

end Channel

/-- Waiting requests and the alarms of requests are in one-to-one correspondence. -/
structure OnTime (past : List Moment) (channel : Channel) : Prop where
  single : (channel.pending.map Waiting.id).Nodup
  /-- A request that waits was issued, and has one alarm, for its deadline. -/
  running : ∀ waiting ∈ channel.pending, ∃ term ∈ terms past, term.issue.id = waiting.id ∧
    ∃ ticket, channel.alarmsOf waiting.id =
      [⟨ticket, term.deadline, .expire waiting.id term.issue.timeout⟩]
  /-- A request that does not wait has none. -/
  stopped : ∀ id, channel.isPending id = false → channel.alarmsOf id = []

namespace Scene

/-- Somebody has a turn, and every alarm that was due has gone off. -/
structure Quiet (scene : Scene) : Prop where
  free : scene.free = true
  early : ∀ alarm ∈ scene.channel.alarms, scene.channel.now < alarm.due

end Scene

/-- A request whose future ended with a timeout had its time, or a write of its frame was reported
to have failed in this way. -/
def TimeoutsLate (past : List Moment) (channel : Channel) : Prop :=
  ∀ id failure, channel.fate? id = some (some (.error failure)) → failure.isTimeout = true →
    (∃ term ∈ terms past, term.issue.id = id ∧
        failure = Channel.timeoutFailure id term.issue.timeout ∧ term.deadline ≤ channel.now) ∨
      ∃ moment ∈ past, ∃ generation, moment.notice? = some (generation, .sendFailed id failure)

/-! ## Requests and alarms in pairs -/

theorem mem_terms_append {past : List Moment} {term : Term} (issued : term ∈ terms past)
    (moment : Moment) : term ∈ terms (past ++ [moment]) := by
  rw [terms, List.filterMap_append]
  exact List.mem_append_left _ issued

namespace Channel

/-- The requests that have alarms, with the tickets of these. -/
def timers (channel : Channel) : List (RequestId × Option Nat) :=
  channel.alarms.filterMap fun alarm => alarm.request?.map fun id => (id, some alarm.ticket)

end Channel

/-- A request that waits, with the ticket of its alarm. -/
def Waiting.timer (waiting : Waiting) : RequestId × Option Nat :=
  (waiting.id, waiting.alarm)

/-- Waiting requests and the alarms of requests are paired off, and the alarms are set for the
deadlines. -/
structure Paired (past : List Moment) (channel : Channel) : Prop where
  known : ∀ alarm ∈ channel.alarms, alarm.ticket < channel.nextTicket
  distinct : (channel.alarms.map Alarm.ticket).Nodup
  single : (channel.pending.map Waiting.id).Nodup
  pairs : channel.timers = channel.pending.map Waiting.timer
  /-- The alarm that the link knows of is no request's. -/
  link : ∀ ticket, channel.link.alarm = some ticket → ticket < channel.nextTicket ∧
    ∀ alarm ∈ channel.alarms, alarm.ticket = ticket → alarm.request? = none
  due : ∀ alarm ∈ channel.alarms, ∀ id timeout, alarm.purpose = .expire id timeout →
    ∃ term ∈ terms past, term.issue.id = id ∧ term.issue.timeout = timeout ∧
      term.deadline = alarm.due

namespace Alarm

theorem request?_eq_some {alarm : Alarm} {id : RequestId} :
    alarm.request? = some id ↔ ∃ timeout, alarm.purpose = .expire id timeout := by
  unfold request?
  cases alarm.purpose <;> simp

end Alarm

namespace Channel

variable {channel : Channel}

theorem mem_timers {id : RequestId} {ticket : Option Nat} :
    (id, ticket) ∈ channel.timers ↔
      ∃ alarm ∈ channel.alarms, alarm.request? = some id ∧ some alarm.ticket = ticket := by
  simp [timers]

theorem timers_cancelAlarm (channel : Channel) (ticket : Nat) :
    (channel.cancelAlarm (some ticket)).timers =
      channel.timers.filter fun timer => timer.2 != some ticket := by
  unfold timers cancelAlarm
  dsimp only
  rw [List.filterMap_filter, List.filter_filterMap]
  refine List.filterMap_congr fun alarm _ => ?_
  cases alarm.request? <;> simp [Option.filter]

/-- A request that waits under an identifier of its own is taken out together with its own alarm. -/
theorem settle_of_mem (single : (channel.pending.map Waiting.id).Nodup) {waiting : Waiting}
    (present : waiting ∈ channel.pending) (outcome : Outcome) :
    channel.settle waiting.id outcome =
      (cancelAlarm
        { channel with pending := channel.pending.filter fun other => other.id != waiting.id }
        waiting.alarm).resolve waiting.id outcome := by
  unfold settle
  cases found : channel.pending.find? fun other => other.id = waiting.id with
  | none => simpa using List.find?_eq_none.mp found waiting present
  | some other =>
      have same : other.id = waiting.id := by simpa using List.find?_some found
      rw [List.inj_on_of_nodup_map single (List.mem_of_find?_eq_some found) present same]

/-- To settle a request makes up for its alarm having been taken away before. -/
theorem settle_cancelAlarm (single : (channel.pending.map Waiting.id).Nodup) {waiting : Waiting}
    (present : waiting ∈ channel.pending) (outcome : Outcome) :
    (channel.cancelAlarm waiting.alarm).settle waiting.id outcome =
      channel.settle waiting.id outcome := by
  cases own : waiting.alarm with
  | none => rfl
  | some ticket =>
      have before := settle_of_mem single present outcome
      have after :=
        @settle_of_mem (channel.cancelAlarm (some ticket)) single waiting present outcome
      rw [before, after, own]
      simp [cancelAlarm, List.filter_filter]

/-- A request under a new identifier is entered with the alarm that is set for it. -/
theorem register_of_absent {id : RequestId} (absent : channel.isPending id = false) (event : String)
    (generation : Nat) (timeout : Duration) :
    channel.register id event generation timeout =
      { channel with
        pending := channel.pending ++ [⟨id, event, generation, some channel.nextTicket⟩]
        futures := channel.futures ++ [{ id }]
        nextTicket := channel.nextTicket + 1
        alarms := channel.alarms ++
          [⟨channel.nextTicket, channel.now + timeout.millisecondsUp, .expire id timeout⟩] } := by
  have others : channel.pending.map (fun waiting =>
      if waiting.id = id then { waiting with alarm := some channel.nextTicket } else waiting) =
        channel.pending := by
    refine (List.map_congr_left fun waiting present => if_neg fun same => ?_).trans (List.map_id _)
    rw [isPending_iff.mpr ⟨waiting, present, same⟩] at absent
    cases absent
  rw [register_eq]
  simp [enterWaiting, setAlarm, others]

end Channel

namespace Paired

variable {past : List Moment} {channel after : Channel}

/-- Alarms and requests that leave in pairs leave the others paired off. -/
theorem restrict (paired : Paired past channel) (alarms : after.alarms.Sublist channel.alarms)
    (pending : after.pending.Sublist channel.pending)
    (pairs : after.timers = after.pending.map Waiting.timer)
    (next : channel.nextTicket ≤ after.nextTicket)
    (link : ∀ ticket, after.link.alarm = some ticket → channel.link.alarm = some ticket) :
    Paired past after := by
  constructor
  · exact fun alarm present => Nat.lt_of_lt_of_le (paired.known alarm (alarms.subset present)) next
  · exact paired.distinct.sublist (alarms.map _)
  · exact paired.single.sublist (pending.map _)
  · exact pairs
  · intro ticket known
    obtain ⟨earlier, others⟩ := paired.link ticket (link ticket known)
    exact ⟨Nat.lt_of_lt_of_le earlier next,
      fun alarm present => others alarm (alarms.subset present)⟩
  · exact fun alarm present => paired.due alarm (alarms.subset present)

/-- A change to other fields alone leaves the pairs. -/
theorem of_eq (paired : Paired past channel) (alarms : after.alarms = channel.alarms)
    (pending : after.pending = channel.pending) (next : after.nextTicket = channel.nextTicket)
    (link : after.link.alarm = channel.link.alarm) : Paired past after := by
  refine paired.restrict (alarms ▸ .refl _) (pending ▸ .refl _) ?_ (Nat.le_of_eq next.symm)
    (fun ticket known => link ▸ known)
  rw [Channel.timers, alarms, pending]
  exact paired.pairs

theorem append (paired : Paired past channel) (moment : Moment) :
    Paired (past ++ [moment]) channel := by
  refine { paired with due := fun alarm present id timeout purpose => ?_ }
  obtain ⟨term, issued, same⟩ := paired.due alarm present id timeout purpose
  exact ⟨term, mem_terms_append issued moment, same⟩

/-- An alarm that is no request's may be taken away. -/
theorem cancelAlarm (paired : Paired past channel) {ticket : Option Nat}
    (other : ∀ alarm ∈ channel.alarms, some alarm.ticket = ticket → alarm.request? = none) :
    Paired past (channel.cancelAlarm ticket) := by
  cases ticket with
  | none => exact paired
  | some ticket =>
      refine paired.restrict List.filter_sublist (.refl _) ?_ (Nat.le_refl _) (fun _ known => known)
      rw [Channel.timers_cancelAlarm, List.filter_eq_self.mpr]
      · exact paired.pairs
      · rintro ⟨id, own⟩ present
        obtain ⟨alarm, alive, request, rfl⟩ := Channel.mem_timers.mp present
        rw [bne_iff_ne]
        intro same
        cases (other alarm alive same).symm.trans request

theorem cancelReconnect (paired : Paired past channel) : Paired past channel.cancelReconnect := by
  have cancelled : Paired past (channel.cancelAlarm channel.link.alarm) :=
    paired.cancelAlarm fun alarm present same =>
      (paired.link alarm.ticket same.symm).2 alarm present rfl
  exact cancelled.restrict (.refl _) (.refl _) cancelled.pairs (Nat.le_refl _) nofun

theorem openSocket (paired : Paired past channel) : Paired past channel.openSocket := by
  unfold Channel.openSocket
  split
  · exact paired
  · have cancelled := paired.cancelReconnect
    exact cancelled.restrict (.refl _) (.refl _) cancelled.pairs (Nat.le_succ _) nofun

theorem releaseSocket (paired : Paired past channel) : Paired past channel.releaseSocket.2 :=
  paired.cancelReconnect.of_eq rfl rfl rfl rfl

/-- A request that waits has an alarm. -/
theorem alarm_of_waiting (paired : Paired past channel) {waiting : Waiting}
    (present : waiting ∈ channel.pending) :
    ∃ alarm ∈ channel.alarms, alarm.request? = some waiting.id ∧
      waiting.alarm = some alarm.ticket := by
  have timed : waiting.timer ∈ channel.timers := by
    rw [paired.pairs]
    exact List.mem_map_of_mem present
  obtain ⟨alarm, alive, request, own⟩ := Channel.mem_timers.mp timed
  exact ⟨alarm, alive, request, own.symm⟩

/-- An alarm of a request is the one of a request that waits. -/
theorem waiting_of_alarm (paired : Paired past channel) {alarm : Alarm}
    (present : alarm ∈ channel.alarms) {id : RequestId} (request : alarm.request? = some id) :
    ∃ waiting ∈ channel.pending, waiting.id = id ∧ waiting.alarm = some alarm.ticket := by
  have timed : (id, some alarm.ticket) ∈ channel.pending.map Waiting.timer := by
    rw [← paired.pairs, Channel.mem_timers]
    exact ⟨alarm, present, request, rfl⟩
  obtain ⟨waiting, waits, same⟩ := List.mem_map.mp timed
  obtain ⟨named, own⟩ := Prod.mk.inj same
  exact ⟨waiting, waits, named, own⟩

/-- A request is settled together with its alarm. -/
theorem settle (paired : Paired past channel) (id : RequestId) (outcome : Outcome) :
    Paired past (channel.settle id outcome) := by
  cases waits : channel.isPending id with
  | false =>
      rw [Channel.settle_of_absent waits]
      exact paired
  | true =>
      obtain ⟨waiting, present, rfl⟩ := Channel.isPending_iff.mp waits
      obtain ⟨alarm, alive, request, own⟩ := paired.alarm_of_waiting present
      rw [Channel.settle_of_mem paired.single present, own]
      refine paired.restrict List.filter_sublist List.filter_sublist ?_ (Nat.le_refl _)
        (fun _ known => known)
      -- of the pairs, the one with the identifier is the one with the ticket
      refine (channel.timers_cancelAlarm alarm.ticket).trans ?_
      rw [paired.pairs, List.filter_map]
      refine congrArg _ (List.filter_congr fun other among => ?_)
      rw [Bool.eq_iff_iff, Function.comp_apply, bne_iff_ne, bne_iff_ne, not_iff_not]
      constructor
      · intro same
        obtain ⟨second, living, named, ticket⟩ := paired.alarm_of_waiting among
        have equal : second = alarm := List.inj_on_of_nodup_map paired.distinct living alive
          (Option.some.inj (ticket.symm.trans same))
        rw [equal, request] at named
        exact (Option.some.inj named).symm
      · intro same
        rw [List.inj_on_of_nodup_map paired.single among present same]
        exact own

theorem settleEach (paired : Paired past channel) (requests : List Waiting) (outcome : Outcome) :
    Paired past (channel.settleEach requests outcome) := by
  induction requests generalizing channel with
  | nil => exact paired
  | cons first rest ih => exact ih (paired.settle first.id outcome)

/-- An alarm that is set has a ticket of its own. -/
theorem tickets_append (paired : Paired past channel) {alarm : Alarm}
    (new : alarm.ticket = channel.nextTicket) :
    (∀ other ∈ channel.alarms ++ [alarm], other.ticket < channel.nextTicket + 1) ∧
      ((channel.alarms ++ [alarm]).map Alarm.ticket).Nodup := by
  constructor
  · intro other present
    rcases List.mem_append.mp present with old | last
    · exact Nat.lt_succ_of_lt (paired.known other old)
    · rw [List.mem_singleton.mp last, new]
      exact Nat.lt_succ_self _
  · rw [List.map_append, List.nodup_append]
    refine ⟨paired.distinct, List.nodup_singleton _, ?_⟩
    intro ticket old other last
    obtain ⟨earlier, present, rfl⟩ := List.mem_map.mp old
    rw [List.mem_singleton.mp last, new]
    exact Nat.ne_of_lt (paired.known earlier present)

theorem retryAt (paired : Paired past channel) (due : Nat) (attempts : UInt32) :
    Paired past (channel.retryAt due attempts) := by
  have tickets := @tickets_append past channel paired ⟨channel.nextTicket, due, .reconnect⟩ rfl
  constructor
  · exact tickets.1
  · exact tickets.2
  · exact paired.single
  · refine Eq.trans ?_ paired.pairs
    simp [Channel.timers, Channel.retryAt, Alarm.request?]
  · intro ticket known
    cases known
    refine ⟨Nat.lt_succ_self _, fun alarm present same => ?_⟩
    rcases List.mem_append.mp present with old | new
    · exact absurd same (Nat.ne_of_lt (paired.known alarm old))
    · rw [List.mem_singleton.mp new]
      rfl
  · intro alarm present id timeout purpose
    rcases List.mem_append.mp present with old | new
    · exact paired.due alarm old id timeout purpose
    · rw [List.mem_singleton.mp new] at purpose
      cases purpose

theorem close (paired : Paired past channel) :
    Paired past (channel.closeLink?.getD channel.loseSocket) := by
  have lost : Paired past channel.loseSocket := by
    unfold Channel.loseSocket
    cases channel.link.socket <;> exact paired.of_eq rfl rfl rfl rfl
  rcases channel.closeLink_cases with same | ⟨_, _, due, attempts, same⟩
  · rw [same]
    exact lost
  · rw [same]
    exact lost.retryAt due attempts

/-- A request is registered together with its alarm. -/
theorem register (paired : Paired past channel) {term : Term} (issued : term ∈ terms past)
    (absent : channel.isPending term.issue.id = false)
    (ends : term.deadline = channel.now + term.issue.timeout.millisecondsUp) (event : String) :
    Paired past
      (channel.register term.issue.id event term.issue.generation term.issue.timeout) := by
  rw [Channel.register_of_absent absent, ← ends]
  have tickets := @tickets_append past channel paired
    ⟨channel.nextTicket, term.deadline, .expire term.issue.id term.issue.timeout⟩ rfl
  constructor
  · exact tickets.1
  · exact tickets.2
  · rw [List.map_append, List.nodup_append]
    refine ⟨paired.single, List.nodup_singleton _, ?_⟩
    intro id old other last same
    obtain ⟨waiting, present, rfl⟩ := List.mem_map.mp old
    rw [List.mem_singleton.mp last] at same
    rw [Channel.isPending_iff.mpr ⟨waiting, present, same⟩] at absent
    cases absent
  · rw [List.map_append, ← paired.pairs]
    simp [Channel.timers, Alarm.request?, Waiting.timer]
  · intro ticket known
    obtain ⟨earlier, others⟩ := paired.link ticket known
    refine ⟨Nat.lt_succ_of_lt earlier, fun alarm present same => ?_⟩
    rcases List.mem_append.mp present with old | new
    · exact others alarm old same
    · rw [List.mem_singleton.mp new] at same
      exact absurd same.symm (Nat.ne_of_lt earlier)
  · intro alarm present id timeout purpose
    rcases List.mem_append.mp present with old | new
    · exact paired.due alarm old id timeout purpose
    · rw [List.mem_singleton.mp new] at purpose ⊢
      cases purpose
      exact ⟨term, issued, rfl, rfl, rfl⟩

/-- Whatever a moment does, unless it registers a request or takes the alarm of one away, it leaves
the pairs. -/
theorem apply (paired : Paired past channel) {effect : Effect}
    (silent : ∀ event timeout, effect ≠ .register event timeout)
    (other : ∀ ticket, effect = .silence ticket →
      ∀ alarm ∈ channel.alarms, alarm.ticket = ticket → alarm.request? = none) :
    Paired past (effect.apply channel) := by
  cases effect with
  | openSocket => exact paired.openSocket
  | releaseSocket => exact paired.releaseSocket
  | register event timeout => exact absurd rfl (silent event timeout)
  | settle id outcome => exact paired.settle id outcome
  | reject generation => exact paired.settleEach _ _
  | close => exact paired.close
  | retry => exact paired.restrict (.refl _) (.refl _) paired.pairs (Nat.le_refl _) nofun
  | silence ticket =>
      exact paired.cancelAlarm fun alarm present same =>
        other ticket rfl alarm present (Option.some.inj same)
  | _ => exact paired.of_eq rfl rfl rfl rfl

end Paired

/-! ## Pairs in a run -/

namespace Moment

variable {moment : Moment} {past : List Moment}

theorem paired_found (paired : Paired past moment.scene.channel) : Paired past moment.found := by
  obtain ⟨_, found⟩ := moment.found_frame
  rw [found]
  exact paired.of_eq rfl rfl rfl rfl

theorem term_of_issue {issue : Issue} (issued : moment.issue? = some issue) :
    (⟨issue, moment.scene.channel.now + issue.timeout.millisecondsUp⟩ : Term) ∈
      terms (past ++ [moment]) := by
  refine List.mem_filterMap.mpr ⟨moment, List.mem_append_right _ List.mem_cons_self, ?_⟩
  rw [term?, issued]
  rfl

/-- A moment keeps requests and alarms paired off, unless the alarm of a request goes off. -/
theorem paired_after (paired : Paired past moment.scene.channel)
    (accounts : Accounts past moment.scene.channel)
    (few : (issues (past ++ [moment])).length < UInt64.size)
    (other : ∀ alarm, moment.event = .alarm alarm →
      alarm ∈ moment.scene.channel.alarms ∧ alarm.request? = none) :
    Paired (past ++ [moment]) moment.after.channel := by
  cases issued : moment.issue? with
  | some issue =>
      obtain ⟨event, data, timeout, calls, same⟩ := call_of_issue issued
      rw [issues_append, issued, List.length_append] at few
      have absent : moment.scene.channel.isPending issue.id = false := by
        rw [Bool.eq_false_iff]
        intro waits
        obtain ⟨waiting, present, equal⟩ := Channel.isPending_iff.mp waits
        obtain ⟨known, before, id, _⟩ := accounts.known waiting present
        exact accounts.fresh few known before (by rw [id, equal, same])
      rw [Moment.registers calls]
      have numbered : Paired (past ++ [moment])
          { moment.scene.channel with ids := moment.scene.channel.ids.take.2 } :=
        (paired.append moment).of_eq rfl rfl rfl rfl
      have entered := numbered.register (term_of_issue issued) absent rfl event
      rw [same] at entered
      exact entered
  | none =>
      have cause := moment.cause
      rw [after_eq]
      refine ((paired_found paired).append moment).apply (effect_ne_register issued) ?_
      intro ticket silences alarm present same
      have unchanged : moment.found = moment.scene.channel :=
        found_eq (by rw [silences]; exact nofun) (by rw [silences]; exact nofun)
      rw [unchanged] at present
      rw [silences] at cause
      cases cause with
      | alarm rang =>
          obtain ⟨alive, free⟩ := other _ rang
          rwa [List.inj_on_of_nodup_map paired.distinct present alive same]

end Moment

/-- When somebody has a turn, requests and alarms are paired off. When the alarm of a request has
gone off, they will be once the request is settled, and its time is over. -/
structure Ticking (past : List Moment) (scene : Scene) : Prop where
  calm : (∀ id timeout, scene.agenda.head? ≠ some (.expire id timeout)) →
    Paired past scene.channel
  rang : ∀ id timeout, scene.agenda.head? = some (.expire id timeout) →
    (∀ outcome, Paired past (scene.channel.settle id outcome)) ∧
      ∃ term ∈ terms past, term.issue.id = id ∧ term.issue.timeout = timeout ∧
        term.deadline ≤ scene.channel.now

namespace Ticking

variable {past : List Moment} {scene : Scene}

theorem paired_of_free (ticking : Ticking past scene) (free : scene.free = true) :
    Paired past scene.channel := by
  refine ticking.calm fun id timeout head => ?_
  rw [Scene.free, head] at free
  cases free

end Ticking

namespace Paired

variable {past : List Moment} {channel : Channel} {alarm : Alarm} {id : RequestId}
  {timeout : Duration}

/-- The alarm of a request that goes off leaves its request to be settled. -/
theorem ring (paired : Paired past channel) (present : alarm ∈ channel.alarms)
    (purpose : alarm.purpose = .expire id timeout) (outcome : Outcome) :
    Paired past ((channel.cancelAlarm (some alarm.ticket)).settle id outcome) := by
  obtain ⟨waiting, waits, rfl, own⟩ :=
    paired.waiting_of_alarm present (Alarm.request?_eq_some.mpr ⟨timeout, purpose⟩)
  rw [← own, Channel.settle_cancelAlarm paired.single waits]
  exact paired.settle waiting.id outcome

end Paired

namespace Scene

/-- While nobody has a turn, all that can happen is the next task. -/
theorem work_of_busy {scene : Scene} {event : Event} (busy : scene.free = false)
    (allowed : scene.allows event = true) : event = .work := by
  cases event with
  | work => rfl
  | _ => simp [allows, busy] at allowed

end Scene

namespace Run

variable {settings : Settings} {draw : Nat → Nat} {past : List Moment} {scene : Scene}

/-- The time of a request is over when its alarm has gone off. -/
theorem ring_of_expire {event : Event} (run : Run (.start settings draw) past scene)
    (allowed : scene.allows event = true) {id : RequestId} {timeout : Duration}
    (head : (scene.after event).agenda.head? = some (.expire id timeout)) :
    ∃ alarm, event = .alarm alarm ∧ alarm.purpose = .expire id timeout := by
  obtain ⟨rest, next⟩ := List.head?_eq_some_iff.mp head
  obtain ⟨earlier, moment, same, _, _, origin⟩ := (run.step allowed).origin rfl next rfl
  obtain ⟨_, single⟩ := List.append_inj' same rfl
  cases single
  cases origin with
  | expire rang purpose => exact ⟨_, rang, purpose⟩

/-- In every run, requests and alarms are paired off whenever somebody has a turn. -/
theorem ticking (run : Run (.start settings draw) past scene)
    (few : (issues past).length < UInt64.size) : Ticking past scene := by
  induction run with
  | start =>
      refine ⟨fun _ => ?_, fun id timeout head => by cases head⟩
      exact ⟨nofun, List.nodup_nil, List.nodup_nil, rfl, nofun, nofun⟩
  | @step past scene event run allowed ih =>
      have fewer := few_of_append few
      have before := ih fewer
      constructor
      · intro calm
        by_cases head : ∃ id timeout, scene.agenda.head? = some (.expire id timeout)
        · -- the time of a request is over, and the request is settled
          obtain ⟨id, timeout, head⟩ := head
          obtain ⟨rest, agenda⟩ := List.head?_eq_some_iff.mp head
          have busy : scene.free = false := by
            rw [Scene.free, head]
            rfl
          obtain rfl := Scene.work_of_busy busy allowed
          have carried : Moment.task? ⟨scene, .work⟩ = some (.expire id timeout) := head
          have settled := ((before.rang id timeout head).1
            (.error (Channel.timeoutFailure id timeout))).append ⟨scene, .work⟩
          rw [show (scene.after .work).channel = _ from (Moment.work_of_task carried).2.1]
          exact settled
        · have paired := before.calm fun id timeout same => head ⟨id, timeout, same⟩
          refine @Moment.paired_after ⟨scene, event⟩ past paired (run.accounts fewer) few ?_
          rintro alarm rfl
          simp only [Scene.allows, Bool.and_eq_true, decide_eq_true_eq] at allowed
          refine ⟨allowed.1.2, ?_⟩
          cases request : alarm.request? with
          | none => rfl
          | some id =>
              obtain ⟨timeout, purpose⟩ := Alarm.request?_eq_some.mp request
              refine absurd ?_ (calm id timeout)
              show some alarm.purpose.task = _
              rw [purpose]
              rfl
      · intro id timeout head
        obtain ⟨alarm, rfl, purpose⟩ := run.ring_of_expire allowed head
        simp only [Scene.allows, Bool.and_eq_true, decide_eq_true_eq] at allowed
        obtain ⟨⟨free, present⟩, due⟩ := allowed
        have paired := before.paired_of_free free
        obtain ⟨term, issued, named, timed, ends⟩ := paired.due alarm present id timeout purpose
        exact ⟨fun outcome => (paired.ring present purpose outcome).append _,
          term, mem_terms_append issued _, named, timed, ends ▸ due⟩

end Run

/-! ## The clock -/

/-- `Rests before after`: no time passes on the way, and no alarm is set. -/
structure Rests (before after : Channel) : Prop where
  now : after.now = before.now
  alarms : after.alarms.Sublist before.alarms

namespace Channel

variable (channel : Channel)

theorem rests_cancelAlarm (ticket : Option Nat) : Rests channel (channel.cancelAlarm ticket) := by
  cases ticket with
  | none => exact ⟨rfl, .refl _⟩
  | some ticket => exact ⟨rfl, List.filter_sublist⟩

theorem rests_settle (id : RequestId) (outcome : Outcome) :
    Rests channel (channel.settle id outcome) := by
  cases waits : channel.isPending id with
  | true =>
      obtain ⟨ticket, same⟩ := settle_of_waiting waits outcome
      have rests := rests_cancelAlarm
        { channel with pending := channel.pending.filter fun other => other.id != id } ticket
      rw [same]
      exact ⟨rests.now, rests.alarms⟩
  | false =>
      rw [settle_of_absent waits]
      exact ⟨rfl, .refl _⟩

theorem rests_settleEach (requests : List Waiting) (outcome : Outcome) :
    Rests channel (channel.settleEach requests outcome) := by
  induction requests generalizing channel with
  | nil => exact ⟨rfl, .refl _⟩
  | cons first rest ih =>
      have one := channel.rests_settle first.id outcome
      have others := ih (channel.settle first.id outcome)
      exact ⟨others.now.trans one.now, others.alarms.trans one.alarms⟩

theorem rests_openSocket : Rests channel channel.openSocket := by
  have rests := channel.rests_cancelAlarm channel.link.alarm
  unfold openSocket
  split
  · exact ⟨rfl, .refl _⟩
  · exact ⟨rests.now, rests.alarms⟩

theorem now_closeLink : (channel.closeLink?.getD channel.loseSocket).now = channel.now := by
  have lost : channel.loseSocket.now = channel.now := by
    unfold loseSocket
    cases channel.link.socket <;> rfl
  rcases channel.closeLink_cases with same | ⟨_, _, due, attempts, same⟩
  · rw [same, lost]
  · rw [same]
    exact lost

end Channel

/-- The clock only moves forward. -/
theorem Effect.now_le (effect : Effect) (channel : Channel) :
    channel.now ≤ (effect.apply channel).now := by
  cases effect with
  | openSocket => exact Nat.le_of_eq channel.rests_openSocket.now.symm
  | releaseSocket => exact Nat.le_of_eq (channel.rests_cancelAlarm _).now.symm
  | register event timeout =>
      rw [apply, Channel.register_eq]
      exact Nat.le_refl _
  | settle id outcome => exact Nat.le_of_eq (channel.rests_settle id outcome).now.symm
  | reject generation => exact Nat.le_of_eq (channel.rests_settleEach _ _).now.symm
  | close => exact Nat.le_of_eq channel.now_closeLink.symm
  | wait milliseconds => exact Nat.le_add_right _ _
  | _ => exact Nat.le_refl _

theorem Moment.now_le (moment : Moment) : moment.scene.channel.now ≤ moment.after.channel.now := by
  obtain ⟨_, found⟩ := moment.found_frame
  have later := moment.effect.now_le moment.found
  rw [← moment.after_eq, found] at later
  exact later

/-! ## Timeouts -/

namespace TimeoutsLate

variable {past : List Moment} {channel : Channel}

/-- A timeout that came late stays so as time passes. -/
theorem later {after : Channel} (late : TimeoutsLate past channel) (moment : Moment)
    (clock : channel.now ≤ after.now) {id : RequestId} {failure : Failure}
    (ended : channel.fate? id = some (some (.error failure))) (timeout : failure.isTimeout = true) :
    (∃ term ∈ terms (past ++ [moment]), term.issue.id = id ∧
        failure = Channel.timeoutFailure id term.issue.timeout ∧ term.deadline ≤ after.now) ∨
      ∃ other ∈ past ++ [moment], ∃ generation,
        other.notice? = some (generation, .sendFailed id failure) := by
  rcases late id failure ended timeout with
    ⟨term, issued, named, same, elapsed⟩ | ⟨other, known, told⟩
  · exact .inl ⟨term, mem_terms_append issued moment, named, same, Nat.le_trans elapsed clock⟩
  · exact .inr ⟨other, List.mem_append_left _ known, told⟩

end TimeoutsLate

namespace Response

/-- An answer is no timeout. -/
theorem isTimeout_result {answer : Response} {failure : Failure}
    (refused : answer.result = .error failure) : failure.isTimeout = false := by
  unfold result at refused
  split at refused
  · cases refused
  · cases refused
    rfl

end Response

namespace Moment

variable {moment : Moment} {past : List Moment} {trigger : Trigger} {id : RequestId}
  {failure : Failure}

/-- A trigger that ends a request with a timeout comes from its alarm, or from a failed write. -/
theorem late_of_trigger (ticking : Ticking past moment.scene)
    (acts : moment.trigger? = some trigger) (hits : trigger.Hits moment.scene.channel id)
    (ends : trigger.outcome = .error failure) (timeout : failure.isTimeout = true) :
    (∃ term ∈ terms past, term.issue.id = id ∧
        failure = Channel.timeoutFailure id term.issue.timeout ∧
        term.deadline ≤ moment.scene.channel.now) ∨
      ∃ generation, moment.notice? = some (generation, .sendFailed id failure) := by
  have cause := moment.cause
  unfold trigger? at acts
  generalize moment.effect = effect at cause acts
  cases cause with
  | answer =>
      cases acts
      cases (Response.isTimeout_result ends).symm.trans timeout
  | @expire other duration carried =>
      cases acts
      cases hits
      cases ends
      obtain ⟨_, _, rest, agenda⟩ := work_of_task carried
      have head : moment.scene.agenda.head? = some (.expire id duration) := by
        rw [agenda]
        rfl
      obtain ⟨_, term, issued, named, rfl, elapsed⟩ := ticking.rang _ _ head
      exact .inl ⟨term, issued, named, rfl, elapsed⟩
  | failed taken =>
      cases acts
      cases hits
      cases ends
      exact .inr ⟨_, taken⟩
  | sweep =>
      cases acts
      cases ends
      cases timeout
  | _ => cases acts

end Moment

namespace Run

variable {settings : Settings} {draw : Nat → Nat} {past : List Moment} {scene : Scene}

/-- In every run, no request ends with a timeout before its deadline. -/
theorem timeoutsLate (run : Run (.start settings draw) past scene)
    (few : (issues past).length < UInt64.size) : TimeoutsLate past scene.channel := by
  induction run with
  | start =>
      intro id failure ended
      cases ended
  | @step past scene event run allowed ih =>
      have fewer := few_of_append few
      have before := ih fewer
      have clock := Moment.now_le ⟨scene, event⟩
      intro id failure ended timeout
      change (Moment.after ⟨scene, event⟩).channel.fate? id = _ at ended
      cases issued : Moment.issue? ⟨scene, event⟩ with
      | some issue =>
          -- a new future is unresolved
          obtain ⟨name, data, span, calls, rfl⟩ := call_of_issue issued
          rw [Moment.registers calls, Effect.apply, Channel.fate?_register] at ended
          refine before.later _ clock ?_ timeout
          change (scene.channel.fate? id).or _ = _ at ended
          cases known : scene.channel.fate? id with
          | some fate => rwa [known, Option.some_or] at ended
          | none =>
              rw [known, Option.none_or] at ended
              split at ended <;> cases ended
      | none =>
          cases acts : Moment.trigger? ⟨scene, event⟩ with
          | none =>
              rw [(Moment.keeps issued acts).fate] at ended
              exact before.later _ clock ended timeout
          | some trigger =>
              rw [Moment.triggers acts] at ended
              by_cases hit : scene.channel.isPending id = true ∧ trigger.Hits scene.channel id
              · rw [(trigger.fate?_apply _ _).1 hit] at ended
                obtain ⟨known, fate, resolved⟩ := Option.map_eq_some_iff.mp ended
                cases known with
                | some earlier =>
                    refine before.later _ clock ?_ timeout
                    rw [fate, ← resolved]
                    rfl
                | none =>
                    rcases Moment.late_of_trigger (run.ticking fewer) acts hit.2
                      (Option.some.inj resolved) timeout with
                      ⟨term, known, named, same, elapsed⟩ | ⟨generation, told⟩
                    · exact .inl ⟨term, mem_terms_append known _, named, same,
                        Nat.le_trans elapsed clock⟩
                    · exact .inr ⟨_, List.mem_append_right _ List.mem_cons_self, generation, told⟩
              · rw [(trigger.fate?_apply _ _).2 hit] at ended
                exact before.later _ clock ended timeout

end Run

/-! ## Alarms that are due -/

namespace Run

variable {first scene : Scene} {past : List Moment}

/-- Whatever an alarm leads to is done without setting another one. -/
theorem worked_off (run : Run first past scene) {purpose : Purpose}
    (agenda : scene.agenda = [purpose.task]) :
    ∃ more last, Run first (past ++ more) last ∧ (∀ moment ∈ more, moment.event = .work) ∧
      last.agenda = [] ∧ Rests scene.channel last.channel := by
  obtain ⟨tasks, channel⟩ := scene
  cases agenda
  have checked : Run first (past ++ [⟨⟨[purpose.task], channel⟩, .work⟩])
      ((Scene.mk [purpose.task] channel).after .work) := run.step rfl
  cases purpose with
  | expire id timeout =>
      refine ⟨_, _, checked, fun moment among => ?_, rfl, channel.rests_settle id _⟩
      rw [List.mem_singleton.mp among]
  | reconnect =>
      cases wanted : channel.checkReconnect.1 with
      | false =>
          refine ⟨_, _, checked, fun moment among => ?_, ?_, rfl, .refl channel.alarms⟩
          · rw [List.mem_singleton.mp among]
          · simp [Scene.after, Scene.perform, Scene.rest, Purpose.task, Task.run, wanted]
      | true =>
          -- the reconnection is wanted, and its second section connects
          have next : (Scene.mk [.reconnect] channel).after .work =
              ⟨[.connect], channel.checkReconnect.2⟩ := by
            simp [Scene.after, Scene.perform, Scene.rest, Task.run, wanted]
          rw [Purpose.task, next] at checked
          have connected : Run first (past ++ [⟨⟨[.reconnect], channel⟩, .work⟩] ++
              [⟨⟨[.connect], channel.checkReconnect.2⟩, .work⟩])
              ((Scene.mk [.connect] channel.checkReconnect.2).after .work) := checked.step rfl
          rw [List.append_assoc] at connected
          have rests := channel.checkReconnect.2.rests_openSocket
          refine ⟨_, _, connected, fun moment among => ?_, rfl, rests.now, rests.alarms⟩
          simp only [List.cons_append, List.nil_append, List.mem_cons, List.not_mem_nil,
            or_false] at among
          rcases among with rfl | rfl <;> rfl

/-- From a scene in which nothing is left to be done, the alarms that are due can go off one after
the other, until none is due. -/
theorem quiet (run : Run first past scene) (idle : scene.agenda = []) :
    ∃ more last, Run first (past ++ more) last ∧
      (∀ moment ∈ more, moment.event = .work ∨ ∃ alarm, moment.event = .alarm alarm) ∧
      last.Quiet ∧ last.channel.now = scene.channel.now := by
  induction count : scene.channel.alarms.length using Nat.strong_induction_on
    generalizing past scene with
  | _ size ih =>
      have free : scene.free = true := by
        rw [Scene.free, idle]
        rfl
      by_cases due : ∃ alarm ∈ scene.channel.alarms, alarm.due ≤ scene.channel.now
      · obtain ⟨alarm, present, due⟩ := due
        have allowed : scene.allows (.alarm alarm) = true := by
          simp [Scene.allows, free, present, due]
        have agenda : (scene.after (.alarm alarm)).agenda = [alarm.purpose.task] := by
          show [alarm.purpose.task] ++ scene.agenda = _
          rw [idle]
          rfl
        obtain ⟨works, between, reached, worked, rested, rests⟩ :=
          (run.step allowed).worked_off agenda
        have fewer : between.channel.alarms.length < size := by
          rw [← count]
          refine Nat.lt_of_le_of_lt rests.alarms.length_le ?_
          exact List.length_filter_lt_length_iff_exists.mpr ⟨alarm, present, by simp⟩
        obtain ⟨more, last, ended, events, quiet, same⟩ := ih _ fewer reached rested rfl
        refine ⟨⟨scene, .alarm alarm⟩ :: (works ++ more), last, by simpa using ended, ?_, quiet,
          same.trans rests.now⟩
        intro moment among
        rcases List.mem_cons.mp among with rfl | among
        · exact .inr ⟨alarm, rfl⟩
        · rcases List.mem_append.mp among with work | later
          · exact .inl (worked moment work)
          · exact events moment later
      · refine ⟨[], scene, by simpa using run, fun _ absent => absurd absent List.not_mem_nil,
          ⟨free, fun alarm present => ?_⟩, rfl⟩
        by_contra late
        exact due ⟨alarm, present, Nat.le_of_not_lt late⟩

end Run

/-! ## Deadlines -/

namespace Paired

variable {past : List Moment} {channel : Channel}

theorem onTime (paired : Paired past channel) : OnTime past channel := by
  refine ⟨paired.single, fun waiting present => ?_, fun id absent => ?_⟩
  · obtain ⟨alarm, alive, request, own⟩ := paired.alarm_of_waiting present
    obtain ⟨timeout, purpose⟩ := Alarm.request?_eq_some.mp request
    obtain ⟨term, issued, named, rfl, ends⟩ := paired.due alarm alive waiting.id timeout purpose
    refine ⟨term, issued, named, alarm.ticket, ?_⟩
    have whole : alarm = ⟨alarm.ticket, term.deadline, .expire waiting.id term.issue.timeout⟩ := by
      rw [ends, ← purpose]
    rw [← whole]
    -- an alarm for the same request belongs to the same entry, and so has the same ticket
    refine List.perm_singleton.mp ((List.perm_ext_iff_of_nodup ?_ (List.nodup_singleton _)).mpr ?_)
    · exact (List.Nodup.of_map _ paired.distinct).filter _
    · intro other
      rw [Channel.alarmsOf, List.mem_filter, decide_eq_true_eq, List.mem_singleton]
      constructor
      · rintro ⟨living, same⟩
        obtain ⟨entry, among, equal, ticket⟩ := paired.waiting_of_alarm living same
        rw [List.inj_on_of_nodup_map paired.single among present equal] at ticket
        exact List.inj_on_of_nodup_map paired.distinct living alive
          (Option.some.inj (ticket.symm.trans own))
      · rintro rfl
        exact ⟨alive, request⟩
  · rw [Channel.alarmsOf, List.filter_eq_nil_iff]
    intro alarm present request
    obtain ⟨waiting, among, same, _⟩ :=
      paired.waiting_of_alarm present (of_decide_eq_true request)
    rw [Channel.isPending_iff.mpr ⟨waiting, among, same⟩] at absent
    cases absent

end Paired

/-- An identifier tells a request with its deadline. -/
theorem Accounts.term_unique {past : List Moment} {channel : Channel}
    (accounts : Accounts past channel) (few : (issues past).length < UInt64.size) {one two : Term}
    (first : one ∈ terms past) (second : two ∈ terms past) (same : one.issue.id = two.issue.id) :
    one = two := by
  have listed : (terms past).map (fun term => term.issue.id) = (issues past).map Issue.id := by
    unfold terms issues
    rw [List.map_filterMap, List.map_filterMap]
    refine List.filterMap_congr fun moment _ => ?_
    unfold Moment.term?
    cases moment.issue? <;> rfl
  exact List.inj_on_of_nodup_map (listed ▸ accounts.nodup few) first second same

/-- In every run, requests that wait have one alarm each, for their own deadlines, whenever somebody
has a turn, and the others have none. So no request waits at its deadline or after it, once the
alarms that are due have gone off, and none ends with a timeout before its deadline. -/
theorem punctual {settings : Settings} {draw : Nat → Nat} {past : List Moment} {scene : Scene}
    (run : Run (.start settings draw) past scene) (few : (issues past).length < UInt64.size) :
    (scene.free = true → OnTime past scene.channel) ∧
      (scene.Quiet → ∀ term ∈ terms past, scene.channel.isPending term.issue.id = true →
        scene.channel.now < term.deadline) ∧
      TimeoutsLate past scene.channel := by
  have onTime (free : scene.free = true) : OnTime past scene.channel :=
    ((run.ticking few).paired_of_free free).onTime
  refine ⟨onTime, fun quiet term issued waits => ?_, run.timeoutsLate few⟩
  obtain ⟨waiting, present, same⟩ := Channel.isPending_iff.mp waits
  obtain ⟨other, known, named, ticket, single⟩ := (onTime quiet.free).running waiting present
  rw [(run.accounts few).term_unique few issued known (same.symm.trans named.symm)]
  have alive : ⟨ticket, other.deadline, .expire waiting.id other.issue.timeout⟩ ∈
      scene.channel.alarmsOf waiting.id := by
    rw [single]
    exact List.mem_cons_self
  exact quiet.early _ (List.mem_filter.mp alive).1

/-- A request without any time ends at once. One that the disconnect callback makes is answered in
time by the next socket, one that is made later runs out of time, and a last one still waits. -/
def fourRequests : List Event :=
  let request (milliseconds : Nat) :=
    Call.request "status" none (some (.ofMilliseconds milliseconds))
  [.call none (request 0), .work, .alarm ⟨0, 0, .expire ⟨1⟩ (.ofMilliseconds 0)⟩, .work,
    .call none (.onDisconnect (.make "lost" [.call (request 5)] none)), .call none .connect,
    .socket 1 (.closed (.abnormal "stream ended")), .work, .work, .work, .work, .work, .work,
    .call none .connect, .wait 3, .call none (request 2), .work, .call none (request 10), .work,
    .socket 2 .opened, .socket 2 (.message "\x7b\"id\":2,\"success\":true\x7d"), .work, .wait 2,
    .alarm ⟨4, 5, .expire ⟨3⟩ (.ofMilliseconds 2)⟩, .work]

theorem punctual_fourRequests : ∃ past scene,
    (Scene.start default fun _ => 0).play [] fourRequests = some (past, scene) ∧
      (issues past).map Issue.id = [⟨1⟩, ⟨2⟩, ⟨3⟩, ⟨4⟩] ∧
      scene.channel.pending.map Waiting.id = [⟨4⟩] ∧ scene.Quiet ∧ OnTime past scene.channel ∧
      (∀ term ∈ terms past, scene.channel.isPending term.issue.id = true →
        scene.channel.now < term.deadline) ∧
      TimeoutsLate past scene.channel := by
  have seen : (((Scene.start default fun _ => 0).play [] fourRequests).map fun played =>
      ((issues played.1).map Issue.id, played.2.channel.pending.map Waiting.id, played.2.free,
        played.2.channel.now, played.2.channel.alarms.map Alarm.due)) =
      some ([⟨1⟩, ⟨2⟩, ⟨3⟩, ⟨4⟩], [⟨4⟩], true, 5, [13]) := by
    cbv
  obtain ⟨⟨past, scene⟩, played, views⟩ := Option.map_eq_some_iff.mp seen
  simp only [Prod.mk.injEq] at views
  obtain ⟨ids, waiting, free, now, dues⟩ := views
  have few : (issues past).length < UInt64.size := by
    rw [← List.length_map Issue.id, ids]
    decide
  have quiet : scene.Quiet := by
    refine ⟨free, fun alarm present => ?_⟩
    have due : alarm.due ∈ scene.channel.alarms.map Alarm.due := List.mem_map_of_mem present
    rw [dues, List.mem_singleton] at due
    rw [now, due]
    decide
  obtain ⟨onTime, early, late⟩ := punctual (Scene.run_of_play .start played) few
  exact ⟨past, scene, played, ids, waiting, quiet, onTime free, early quiet, late⟩

end Intercom
