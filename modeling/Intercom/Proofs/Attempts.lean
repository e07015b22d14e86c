import Intercom.Proofs.Departure

/-!
# How often a channel connects again

The link counts the attempts to connect again. The count grows with each alarm that is set for one,
and only a greeting takes it back, so that it is the number of alarms since. Whether the client
connects or disconnects in between makes no difference to it.

Results:
1. `Moment.scheduled_or`: a moment sets no alarm for a reconnection, or the one that the policy asks
   for.
2. `Counts.step`: the count is the number of alarms since the last greeting.
3. `Spent.step`: when the attempts are used up, only the client connects the channel.
4. `retries_bounded`: at most as many alarms as the policy allows, with the delays that it says.
-/

namespace Intercom

/-! ## Definitions -/

/-- The alarms for reconnections that the moment sets, with the millisecond in which it does. -/
def Moment.scheduled (moment : Moment) : List (Nat × Alarm) :=
  (moment.after.channel.retries.filter fun alarm => alarm ∉ moment.scene.channel.retries).map
    (moment.scene.channel.now, ·)

/-- The alarms for reconnections that were set, the first one first. -/
def schedules (past : List Moment) : List (Nat × Alarm) :=
  past.flatMap Moment.scheduled

/-- Whether a greeting of the latest socket is taken note of. -/
def Moment.greets (moment : Moment) : Bool :=
  match moment.move with
  | .greet _ => true
  | _ => false

/-- `Counts settings draw limit stretch channel`: the count of attempts is the number of the alarms
that were set in `stretch`, each with the delay for its number. -/
structure Counts (settings : Settings) (draw : Nat → Nat) (limit : UInt32) (stretch : List Moment)
    (channel : Channel) : Prop where
  attempts : channel.link.attempts.toNat = (schedules stretch).length
  bounded : (schedules stretch).length ≤ limit.toNat
  delays : ∀ (k now : Nat) alarm, (schedules stretch)[k]? = some (now, alarm) →
    alarm.due =
      now + (settings.backoff.delayFor (.ofNat (k + 1)) (draw alarm.ticket)).millisecondsUp
  /-- If alarms were set, then the last one is the only one that can be left. -/
  left : ∀ entry, (schedules stretch).getLast? = some entry →
    ∀ alarm ∈ channel.retries, alarm = entry.2

/-- No attempt to connect again is left, and none is on its way. -/
structure Spent (limit : UInt32) (scene : Scene) : Prop where
  limited : scene.channel.settings.backoff.limit = some limit
  attempts : limit.toNat ≤ scene.channel.link.attempts.toNat
  quiet : scene.channel.retries = []
  idle : ∀ task ∈ scene.agenda, task ≠ .reconnect ∧ task ≠ .connect

/-! ## What a moment does to reconnections -/

namespace Effect

variable {effect : Effect} {channel : Channel}

/-- The settings stay, and so does the count unless a socket closes or greets. -/
theorem policy (effect : Effect) (channel : Channel) :
    (effect.apply channel).settings = channel.settings ∧
      (effect.apply channel).draw = channel.draw ∧
      (effect ≠ .close → (∀ push, effect ≠ .greet push) →
        (effect.apply channel).link.attempts = channel.link.attempts) := by
  cases effect with
  | openSocket =>
      unfold Effect.apply Channel.openSocket Channel.cancelReconnect
      dsimp only
      split
      · exact ⟨rfl, rfl, fun _ _ => rfl⟩
      · cases channel.link.alarm <;> exact ⟨rfl, rfl, fun _ _ => rfl⟩
  | releaseSocket =>
      unfold Effect.apply Channel.releaseSocket Channel.cancelReconnect
      dsimp only
      cases channel.link.alarm <;> exact ⟨rfl, rfl, fun _ _ => rfl⟩
  | register event timeout =>
      rw [Effect.apply, Channel.register_eq]
      exact ⟨rfl, rfl, fun _ _ => rfl⟩
  | settle id outcome =>
      obtain ⟨_, _, _, same⟩ := channel.settle_frame id outcome
      rw [Effect.apply, same]
      exact ⟨rfl, rfl, fun _ _ => rfl⟩
  | reject generation =>
      obtain ⟨_, _, _, same⟩ := channel.settleEach_frame
        (channel.pending.filter fun waiting => waiting.generation ≤ generation)
        (.error .connectionClosed)
      rw [Effect.apply, Channel.rejectThrough_eq, same]
      exact ⟨rfl, rfl, fun _ _ => rfl⟩
  | close =>
      obtain ⟨handles, lost⟩ := channel.loseSocket_frame
      rw [Effect.apply, Channel.closeLink_getD, lost]
      refine ⟨?_, ?_, fun acts => absurd rfl acts⟩
      · split <;> rfl
      · split <;> rfl
  | greet push => exact ⟨rfl, rfl, fun _ cool => absurd rfl (cool push)⟩
  | _ => exact ⟨rfl, rfl, fun _ _ => rfl⟩

/-- Only the close of a socket brings a reconnection. -/
theorem retries_apply (effect : Effect) (channel : Channel) (lasts : effect ≠ .close) :
    (effect.apply channel).retries.Sublist channel.retries := by
  have cancelled := (channel.spares_cancelAlarm channel.link.alarm).retries
  rcases effect.spares_or channel with spares | rfl | rfl | rfl | rfl
  · exact spares.retries
  · unfold Effect.apply Channel.openSocket
    dsimp only
    split
    · exact .refl _
    · exact cancelled
  · exact cancelled
  · exact absurd rfl lasts
  · exact .refl _

end Effect

namespace Moment

variable {moment : Moment}

theorem greets_iff : moment.greets = true ↔ ∃ push, moment.move = .greet push := by
  unfold greets
  cases moment.move <;> simp

/-- What a moment sets no alarm for leaves of the reconnections what it leaves. -/
theorem scheduled_of_sublist
    (kept : moment.after.channel.retries.Sublist moment.scene.channel.retries) :
    moment.scheduled = [] := by
  unfold scheduled
  rw [List.map_eq_nil_iff, List.filter_eq_nil_iff]
  intro alarm present
  simpa using kept.subset present

/-- The settings are those of the start, all along a run. -/
theorem policy_after (moment : Moment) :
    moment.after.channel.settings = moment.scene.channel.settings ∧
      moment.after.channel.draw = moment.scene.channel.draw := by
  obtain ⟨settings, draw, _⟩ := moment.effect.policy moment.found
  obtain ⟨flags, found⟩ := moment.found_frame
  rw [moment.after_eq, settings, draw, found]
  exact ⟨rfl, rfl⟩

/-- A moment sets no alarm for a reconnection, or the one that the policy asks for when the latest
socket closes: the next attempt is counted, and the alarm has a ticket of its own. -/
theorem scheduled_or (fresh : moment.effect = .close →
      ∀ alarm ∈ moment.scene.channel.retries, alarm.ticket < moment.scene.channel.nextTicket) :
    (moment.after.channel.retries.Sublist moment.scene.channel.retries ∧
        (moment.greets = false →
          moment.after.channel.link.attempts = moment.scene.channel.link.attempts)) ∨
      (moment.effect = .close ∧
        moment.scheduled = [(moment.scene.channel.now, ⟨moment.scene.channel.nextTicket,
          moment.scene.channel.retryDue, .reconnect⟩)] ∧
        moment.after.channel.retries = moment.scene.channel.retries ++
          [⟨moment.scene.channel.nextTicket, moment.scene.channel.retryDue, .reconnect⟩] ∧
        moment.after.channel.link.attempts = moment.scene.channel.link.attempts + 1 ∧
        moment.scene.channel.link.attempts.toNat + 1 < UInt32.size ∧
        moment.scene.channel.settings.backoff.allows
          (moment.scene.channel.link.attempts + 1) = true) := by
  by_cases closes : moment.effect = .close
  · obtain ⟨handles, lost, due, settings⟩ := moment.loseSocket_found
    have after := moment.after_eq
    rw [closes, Effect.apply, Channel.closeLink_getD, lost, due, settings,
      moment.link_found] at after
    split at after
    · next wanted =>
        obtain ⟨_, counted, allowed⟩ := wanted
        have set : moment.after.channel.retries = moment.scene.channel.retries ++
            [⟨moment.scene.channel.nextTicket, moment.scene.channel.retryDue, .reconnect⟩] := by
          rw [after, Channel.retries_retryAt]
          rfl
        have new : (⟨moment.scene.channel.nextTicket, moment.scene.channel.retryDue,
            .reconnect⟩ : Alarm) ∉ moment.scene.channel.retries :=
          fun present => absurd (fresh closes _ present) (Nat.lt_irrefl _)
        have old : (moment.scene.channel.retries.filter fun alarm =>
            alarm ∉ moment.scene.channel.retries) = [] :=
          List.filter_eq_nil_iff.mpr (by simp)
        refine .inr ⟨closes, ?_, set, by rw [after]; rfl, counted, allowed⟩
        rw [scheduled, set, List.filter_append, old]
        simp [new]
    · refine .inl ⟨?_, fun _ => by rw [after]; rfl⟩
      rw [after]
      exact .refl _
  · have spared := moment.spares_found
    refine .inl ⟨?_, fun cool => ?_⟩
    · rw [moment.after_eq]
      exact (moment.effect.retries_apply moment.found closes).trans spared.retries
    · have attempts := (moment.effect.policy moment.found).2.2 closes fun push greets => by
        refine Bool.eq_false_iff.mp cool (greets_iff.mpr ⟨push, ?_⟩)
        rw [move, greets]
        rfl
      rw [moment.after_eq, attempts, moment.link_found]

/-- While no reconnection is to come, there is no older ticket of one. -/
theorem fresh_of_quiet {channel : Channel} (quiet : channel.retries = []) :
    ∀ alarm ∈ channel.retries, alarm.ticket < channel.nextTicket := by
  rw [quiet]
  exact fun _ absent => absurd absent List.not_mem_nil

/-- A greeting takes the count back. -/
theorem attempts_of_greets (greets : moment.greets = true) :
    moment.after.channel.link.attempts = 0 := by
  obtain ⟨push, greets⟩ := greets_iff.mp greets
  have greeted : moment.effect = .greet push := by
    have := effect_of_task (greet_iff.mp greets).1
    simpa [Task.effect, (greet_iff.mp greets).2] using this
  rw [moment.after_eq, greeted]
  rfl

end Moment

/-! ## The count of attempts -/

theorem toNat_next {attempts : UInt32} (counted : attempts.toNat + 1 < UInt32.size) :
    (attempts + 1).toNat = attempts.toNat + 1 := by
  rw [UInt32.toNat_add]
  exact Nat.mod_eq_of_lt counted

/-- A policy allows as many attempts as its limit says. -/
theorem Backoff.lt_of_allows {policy : Backoff} {attempts limit : UInt32}
    (limited : policy.limit = some limit) (counted : attempts.toNat + 1 < UInt32.size)
    (allowed : policy.allows (attempts + 1) = true) : attempts.toNat < limit.toNat := by
  unfold allows at allowed
  rw [limited, Option.all_some, Bool.and_eq_true, decide_eq_true_eq, UInt32.le_iff_toNat_le,
    toNat_next counted] at allowed
  exact allowed.2

theorem schedules_append (past : List Moment) (moment : Moment) :
    schedules (past ++ [moment]) = schedules past ++ moment.scheduled := by
  simp [schedules]

/-- The alarms that a moment sets are counted, unless it is a greeting. -/
theorem Moment.attempts_after {moment : Moment} (fresh : moment.effect = .close →
      ∀ alarm ∈ moment.scene.channel.retries, alarm.ticket < moment.scene.channel.nextTicket)
    (cool : moment.greets = false) :
    moment.after.channel.link.attempts.toNat =
      moment.scene.channel.link.attempts.toNat + moment.scheduled.length := by
  rcases scheduled_or fresh with ⟨kept, attempts⟩ | ⟨_, scheduled, _, attempts, counted, _⟩
  · rw [attempts cool, scheduled_of_sublist kept]
    rfl
  · rw [attempts, toNat_next counted, scheduled]
    rfl

namespace Counts

variable {settings : Settings} {draw : Nat → Nat} {limit : UInt32} {stretch : List Moment}
  {moment : Moment}

theorem start {channel : Channel} (fresh : channel.link.attempts = 0) :
    Counts settings draw limit [] channel :=
  ⟨by rw [fresh]; rfl, Nat.zero_le _, nofun, nofun⟩

/-- Each alarm that is set is counted, and only a greeting takes the count back. -/
theorem step (counts : Counts settings draw limit stretch moment.scene.channel)
    (same : moment.scene.channel.settings = settings) (drawn : moment.scene.channel.draw = draw)
    (limited : settings.backoff.limit = some limit)
    (quiet : moment.effect = .close → moment.scene.channel.retries = [])
    (cool : moment.greets = false) :
    Counts settings draw limit (stretch ++ [moment]) moment.after.channel := by
  have fresh := fun closes => Moment.fresh_of_quiet (quiet closes)
  have total := Moment.attempts_after fresh cool
  rw [counts.attempts, ← List.length_append, ← schedules_append] at total
  rcases Moment.scheduled_or fresh with
    ⟨kept, _⟩ | ⟨closes, scheduled, retries, _, counted, allowed⟩
  · have none : schedules (stretch ++ [moment]) = schedules stretch := by
      rw [schedules_append, Moment.scheduled_of_sublist kept, List.append_nil]
    refine ⟨total, ?_, ?_, ?_⟩
    · rw [none]
      exact counts.bounded
    · rw [none]
      exact counts.delays
    · rw [none]
      exact fun entry last alarm present => counts.left entry last alarm (kept.subset present)
  · have number : (moment.scene.channel.link.attempts + 1).toNat =
        (schedules stretch).length + 1 := by
      rw [toNat_next counted, counts.attempts]
    rw [same] at allowed
    rw [quiet closes, List.nil_append] at retries
    refine ⟨total, ?_, ?_, ?_⟩
    · rw [schedules_append, scheduled, List.length_append, ← counts.attempts]
      exact Backoff.lt_of_allows limited counted allowed
    · intro k now alarm found
      rw [schedules_append, scheduled] at found
      rcases Nat.lt_or_ge k (schedules stretch).length with old | new
      · rw [List.getElem?_append_left old] at found
        exact counts.delays k now alarm found
      · rw [List.getElem?_append_right new, List.getElem?_singleton] at found
        split at found
        · next first =>
            cases found
            have ordinal : k = (schedules stretch).length := by omega
            have attempt : moment.scene.channel.link.attempts + 1 = .ofNat (k + 1) := by
              have small : (schedules stretch).length + 1 < UInt32.size := counts.attempts ▸ counted
              rw [← UInt32.toNat_inj, number, ordinal, UInt32.toNat_ofNat_of_lt' small]
            rw [← attempt, ← same, ← drawn]
            rfl
        · cases found
    · intro entry last alarm present
      rw [schedules_append, scheduled, List.getLast?_append] at last
      cases last
      rw [retries] at present
      exact List.mem_singleton.mp present

end Counts

namespace Run

variable {settings : Settings} {draw : Nat → Nat} {earlier stretch : List Moment}
  {first last : Scene} {limit : UInt32}

/-- The settings are those of the start, all along a run. -/
theorem policy (run : Run (.start settings draw) earlier last) :
    last.channel.settings = settings ∧ last.channel.draw = draw := by
  refine (run.course.preserves (fun channel => channel.settings = settings ∧ channel.draw = draw)
    (fun moment before => ?_) ⟨rfl, rfl⟩).1
  obtain ⟨same, drawn⟩ := moment.policy_after
  exact ⟨same.trans before.1, drawn.trans before.2⟩

/-- If sockets close once, no reconnection is to come when the latest one closes. -/
theorem quiet_of_close {moment : Moment} (run : Run (.start settings draw) earlier moment.scene)
    (once : ClosesOnce (earlier ++ [moment])) (closes : moment.effect = .close) :
    moment.scene.channel.retries = [] := by
  have cause := moment.cause
  rw [closes] at cause
  cases cause with
  | close taken =>
      have told := Moment.closed?_eq_some.mpr ⟨_, taken⟩
      exact (run.tended once.past_of_append).1.quiet_of_unclosed (once.unclosed told)

/-- At the start and after a greeting no attempt is counted. -/
theorem attempts_of_fresh (run : Run (.start settings draw) earlier first)
    (fresh : ∀ moment ∈ earlier.getLast?, moment.greets = true) :
    first.channel.link.attempts = 0 := by
  rcases List.eq_nil_or_concat earlier with rfl | ⟨others, greeting, rfl⟩
  · rw [run.nothing]
    rfl
  · rw [List.concat_eq_append] at run fresh
    rw [run.last.2.2]
    exact Moment.attempts_of_greets (fresh greeting (by simp))

/-- Since the start or a greeting, the count of attempts is the number of alarms. -/
theorem counts (begins : Run (.start settings draw) earlier first)
    (fresh : ∀ moment ∈ earlier.getLast?, moment.greets = true) (run : Run first stretch last)
    (once : ClosesOnce (earlier ++ stretch)) (limited : settings.backoff.limit = some limit)
    (cool : ∀ moment ∈ stretch, moment.greets = false) :
    Counts settings draw limit stretch last.channel := by
  induction run with
  | start => exact .start (begins.attempts_of_fresh fresh)
  | @step past scene event run allowed ih =>
      rw [← List.append_assoc] at once
      have before := ih once.past_of_append fun moment old => cool moment (by simp [old])
      have reached := begins.trans run
      exact @Counts.step _ _ _ _ ⟨scene, event⟩ before reached.policy.1 reached.policy.2 limited
        (reached.quiet_of_close once) (cool _ (by simp))

end Run

/-! ## When the attempts are used up -/

namespace Spent

variable {limit : UInt32} {moment : Moment}

/-- Once the attempts are used up, they stay so until a greeting. -/
theorem step (spent : Spent limit moment.scene)
    (allowed : moment.scene.allows moment.event = true) (cool : moment.greets = false) :
    Spent limit moment.after := by
  rcases Moment.scheduled_or fun _ => Moment.fresh_of_quiet spent.quiet with
    ⟨kept, attempts⟩ | ⟨_, _, _, _, counted, permitted⟩
  · constructor
    · rw [moment.policy_after.1]
      exact spent.limited
    · rw [attempts cool]
      exact spent.attempts
    · exact List.sublist_nil.mp (spent.quiet ▸ kept)
    · intro task present
      rcases List.mem_append.mp present with leads | left
      · constructor
        · -- an alarm for it would have to go off, and none is left
          rintro rfl
          cases Moment.origin (Moment.head_of_leads leads rfl) rfl with
          | @reconnect alarm rang purpose =>
              rw [rang] at allowed
              simp only [Scene.allows, Bool.and_eq_true, decide_eq_true_eq] at allowed
              have alive : alarm ∈ moment.scene.channel.retries :=
                List.mem_filter.mpr ⟨allowed.1.2, decide_eq_true purpose⟩
              rw [spent.quiet] at alive
              cases alive
        · rintro rfl
          obtain ⟨carried, _⟩ := Moment.wanted_of_leads leads
          exact (spent.idle _ (Moment.mem_of_task carried)).1 rfl
      · refine spent.idle task ?_
        cases event : moment.event with
        | work =>
            rw [event] at left
            exact List.mem_of_mem_tail left
        | _ =>
            rw [event] at left
            exact left
  · -- the policy allows no further attempt
    exact absurd (Backoff.lt_of_allows spent.limited counted permitted)
      (Nat.not_lt.mpr spent.attempts)

/-- Then only the client connects the channel. -/
theorem call_of_spawn (spent : Spent limit moment.scene) (spawns : moment.move = .spawn) :
    moment.call? = some .connect := by
  have cause := moment.cause
  unfold Moment.move at spawns
  generalize moment.effect = effect at cause spawns
  cases cause with
  | connect calls => exact calls
  | reconnect carried => exact absurd rfl (spent.idle _ (Moment.mem_of_task carried)).2
  | _ => cases spawns

theorem run {first last : Scene} {later : List Moment} (run : Run first later last)
    (spent : Spent limit first) (cool : ∀ moment ∈ later, moment.greets = false) :
    Spent limit last ∧ ∀ moment ∈ later, moment.move = .spawn → moment.call? = some .connect := by
  induction run with
  | start => exact ⟨spent, fun _ absent => absurd absent List.not_mem_nil⟩
  | @step past scene event _ allowed ih =>
      obtain ⟨now, before⟩ := ih fun moment old => cool moment (by simp [old])
      refine ⟨@Spent.step _ ⟨scene, event⟩ now allowed (cool _ (by simp)), ?_⟩
      intro moment present spawns
      rcases List.mem_append.mp present with old | new
      · exact before moment old spawns
      · rw [List.mem_singleton.mp new] at spawns ⊢
        exact @Spent.call_of_spawn _ ⟨scene, event⟩ now spawns

end Spent

/-! ## Bounded retries -/

/-- A policy that allows no attempt never sets an alarm for one. -/
theorem Course.quiet_of_zero {settings : Settings} {draw : Nat → Nat} {past : List Moment}
    {channel : Channel} (course : Course (Scene.start settings draw).channel past channel)
    (limited : channel.settings.backoff.limit = some 0) : channel.retries = [] := by
  refine (course.preserves
    (fun channel => channel.settings.backoff.limit = some 0 → channel.retries = [])
    (fun moment before limited => ?_) fun _ => rfl).1 limited
  rw [moment.policy_after.1] at limited
  rcases Moment.scheduled_or fun _ => Moment.fresh_of_quiet (before limited) with
    ⟨kept, _⟩ | ⟨_, _, _, _, counted, permitted⟩
  · exact List.sublist_nil.mp (before limited ▸ kept)
  · cases Backoff.lt_of_allows limited counted permitted

/-- If sockets close once, then since the start or a greeting no more alarms for reconnections are
set than the policy allows attempts, each with the delay for its number. Once the last of them has
gone off or was called off, only the client connects the channel, until there is a greeting. -/
theorem retries_bounded {settings : Settings} {draw : Nat → Nat} {earlier stretch : List Moment}
    {first last : Scene} {limit : UInt32} (begins : Run (.start settings draw) earlier first)
    (fresh : ∀ moment ∈ earlier.getLast?, moment.greets = true) (run : Run first stretch last)
    (once : ClosesOnce (earlier ++ stretch)) (limited : settings.backoff.limit = some limit)
    (cool : ∀ moment ∈ stretch, moment.greets = false) :
    (schedules stretch).length ≤ limit.toNat ∧
      (∀ (k now : Nat) alarm, (schedules stretch)[k]? = some (now, alarm) →
        alarm.due = now +
          (settings.backoff.delayFor (.ofNat (k + 1)) (draw alarm.ticket)).millisecondsUp) ∧
      ((schedules stretch).length = limit.toNat →
        (∀ entry ∈ (schedules stretch).getLast?, entry.2 ∉ last.channel.retries) →
        last.free = true → ∀ later final, Run last later final →
          (∀ moment ∈ later, moment.greets = false) →
          ∀ moment ∈ later, moment.move = .spawn → moment.call? = some .connect) := by
  have counts := begins.counts fresh run once limited cool
  have reached := begins.trans run
  refine ⟨counts.bounded, counts.delays, ?_⟩
  intro all gone free later final onward quiet
  refine (@Spent.run limit last final later onward ?_ quiet).2
  constructor
  · rw [reached.policy.1]
    exact limited
  · rw [counts.attempts, all]
  · cases ended : (schedules stretch).getLast? with
    | none =>
        rw [List.getLast?_eq_none_iff] at ended
        have zero : limit = 0 := by
          rw [← UInt32.toNat_inj, ← all, ended]
          rfl
        refine reached.course.quiet_of_zero ?_
        rw [reached.policy.1, limited, zero]
    | some entry =>
        refine List.eq_nil_iff_forall_not_mem.mpr fun alarm present => gone entry ended ?_
        rw [← counts.left entry ended alarm present]
        exact present
  · intro task present
    have calm := Scene.calm_of_free free (reached.tail_calm rfl) present
    constructor
    · rintro rfl
      cases calm
    · rintro rfl
      cases calm

/-- The settings of a channel that tries once more after 100 milliseconds, and then gives up. -/
def frugal : Settings :=
  { persistent with backoff := persistent.backoff.withLimit 1 }

/-- The socket closes, and so does the one that replaces it. -/
def givenUp : List Event :=
  [.call none .connect, .socket 1 (.closed (.abnormal "stream ended")), .work, .work, .wait 100,
    .alarm ⟨1, 100, .reconnect⟩, .work, .work, .socket 2 (.closed (.abnormal "stream ended")),
    .work, .work]

/-- The client connects, disconnects and connects again, and the last socket closes. -/
def insisting : List Event :=
  [.call none .connect, .call none .disconnect, .work,
    .socket 3 (.closed (.coded 1000 "closed by client")), .work, .work, .call none .connect,
    .socket 4 (.closed (.abnormal "stream ended")), .work, .work, .wait 1000]

theorem retries_bounded_insisting : ∃ stretch middle later final,
    (Scene.start frugal fun _ => 0).play [] givenUp = some (stretch, middle) ∧
      middle.play [] insisting = some (later, final) ∧
      schedules stretch = [(0, ⟨1, 100, .reconnect⟩)] ∧ (schedules stretch).length ≤ 1 ∧
      final.channel.generations = [1, 2, 3, 4] ∧
      ∀ moment ∈ later, moment.move = .spawn → moment.call? = some .connect := by
  have seen : (((Scene.start frugal fun _ => 0).play [] givenUp).map fun played =>
      (played.1.filterMap Moment.closed?, played.1.all fun moment => !moment.greets,
        schedules played.1, played.2.channel.retries, played.2.free,
        (played.2.play [] insisting).map fun more =>
          (more.1.all fun moment => !moment.greets, more.2.channel.generations))) =
      some ([1, 2], true, [(0, ⟨1, 100, .reconnect⟩)], [], true, some (true, [1, 2, 3, 4])) := by
    cbv
  obtain ⟨⟨stretch, middle⟩, played, views⟩ := Option.map_eq_some_iff.mp seen
  simp only [Prod.mk.injEq, List.all_eq_true, Bool.not_eq_true'] at views
  obtain ⟨closes, cool, set, quiet, free, more⟩ := views
  obtain ⟨⟨later, final⟩, goes, views⟩ := Option.map_eq_some_iff.mp more
  simp only [Prod.mk.injEq, List.all_eq_true, Bool.not_eq_true'] at views
  obtain ⟨still, sockets⟩ := views
  have once : ClosesOnce ([] ++ stretch) := by
    rw [ClosesOnce, List.nil_append, closes]
    decide
  have limited : frugal.backoff.limit = some 1 := rfl
  obtain ⟨bounded, _, spent⟩ := retries_bounded .start (by simp) (Scene.run_of_play .start played)
    once limited cool
  refine ⟨stretch, middle, later, final, played, goes, set, bounded, sockets, ?_⟩
  exact spent (by rw [set]; rfl) (fun _ _ => by simp [quiet]) free later final
    (Scene.run_of_play .start goes) still

end Intercom
