import Mathlib
import Intercom.Proofs.Accounts
import Intercom.Proofs.Origin

/-!
# Every request is settled once

Answer, alarm, close and failed write race for every request that waits. The first of them takes the
request out and resolves its future; every later one finds nothing. `Settles` says which moments
settle a request, and with which outcome.

Results:
1. `trigger_of_settles`, `settles_of_trigger`: the moments that settle a request are the triggers
   that are about it.
2. `settled_once`: an issued request waits as long as no moment settles it, and is resolved for good
   by the first that does.
-/

namespace Intercom

open AccountsLemmas

/-! ## Definitions -/

/-- `Settles earlier moment issue outcome`: after the moments `earlier`, this moment is one that
settles the request, if it still waits.

* `answer`: a frame of the current socket was taken in just before, and is a response with exactly
  the request's identifier.
* `timeout`: the alarm that was set for the request went off just before.
* `closed`: the socket of the request's generation, or a later one, told just before that it closed.
* `failed`: the request's frame could not be written. -/
inductive Settles (earlier : List Moment) (moment : Moment) (issue : Issue) : Outcome → Prop where
  | answer {before : List Moment} {delivery : Moment} {generation : Nat} {text : String}
      {answer : Response} : earlier = before ++ [delivery] →
      delivery.notice? = some (generation, .message text) →
      delivery.scene.channel.link.generation = generation →
      Message.decode text.toList = .ok (some (.response answer)) →
      moment.task? = some (.route generation (.response answer)) → answer.id = issue.id →
      Settles earlier moment issue answer.result
  | timeout {before : List Moment} {ring : Moment} {alarm : Alarm} :
      earlier = before ++ [ring] → ring.event = .alarm alarm →
      alarm.purpose = .expire issue.id issue.timeout →
      moment.task? = some (.expire issue.id issue.timeout) →
      Settles earlier moment issue (.error (.requestTimeout issue.id
        (.ofNat (min (issue.timeout.nanoseconds / 1_000_000) (UInt64.size - 1)))))
  | closed {before : List Moment} {close : Moment} {generation : Nat} {closing : Closing} :
      earlier = before ++ [close] → close.notice? = some (generation, .closed closing) →
      moment.task? = some (.sweep generation) → issue.generation ≤ generation →
      Settles earlier moment issue (.error .connectionClosed)
  | failed {generation : Nat} {failure : Failure} :
      moment.notice? = some (generation, .sendFailed issue.id failure) →
      Settles earlier moment issue (.error failure)

/-- A request that waits, and whose future is there and unresolved. -/
def Channel.Waits (channel : Channel) (id : RequestId) : Prop :=
  channel.isPending id = true ∧ channel.fate? id = some none

/-- A request that no longer waits, and whose future is resolved. -/
def Channel.Resolved (channel : Channel) (id : RequestId) (outcome : Outcome) : Prop :=
  channel.isPending id = false ∧ channel.fate? id = some (some outcome)

namespace Accounts

variable {past : List Moment} {channel : Channel}

theorem waits_iff (accounts : Accounts past channel) (id : RequestId) :
    channel.Waits id ↔ channel.isPending id = true :=
  ⟨fun waits => waits.1, fun waits => ⟨waits, (accounts.open_iff id).mp waits⟩⟩

end Accounts

/-! ## Triggers of a run -/

namespace SettlementLemmas

variable {settings : Settings} {draw : Nat → Nat} {past : List Moment} {moment : Moment}
  {issue : Issue} {outcome : Outcome}

theorem trigger?_of_task {task : Task} (carried : moment.task? = some task) :
    moment.trigger? = (task.effect moment.scene.channel).trigger? := by
  rw [Moment.trigger?, Moment.effect_of_task carried]

theorem trigger?_of_notice {generation : Nat} {notice : Notice}
    (taken : moment.notice? = some (generation, notice)) :
    moment.trigger? = ((Task.receive generation notice).effect moment.scene.channel).trigger? := by
  rw [Moment.trigger?, Moment.effect_of_notice taken]

/-- A moment that settles a waiting request is a trigger that is about it. -/
theorem trigger_of_settles (accounts : Accounts past moment.scene.channel)
    (few : (issues past).length < UInt64.size) (issued : issue ∈ issues past)
    (settles : Settles past moment issue outcome)
    (waits : moment.scene.channel.isPending issue.id = true) :
    ∃ trigger, moment.trigger? = some trigger ∧
      trigger.Hits moment.scene.channel issue.id ∧ trigger.outcome = outcome := by
  cases settles with
  | answer _ _ _ _ carried same => exact ⟨_, trigger?_of_task carried, same.symm, rfl⟩
  | timeout _ _ _ carried => exact ⟨_, trigger?_of_task carried, rfl, rfl⟩
  | @closed _ _ generation _ _ _ carried old =>
      refine ⟨_, trigger?_of_task carried, ?_, rfl⟩
      obtain ⟨waiting, present, same⟩ := Channel.isPending_iff.mp waits
      obtain ⟨other, known, id, made⟩ := accounts.known waiting present
      have equal := accounts.issue_unique few known issued (id.trans same)
      subst equal
      exact ⟨waiting, present, same, made ▸ old⟩
  | failed taken => exact ⟨_, trigger?_of_notice taken, rfl, rfl⟩

/-- A trigger that is about a request settles it, in the way in which it came about. -/
theorem settles_of_trigger (run : Run (.start settings draw) past moment.scene)
    (few : (issues past).length < UInt64.size) (issued : issue ∈ issues past) {trigger : Trigger}
    (acts : moment.trigger? = some trigger) (hits : trigger.Hits moment.scene.channel issue.id) :
    Settles past moment issue trigger.outcome := by
  have accounts := run.accounts few
  have cause := moment.cause
  unfold Moment.trigger? at acts
  generalize moment.effect = effect at cause acts
  cases cause with
  | @answer generation answer carried =>
      obtain ⟨_, _, rest, agenda⟩ := Moment.work_of_task carried
      obtain ⟨before, delivery, text, same, _, taken, current, decoded, _⟩ :=
        run.delivery_of_route rfl agenda
      cases acts
      exact .answer same taken current decoded carried (Eq.symm hits)
  | @expire id timeout carried =>
      obtain ⟨_, _, rest, agenda⟩ := Moment.work_of_task carried
      obtain ⟨before, ring, same, earlier, after, origin⟩ := run.origin rfl agenda rfl
      cases acts
      cases hits
      cases origin with
      | @expire alarm _ _ rang purpose =>
          -- the alarm was set for this request, so it has the request's own timeout
          have fewer := Nat.lt_of_le_of_lt (issues_sublist same).1 few
          have present : alarm ∈ ring.scene.channel.alarms := by
            subst same
            have allowed := run.last.2.1
            rw [rang] at allowed
            simp only [Scene.allows, Bool.and_eq_true, decide_eq_true_eq] at allowed
            exact allowed.1.2
          obtain ⟨other, known, id, timed⟩ :=
            (earlier.accounts fewer).timed alarm present _ _ purpose
          have equal := accounts.issue_unique few ((issues_sublist same).2 other known) issued id
          subst equal
          subst timed
          exact .timeout same rang purpose carried
  | @failed generation id failure taken =>
      cases acts
      cases hits
      exact .failed taken
  | @sweep generation carried =>
      obtain ⟨_, _, rest, agenda⟩ := Moment.work_of_task carried
      obtain ⟨before, close, same, _, _, origin⟩ := run.origin rfl agenda rfl
      cases acts
      obtain ⟨waiting, present, named, stale⟩ := hits
      obtain ⟨other, known, id, made⟩ := accounts.known waiting present
      have equal := accounts.issue_unique few known issued (id.trans named)
      subst equal
      cases origin with
      | sweep taken => exact .closed same taken carried (made ▸ stale)
  | _ => cases acts

/-- A moment that is no trigger about a waiting request leaves the request and its future alone. -/
theorem spared (accounts : Accounts past moment.scene.channel)
    (few : (issues (past ++ [moment])).length < UInt64.size) (issued : issue ∈ issues past)
    (spares : ∀ trigger, moment.trigger? = some trigger →
      ¬ (moment.scene.channel.isPending issue.id = true ∧
        trigger.Hits moment.scene.channel issue.id)) :
    moment.after.channel.isPending issue.id = moment.scene.channel.isPending issue.id ∧
      moment.after.channel.fate? issue.id = moment.scene.channel.fate? issue.id := by
  rw [issues_append, List.length_append] at few
  cases made : moment.issue? with
  | some other =>
      obtain ⟨name, data, timeout, calls, rfl⟩ := call_of_issue made
      rw [made] at few
      have new : moment.scene.channel.ids.peek ≠ issue.id :=
        Ne.symm (accounts.fresh few issue issued)
      have present := (accounts.made issue.id).mpr ⟨issue, issued, rfl⟩
      rw [Moment.registers calls, Effect.apply, Channel.isPending_register, Channel.fate?_register]
      constructor
      · simp only [new, decide_false, Bool.or_false]
        rfl
      · simp only [new, if_false, Option.or_none]
        rfl
  | none =>
      cases acts : moment.trigger? with
      | some trigger =>
          rw [Moment.triggers acts]
          have free := spares trigger acts
          refine ⟨?_, (trigger.fate?_apply _ _).2 free⟩
          rw [Bool.eq_iff_iff, trigger.isPending_apply]
          exact ⟨fun waits => waits.1, fun waits => ⟨waits, fun hits => free ⟨waits, hits⟩⟩⟩
      | none =>
          have kept := Moment.keeps made acts
          exact ⟨kept.isPending _, kept.fate _⟩

/-- A trigger about a waiting request resolves it. -/
theorem resolved_of_trigger {trigger : Trigger} (acts : moment.trigger? = some trigger)
    (waits : moment.scene.channel.Waits issue.id)
    (hits : trigger.Hits moment.scene.channel issue.id) :
    moment.after.channel.Resolved issue.id trigger.outcome := by
  rw [Moment.triggers acts]
  constructor
  · rw [Bool.eq_false_iff]
    intro still
    exact ((trigger.isPending_apply _ _).mp still).2 hits
  · rw [(trigger.fate?_apply _ _).1 ⟨waits.1, hits⟩, waits.2]
    rfl

end SettlementLemmas

/-! ## Settled once -/

/-- `Unsettled past channel issue`: the request waits, and no moment since its issue settles it. -/
structure Unsettled (past : List Moment) (channel : Channel) (issue : Issue) : Prop where
  waits : channel.Waits issue.id
  none : ∀ earlier moment later outcome, past = earlier ++ moment :: later →
    issue ∈ issues earlier → ¬ Settles earlier moment issue outcome

/-- `SettledBy past channel issue moment outcome`: the request waited until that moment settled it.
Since then it waits no more, its future has that outcome, and whatever names the request again finds
nothing and leaves the whole channel as it is. -/
def SettledBy (past : List Moment) (channel : Channel) (issue : Issue) (moment : Moment)
    (outcome : Outcome) : Prop :=
  ∃ earlier later, past = earlier ++ moment :: later ∧ issue ∈ issues earlier ∧
    moment.scene.channel.Waits issue.id ∧ Settles earlier moment issue outcome ∧
    (∀ next ∈ later, next.scene.channel.Resolved issue.id outcome ∧
      ∀ again, next.trigger? = some (.settle issue.id again) →
        next.after.channel = next.scene.channel) ∧
    channel.Resolved issue.id outcome

namespace SettlementLemmas

variable {settings : Settings} {draw : Nat → Nat} {past : List Moment} {scene : Scene}
  {event : Event} {issue : Issue}

/-- A request that is settled stays settled with its outcome. -/
theorem settledBy_step {moment : Moment} {outcome : Outcome}
    (accounts : Accounts past scene.channel)
    (few : (issues (past ++ [⟨scene, event⟩])).length < UInt64.size) (issued : issue ∈ issues past)
    (settled : SettledBy past scene.channel issue moment outcome) :
    SettledBy (past ++ [⟨scene, event⟩]) (scene.after event).channel issue moment outcome := by
  obtain ⟨earlier, later, same, before, waited, settles, lasting, resolved⟩ := settled
  refine ⟨earlier, later ++ [⟨scene, event⟩], by rw [same, List.append_assoc, List.cons_append],
    before, waited, settles, ?_, ?_⟩
  · intro next present
    rcases List.mem_append.mp present with old | new
    · exact lasting next old
    · rw [List.mem_singleton.mp new]
      refine ⟨resolved, fun again acts => ?_⟩
      rw [Moment.triggers acts]
      exact Channel.settle_of_absent resolved.1 again
  · have spares : ∀ trigger, Moment.trigger? ⟨scene, event⟩ = some trigger →
        ¬ (scene.channel.isPending issue.id = true ∧ trigger.Hits scene.channel issue.id) := by
      intro trigger _ hit
      rw [resolved.1] at hit
      cases hit.1
    have left := @spared past ⟨scene, event⟩ issue accounts few issued spares
    exact ⟨left.1.trans resolved.1, left.2.trans resolved.2⟩

/-- A request that waits is settled by the first trigger about it, and waits until then. -/
theorem unsettled_step (run : Run (.start settings draw) past scene)
    (few : (issues (past ++ [⟨scene, event⟩])).length < UInt64.size) (issued : issue ∈ issues past)
    (unsettled : Unsettled past scene.channel issue) :
    Unsettled (past ++ [⟨scene, event⟩]) (scene.after event).channel issue ∨
      ∃ moment outcome,
        SettledBy (past ++ [⟨scene, event⟩]) (scene.after event).channel issue moment outcome := by
  have fewer : (issues past).length < UInt64.size := Nat.lt_of_le_of_lt (issues_sublist rfl).1 few
  have accounts := run.accounts fewer
  by_cases about : ∃ trigger, Moment.trigger? ⟨scene, event⟩ = some trigger ∧
      trigger.Hits scene.channel issue.id
  · -- the last moment is the one that settles the request
    obtain ⟨trigger, acts, hits⟩ := about
    refine Or.inr ⟨⟨scene, event⟩, trigger.outcome, past, [], rfl, issued, unsettled.waits,
      settles_of_trigger run fewer issued acts hits, ?_,
      resolved_of_trigger acts unsettled.waits hits⟩
    exact fun next absent => absurd absent List.not_mem_nil
  · -- the last moment is no trigger about it, and so it does not settle it either
    left
    have left := @spared past ⟨scene, event⟩ issue accounts few issued
      fun trigger acts hit => about ⟨trigger, acts, hit.2⟩
    refine ⟨⟨left.1.trans unsettled.waits.1, left.2.trans unsettled.waits.2⟩, ?_⟩
    intro earlier moment later outcome same known settles
    rcases List.eq_nil_or_concat later with rfl | ⟨others, final, rfl⟩
    · obtain ⟨rfl, single⟩ := List.append_inj' same rfl
      cases single
      obtain ⟨trigger, acts, hits, _⟩ :=
        trigger_of_settles accounts fewer issued settles unsettled.waits.1
      exact about ⟨trigger, acts, hits⟩
    · rw [List.concat_eq_append, ← List.cons_append, ← List.append_assoc] at same
      obtain ⟨before, _⟩ := List.append_inj' same rfl
      exact unsettled.none earlier moment others outcome before known settles

/-- A request that is issued waits. -/
theorem unsettled_of_issue (run : Run (.start settings draw) past scene)
    (allowed : scene.allows event = true)
    (few : (issues (past ++ [⟨scene, event⟩])).length < UInt64.size)
    (made : Moment.issue? ⟨scene, event⟩ = some issue) :
    Unsettled (past ++ [⟨scene, event⟩]) (scene.after event).channel issue := by
  have accounts := (run.step allowed).accounts few
  have before := run.accounts (Nat.lt_of_le_of_lt (issues_sublist rfl).1 few)
  obtain ⟨name, data, timeout, calls, same⟩ := call_of_issue made
  constructor
  · rw [accounts.waits_iff]
    show (Moment.after ⟨scene, event⟩).channel.isPending issue.id = true
    rw [Moment.registers calls, Effect.apply, Channel.isPending_register, same]
    simp
  · intro earlier moment later outcome split known _
    -- an issue before this one has another identifier
    rw [issues_append, List.length_append, made] at few
    refine before.fresh few issue ?_ (by rw [same])
    rcases List.eq_nil_or_concat later with rfl | ⟨others, final, rfl⟩
    · obtain ⟨rfl, _⟩ := List.append_inj' split rfl
      exact known
    · rw [List.concat_eq_append, ← List.cons_append, ← List.append_assoc] at split
      obtain ⟨rfl, _⟩ := List.append_inj' split rfl
      exact (issues_sublist rfl).2 issue known

end SettlementLemmas

open SettlementLemmas

/-- In every run, requests have identifiers of their own, and each that was issued either waits with
its future unresolved, or was taken out and resolved by the single moment that settled it. -/
theorem settled_once {settings : Settings} {draw : Nat → Nat} {past : List Moment} {scene : Scene}
    (run : Run (.start settings draw) past scene) (few : (issues past).length < UInt64.size) :
    ((issues past).map Issue.id).Nodup ∧
      ∀ issue ∈ issues past, Unsettled past scene.channel issue ∨
        ∃ moment outcome, SettledBy past scene.channel issue moment outcome := by
  refine ⟨(run.accounts few).nodup few, ?_⟩
  induction run with
  | start => exact fun issue absent => absurd absent List.not_mem_nil
  | @step past scene event run allowed ih =>
      intro issue present
      have fewer : (issues past).length < UInt64.size :=
        Nat.lt_of_le_of_lt (issues_sublist rfl).1 few
      rw [issues_append, List.mem_append, Option.mem_toList] at present
      rcases present with issued | made
      · rcases ih fewer issue issued with unsettled | ⟨moment, outcome, settled⟩
        · exact unsettled_step run few issued unsettled
        · exact Or.inr ⟨moment, outcome, settledBy_step (run.accounts fewer) few issued settled⟩
      · exact Or.inl (unsettled_of_issue run allowed few made)

/-- A request whose answer arrives twice: from its socket, and from a call in the socket's place. -/
def answeredTwice : List Event :=
  let answer := "\x7b\"id\":1,\"success\":true\x7d"
  [.call none .connect, .call none (.request "status" none none), .work, .socket 1 .opened,
    .socket 1 (.message answer), .work, .call none (.notify 1 (.message answer)), .work, .work]

theorem settled_once_answeredTwice : ∃ past scene,
    (Scene.start default fun _ => 0).play [] answeredTwice = some (past, scene) ∧
      (issues past).map Issue.id = [⟨1⟩] ∧ scene.channel.isPending ⟨1⟩ = false ∧
      ((issues past).map Issue.id).Nodup ∧
      ∀ issue ∈ issues past, Unsettled past scene.channel issue ∨
        ∃ moment outcome, SettledBy past scene.channel issue moment outcome := by
  have seen : (((Scene.start default fun _ => 0).play [] answeredTwice).map fun played =>
      ((issues played.1).map Issue.id, played.2.channel.isPending ⟨1⟩)) = some ([⟨1⟩], false) := by
    cbv
  obtain ⟨⟨past, scene⟩, played, views⟩ := Option.map_eq_some_iff.mp seen
  obtain ⟨ids, settled⟩ := Prod.mk.inj views
  have few : (issues past).length < UInt64.size := by
    rw [← List.length_map Issue.id, ids]
    decide
  exact ⟨past, scene, played, ids, settled, settled_once (Scene.run_of_play .start played) few⟩

end Intercom
