import Intercom.Proofs.Effect
import Mathlib.Data.List.Nodup

/-!
# The accounts of requests

A moment may issue a request, and it may be a trigger: an answer, an alarm, a failed write or the
sweep after a close, each of which takes requests out and resolves their futures. `Accounts` says
how the requests that were issued, those that wait, their futures and their alarms belong together.

Results:
1. `Moment.registers`, `Moment.triggers`, `Moment.keeps`: a moment registers a request, or is a
   trigger, or leaves requests and futures alone.
2. `Trigger.isPending_apply`, `Trigger.fate?_apply`: a trigger takes out the requests that it is
   about and resolves those that still waited.
3. `Course.accounts`: the accounts hold on every course, and so in every run.
-/

namespace Intercom

/-! ## Definitions -/

/-- A request as it was issued. -/
structure Issue where
  id : RequestId
  generation : Nat
  timeout : Duration
deriving DecidableEq

/-- What may settle requests: something that names one of them, or the end of a socket. -/
inductive Trigger where
  | settle (id : RequestId) (outcome : Outcome)
  | sweep (generation : Nat)

/-- What a trigger does to a channel. -/
def Trigger.apply (channel : Channel) : Trigger → Channel
  | .settle id outcome => channel.settle id outcome
  | .sweep generation => channel.rejectThrough generation

/-- The trigger that an effect is. -/
def Effect.trigger? : Effect → Option Trigger
  | .settle id outcome => some (.settle id outcome)
  | .reject generation => some (.sweep generation)
  | _ => none

namespace Moment

/-- The request that the moment issues. -/
def issue? (moment : Moment) : Option Issue :=
  match moment.call? with
  | some (.request _ _ timeout) =>
      some
        { id := moment.scene.channel.ids.peek
          generation := moment.scene.channel.link.generation
          timeout := timeout.getD moment.scene.channel.settings.requestTimeout }
  | _ => none

/-- The trigger that the moment is. -/
def trigger? (moment : Moment) : Option Trigger :=
  moment.effect.trigger?

end Moment

/-- The requests that were issued, the first one first. -/
def issues (past : List Moment) : List Issue :=
  past.filterMap Moment.issue?

/-! ## What a moment does -/

namespace Effect

/-- An effect that neither registers a request nor is a trigger keeps requests and futures. -/
theorem keeps {effect : Effect} (silent : ∀ event timeout, effect ≠ .register event timeout)
    (idle : effect.trigger? = none) (channel : Channel) : channel.Keeps (effect.apply channel) := by
  cases effect with
  | keep => exact .refl channel
  | callbacks after => exact .of_eq rfl rfl rfl rfl
  | openSocket => exact channel.keeps_openSocket
  | releaseSocket => exact channel.keeps_releaseSocket
  | shutDown generation => exact channel.keeps_shutDown generation
  | send generation request => exact channel.keeps_updateHandle _ _
  | register event timeout => exact absurd rfl (silent event timeout)
  | settle => cases idle
  | reject => cases idle
  | close =>
      cases closed : channel.closeLink? with
      | some after =>
          simp only [apply, closed, Option.getD_some]
          exact Channel.keeps_closeLink closed
      | none =>
          simp only [apply, closed, Option.getD_none]
          exact channel.keeps_loseSocket
  | greet push => exact .of_eq rfl rfl rfl rfl
  | retry => exact .of_eq rfl rfl rfl rfl
  | forget id => exact channel.keeps_forget id
  | silence ticket => exact channel.keeps_cancelAlarm (some ticket)
  | wait => exact .of_eq rfl rfl rfl rfl
  | collect => exact channel.keeps_takeSettled

end Effect

namespace Moment

variable {moment : Moment}

/-- A request is numbered and registered, whoever makes it. -/
theorem registers {event : String} {data : Option Json} {timeout : Option Duration}
    (calls : moment.call? = some (.request event data timeout)) :
    moment.after.channel = (Effect.register event timeout).apply moment.scene.channel := by
  obtain ⟨_, registered⟩ := effect_of_call calls
  rw [after_eq, registered, found_eq]
  · rfl
  · rw [registered]
    exact Effect.noConfusion
  · rw [registered]
    exact Effect.noConfusion

theorem triggers {trigger : Trigger} (acts : moment.trigger? = some trigger) :
    moment.after.channel = trigger.apply moment.scene.channel := by
  unfold trigger? at acts
  rw [after_eq, found_eq]
  · cases effect : moment.effect with
    | settle =>
        rw [effect] at acts
        cases acts
        rfl
    | reject =>
        rw [effect] at acts
        cases acts
        rfl
    | _ =>
        rw [effect] at acts
        cases acts
  · intro keeps
    rw [keeps] at acts
    cases acts
  · intro closes
    rw [closes] at acts
    cases acts

/-- Whoever issues no request registers none. -/
theorem effect_ne_register (silent : moment.issue? = none) (event : String)
    (timeout : Option Duration) : moment.effect ≠ .register event timeout := by
  intro registers
  have cause := moment.cause
  rw [registers] at cause
  cases cause with
  | request calls =>
      simp only [issue?, calls] at silent
      cases silent

theorem keeps (silent : moment.issue? = none) (idle : moment.trigger? = none) :
    moment.scene.channel.Keeps moment.after.channel := by
  have finds : moment.scene.channel.Keeps moment.found := by
    obtain ⟨_, found⟩ := moment.found_frame
    rw [found]
    exact .of_eq rfl rfl rfl rfl
  rw [after_eq]
  exact finds.trans (Effect.keeps (effect_ne_register silent) idle _)

end Moment

/-! ## What a trigger takes -/

namespace Trigger

/-- The requests that a trigger is about. -/
def Hits (channel : Channel) : Trigger → RequestId → Prop
  | .settle id _, other => other = id
  | .sweep generation, other =>
      ∃ waiting ∈ channel.pending, waiting.id = other ∧ waiting.generation ≤ generation

/-- What a trigger resolves its requests with. -/
def outcome : Trigger → Outcome
  | .settle _ outcome => outcome
  | .sweep _ => .error .connectionClosed

variable (channel : Channel) (trigger : Trigger)

theorem ids_apply : (trigger.apply channel).ids = channel.ids := by
  cases trigger with
  | settle id outcome => exact channel.ids_settle id outcome
  | sweep generation => exact channel.ids_settleEach _ _

theorem mem_apply :
    (∀ waiting ∈ (trigger.apply channel).pending, waiting ∈ channel.pending) ∧
      ∀ alarm ∈ (trigger.apply channel).alarms, alarm ∈ channel.alarms := by
  cases trigger with
  | settle id outcome =>
      refine ⟨fun waiting present => ?_, fun alarm present => Channel.alarms_settle present⟩
      rw [apply, Channel.pending_settle] at present
      exact (List.mem_filter.mp present).1
  | sweep generation => exact Channel.mem_settleEach

/-- The requests that a trigger is about wait no more; the others wait as before. -/
theorem isPending_apply (id : RequestId) :
    (trigger.apply channel).isPending id = true ↔
      channel.isPending id = true ∧ ¬ trigger.Hits channel id := by
  cases trigger with
  | settle other outcome => simp [apply, Channel.isPending_settle, Hits]
  | sweep generation =>
      rw [apply, Channel.rejectThrough_eq, Channel.isPending_settleEach, Bool.and_eq_true,
        List.all_eq_true]
      refine and_congr_right fun _ => ⟨?_, ?_⟩
      · rintro spared ⟨waiting, present, same, stale⟩
        have differs := spared waiting (by simp [present, stale])
        simp [same] at differs
      · intro spared waiting present
        simp only [List.mem_filter, decide_eq_true_eq] at present
        rw [bne_iff_ne]
        exact fun same => spared ⟨waiting, present.1, same, present.2⟩

/-- A request that waits and that a trigger is about is resolved; every other future stays. -/
theorem fate?_apply (id : RequestId) :
    ((channel.isPending id = true ∧ trigger.Hits channel id) →
        (trigger.apply channel).fate? id =
          (channel.fate? id).map fun known => some (known.getD trigger.outcome)) ∧
      (¬ (channel.isPending id = true ∧ trigger.Hits channel id) →
        (trigger.apply channel).fate? id = channel.fate? id) := by
  cases trigger with
  | settle other outcome =>
      rw [apply, Channel.fate?_settle]
      constructor
      · rintro ⟨waits, same⟩
        simp only [Hits] at same
        subst same
        rw [if_pos ⟨rfl, waits⟩]
        rfl
      · intro spared
        rw [if_neg]
        rintro ⟨rfl, waits⟩
        exact spared ⟨waits, rfl⟩
  | sweep generation =>
      rw [apply, Channel.rejectThrough_eq, Channel.fate?_settleEach]
      have stale :
          (∃ waiting ∈ channel.pending.filter fun waiting => waiting.generation ≤ generation,
            waiting.id = id) ↔ Hits channel (.sweep generation) id := by
        simp only [Hits, List.mem_filter, decide_eq_true_eq]
        exact ⟨fun ⟨waiting, present, same⟩ => ⟨waiting, present.1, same, present.2⟩,
          fun ⟨waiting, present, same, old⟩ => ⟨waiting, ⟨present, old⟩, same⟩⟩
      exact ⟨fun hit => if_pos ⟨hit.1, stale.mpr hit.2⟩,
        fun spared => if_neg fun hit => spared ⟨hit.1, stale.mp hit.2⟩⟩

/-- A trigger makes and forgets no future. -/
theorem isSome_fate?_apply (id : RequestId) :
    ((trigger.apply channel).fate? id).isSome = (channel.fate? id).isSome := by
  by_cases hit : channel.isPending id = true ∧ trigger.Hits channel id
  · rw [(trigger.fate?_apply channel id).1 hit, Option.isSome_map]
  · rw [(trigger.fate?_apply channel id).2 hit]

/-- A request that is taken out is resolved, so those that wait stay the unresolved ones. -/
theorem isPending_apply_iff {id : RequestId}
    (same : channel.isPending id = true ↔ channel.fate? id = some none) :
    (trigger.apply channel).isPending id = true ↔ (trigger.apply channel).fate? id = some none := by
  rw [trigger.isPending_apply]
  by_cases hit : channel.isPending id = true ∧ trigger.Hits channel id
  · rw [(trigger.fate?_apply channel id).1 hit, same.mp hit.1]
    exact ⟨fun spared => absurd hit.2 spared.2, fun known => (by cases known)⟩
  · rw [(trigger.fate?_apply channel id).2 hit, ← same]
    exact ⟨fun waits => waits.1, fun waits => ⟨waits, fun about => hit ⟨waits, about⟩⟩⟩

end Trigger

/-! ## Accounts -/

/-- The identifier that the request after `n` others gets. -/
def RequestId.nth (n : Nat) : RequestId :=
  ⟨.ofNat (n + 1)⟩

/-- `Accounts past channel`: identifiers, waiting requests, futures and alarms are those of the
requests that were issued. -/
structure Accounts (past : List Moment) (channel : Channel) : Prop where
  /-- The next identifier is the one after those that were given. -/
  next : channel.ids.next = .nth (issues past).length
  named : (issues past).map Issue.id = (List.range (issues past).length).map RequestId.nth
  /-- There is a future for exactly the requests that were issued. -/
  made : ∀ id, (channel.fate? id).isSome = true ↔ ∃ issue ∈ issues past, issue.id = id
  /-- A request waits exactly as long as its future is unresolved. -/
  open_iff : ∀ id, channel.isPending id = true ↔ channel.fate? id = some none
  known : ∀ waiting ∈ channel.pending, ∃ issue ∈ issues past,
    issue.id = waiting.id ∧ issue.generation = waiting.generation
  timed : ∀ alarm ∈ channel.alarms, ∀ id timeout, alarm.purpose = .expire id timeout →
    ∃ issue ∈ issues past, issue.id = id ∧ issue.timeout = timeout

namespace AccountsLemmas

theorem issues_append (past : List Moment) (moment : Moment) :
    issues (past ++ [moment]) = issues past ++ moment.issue?.toList := by
  unfold issues
  rw [List.filterMap_append]
  cases issued : moment.issue? <;> simp [issued]

theorem issues_sublist {past earlier later : List Moment} (same : past = earlier ++ later) :
    (issues earlier).length ≤ (issues past).length ∧
      ∀ issue ∈ issues earlier, issue ∈ issues past := by
  subst same
  unfold issues
  rw [List.filterMap_append, List.length_append]
  exact ⟨Nat.le_add_right _ _, fun issue present => List.mem_append_left _ present⟩

/-- Earlier on, no more requests had been issued. -/
theorem few_of_append {earlier later : List Moment}
    (few : (issues (earlier ++ later)).length < UInt64.size) :
    (issues earlier).length < UInt64.size :=
  Nat.lt_of_le_of_lt (issues_sublist rfl).1 few

theorem nth_injective {m n : Nat} (smaller : m + 1 < UInt64.size) (small : n + 1 < UInt64.size)
    (same : RequestId.nth m = RequestId.nth n) : m = n := by
  have words : UInt64.ofNat (m + 1) = UInt64.ofNat (n + 1) := congrArg RequestId.value same
  have numbers := congrArg UInt64.toNat words
  rw [UInt64.toNat_ofNat_of_lt' smaller, UInt64.toNat_ofNat_of_lt' small] at numbers
  omega

/-- The request that a moment issues, in full. -/
theorem call_of_issue {moment : Moment} {issue : Issue} (issued : moment.issue? = some issue) :
    ∃ event data timeout, moment.call? = some (.request event data timeout) ∧
      issue =
        { id := moment.scene.channel.ids.peek
          generation := moment.scene.channel.link.generation
          timeout := timeout.getD moment.scene.channel.settings.requestTimeout } := by
  unfold Moment.issue? at issued
  split at issued
  · next event data timeout calls =>
      cases issued
      exact ⟨event, data, timeout, calls, rfl⟩
  · cases issued

end AccountsLemmas

open AccountsLemmas

namespace Accounts

variable {past : List Moment} {channel : Channel}

theorem nodup (accounts : Accounts past channel) (few : (issues past).length < UInt64.size) :
    ((issues past).map Issue.id).Nodup := by
  rw [accounts.named]
  refine List.Nodup.map_on (fun m left n right same => ?_) List.nodup_range
  rw [List.mem_range] at left right
  exact nth_injective (by omega) (by omega) same

/-- An identifier belongs to one issue. -/
theorem issue_unique (accounts : Accounts past channel) (few : (issues past).length < UInt64.size)
    {one two : Issue} (first : one ∈ issues past) (second : two ∈ issues past)
    (same : one.id = two.id) : one = two :=
  List.inj_on_of_nodup_map (accounts.nodup few) first second same

/-- The next identifier is new. -/
theorem fresh (accounts : Accounts past channel) (few : (issues past).length + 1 < UInt64.size) :
    ∀ issue ∈ issues past, issue.id ≠ channel.ids.peek := by
  intro issue present same
  have named : issue.id ∈ (issues past).map Issue.id := List.mem_map_of_mem present
  rw [accounts.named] at named
  obtain ⟨n, below, number⟩ := List.mem_map.mp named
  rw [List.mem_range] at below
  have next : RequestId.nth n = RequestId.nth (issues past).length := by
    rw [number, same]
    exact accounts.next
  have := nth_injective (by omega) (by omega) next
  omega

theorem start (settings : Settings) (draw : Nat → Nat) :
    Accounts [] (Scene.start settings draw).channel := by
  constructor
  · rfl
  · rfl
  · intro id
    exact ⟨fun made => (by cases made), fun ⟨_, present, _⟩ => absurd present List.not_mem_nil⟩
  · intro id
    exact ⟨fun waits => (by cases waits), fun known => (by cases known)⟩
  · exact fun _ present => absurd present List.not_mem_nil
  · exact fun _ present => absurd present List.not_mem_nil

/-- A moment that keeps requests and futures keeps the accounts. -/
theorem keep {all : List Moment} {after : Channel} (accounts : Accounts past channel)
    (kept : channel.Keeps after) (same : issues all = issues past) : Accounts all after := by
  refine ⟨by rw [kept.ids, same, accounts.next], by rw [same, accounts.named], fun id => ?_,
    fun id => ?_, ?_, ?_⟩
  · rw [kept.fate, same]
    exact accounts.made id
  · rw [kept.isPending, kept.fate]
    exact accounts.open_iff id
  · rw [kept.pending, same]
    exact accounts.known
  · intro alarm present id timeout purpose
    rw [same]
    rcases kept.alarms alarm present with before | retry
    · exact accounts.timed alarm before id timeout purpose
    · rw [retry] at purpose
      cases purpose

/-- A trigger keeps the accounts: what it takes out it resolves. -/
theorem apply {all : List Moment} (accounts : Accounts past channel) (trigger : Trigger)
    (same : issues all = issues past) : Accounts all (trigger.apply channel) := by
  refine ⟨by rw [trigger.ids_apply, same, accounts.next], by rw [same, accounts.named],
    fun id => ?_, fun id => trigger.isPending_apply_iff channel (accounts.open_iff id), ?_, ?_⟩
  · rw [same, trigger.isSome_fate?_apply, accounts.made id]
  · rw [same]
    intro waiting present
    exact accounts.known waiting ((trigger.mem_apply channel).1 waiting present)
  · rw [same]
    intro alarm present
    exact accounts.timed alarm ((trigger.mem_apply channel).2 alarm present)

/-- A registration enters the request that is issued. -/
theorem register {all : List Moment} {issue : Issue} (accounts : Accounts past channel)
    (few : (issues past).length + 1 < UInt64.size) (same : issues all = issues past ++ [issue])
    (named : issue.id = channel.ids.peek) (event : String) :
    Accounts all (Channel.register { channel with ids := channel.ids.take.2 } channel.ids.peek event
      issue.generation issue.timeout) := by
  have unmade : channel.fate? channel.ids.peek = none := by
    refine Option.not_isSome_iff_eq_none.mp fun made => ?_
    obtain ⟨other, present, equal⟩ := (accounts.made _).mp made
    exact accounts.fresh few other present equal
  refine ⟨?_, ?_, fun id => ?_, fun id => ?_, ?_, ?_⟩
  · rw [Channel.ids_register, same, List.length_append]
    show (⟨⟨channel.ids.next.value + 1⟩⟩ : RequestIds).next = _
    rw [accounts.next]
    simp only [RequestId.nth, List.length_singleton, UInt64.ofNat_add]
    rfl
  · rw [same, List.map_append, List.length_append, List.length_singleton, List.range_succ,
      List.map_append, accounts.named]
    simp only [List.map_cons, List.map_nil, named]
    rw [← accounts.next]
    rfl
  · rw [Channel.fate?_register, same, Option.isSome_or, Bool.or_eq_true]
    show (channel.fate? id).isSome = true ∨ _ ↔ _
    rw [accounts.made id]
    simp only [List.mem_append, List.mem_singleton]
    constructor
    · rintro (⟨other, present, equal⟩ | new)
      · exact ⟨other, Or.inl present, equal⟩
      · refine ⟨issue, Or.inr rfl, ?_⟩
        by_cases equal : channel.ids.peek = id
        · rw [named, equal]
        · simp [equal] at new
    · rintro ⟨other, present | new, equal⟩
      · exact Or.inl ⟨other, present, equal⟩
      · right
        rw [new, named] at equal
        simp [equal]
  · -- a request waits with its future unresolved, and there was no future of that name
    rw [Channel.fate?_register, Channel.isPending_register, Bool.or_eq_true, decide_eq_true_eq]
    show channel.isPending id = true ∨ _ ↔ (channel.fate? id).or _ = _
    rw [accounts.open_iff id]
    by_cases equal : channel.ids.peek = id
    · subst equal
      simp [unmade]
    · simp [equal]
  · intro waiting present
    rw [same]
    rcases Channel.mem_register _ _ _ _ _ present with
      ⟨equal, generation⟩ | ⟨before, old, equal, generation⟩
    · exact ⟨issue, List.mem_append_right _ (List.mem_singleton_self _), by rw [named, equal],
        generation.symm⟩
    · obtain ⟨other, known, id, old⟩ := accounts.known before old
      exact ⟨other, List.mem_append_left _ known, id.trans equal, old.trans generation⟩
  · intro alarm present id timeout purpose
    rw [same]
    rcases Channel.mem_alarms_register _ _ _ _ _ present with old | new
    · obtain ⟨other, known, timed⟩ := accounts.timed alarm old id timeout purpose
      exact ⟨other, List.mem_append_left _ known, timed⟩
    · rw [new] at purpose
      cases purpose
      exact ⟨issue, List.mem_append_right _ (List.mem_singleton_self _), named, rfl⟩

end Accounts

namespace Course

variable {settings : Settings} {draw : Nat → Nat} {past : List Moment} {channel : Channel}

/-- The accounts hold on every course. -/
theorem accounts (course : Course (Scene.start settings draw).channel past channel)
    (few : (issues past).length < UInt64.size) : Accounts past channel := by
  induction course with
  | start => exact .start settings draw
  | @step past moment _ _ ih =>
      have all := issues_append past moment
      have before := ih (few_of_append few)
      cases issued : moment.issue? with
      | some issue =>
          rw [issued] at all
          obtain ⟨name, data, timeout, calls, rfl⟩ := call_of_issue issued
          rw [Moment.registers calls]
          rw [all, List.length_append] at few
          exact before.register few all rfl name
      | none =>
          rw [issued, Option.toList_none, List.append_nil] at all
          cases acts : moment.trigger? with
          | some trigger =>
              rw [Moment.triggers acts]
              exact before.apply trigger all
          | none => exact before.keep (Moment.keeps issued acts) all

end Course

namespace Run

variable {settings : Settings} {draw : Nat → Nat} {past : List Moment} {scene : Scene}

/-- The accounts hold in every run. -/
theorem accounts (run : Run (.start settings draw) past scene)
    (few : (issues past).length < UInt64.size) : Accounts past scene.channel :=
  run.course.accounts few

end Run

end Intercom
