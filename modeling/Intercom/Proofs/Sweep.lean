import Mathlib
import Intercom.Proofs.Interleaving
import Intercom.Proofs.Retry
import Intercom.Proofs.Settlement

/-!
# What the close of a socket leaves behind

A close is taken in in two sections: the first lets go of the socket, the second sweeps out the
requests that wait on it. A request is made in two sections as well: the first registers it and
looks which socket is owned, the second hands its frame to that socket. Any number of threads may be
in between.

A request that still finds the socket was registered before the first section of the close, and the
sweep takes it out. One that comes later finds another socket or none.

Results:
1. `Moment.gone_of_closed`, `Moment.gone_after`: the first section of a close lets go of the socket,
   and from then on no request finds it.
2. `Course.stays_absent`: a request that waits no more never waits again.
3. `swept_for_good`: what a sweep takes out, what it leaves, and that no request which found the
   socket waits from then on.
-/

namespace Intercom

open AccountsLemmas

/-! ## Definitions -/

/-- Every close that is taken in is that of a socket which was spawned. A socket tells nothing
before, so this is about a client that speaks in the place of a socket. How often a socket closes
makes no difference here. -/
def ClosesSpawned (past : List Moment) : Prop :=
  ∀ moment ∈ past, ∀ generation, moment.closed? = some generation →
    (moment.scene.channel.handle? generation).isSome = true

/-- The socket of a generation was let go of for good. -/
structure Gone (generation : Nat) (channel : Channel) : Prop where
  spawned : generation ≤ channel.link.generation
  free : channel.link.socket ≠ some generation

/-- What has become of the requests, in the channel to which `earlier`, the sweep and `later` have
led. -/
structure Swept (earlier : List Moment) (sweep : Moment) (later : List Moment) (generation : Nat)
    (channel : Channel) : Prop where
  /-- The sweep takes out the requests on that generation and those before, and leaves the rest. -/
  exact : sweep.after.channel.pending =
    sweep.scene.channel.pending.filter fun waiting => generation < waiting.generation
  /-- No request that was issued before the sweep on such a generation waits. -/
  issued : ∀ issue ∈ issues earlier, issue.generation ≤ generation →
    channel.isPending issue.id = false
  /-- No request that found the socket waits, whenever it was issued. -/
  obtained : ∀ moment ∈ earlier ++ sweep :: later, ∀ issue, moment.issue? = some issue →
    moment.scene.channel.link.socket = some generation → channel.isPending issue.id = false
  /-- No request waits whose frame was handed to the socket, before the sweep or after it. -/
  handed : ∀ moment ∈ earlier ++ sweep :: later, ∀ request,
    moment.effect = .send generation request → channel.isPending request.id = false

/-! ## The socket -/

namespace Moment

variable {moment : Moment} {generation : Nat}

/-- A socket that was let go of for good is not owned again. -/
theorem gone_after (gone : Gone generation moment.scene.channel) :
    Gone generation moment.after.channel := by
  refine ⟨Nat.le_trans gone.spawned moment.generation_le, ?_⟩
  have socket := congrArg Core.socket moment.core_after
  change moment.after.channel.link.socket = _ at socket
  rw [socket]
  cases moment.move with
  | spawn =>
      intro owned
      have number : moment.scene.channel.link.generation + 1 = generation := Option.some.inj owned
      have := gone.spawned
      omega
  | disconnect | lose =>
      intro owned
      cases owned
  | greet | keep => exact gone.free

/-- The first section of a close lets go of the socket for good. -/
theorem gone_of_closed {settings : Settings} {draw : Nat → Nat} {past : List Moment}
    (course : Course (Scene.start settings draw).channel past moment.scene.channel)
    (closes : moment.closed? = some generation)
    (spawned : (moment.scene.channel.handle? generation).isSome = true) :
    Gone generation moment.after.channel := by
  have known := Channel.mem_generations spawned
  rw [course.generations, List.mem_range'_1] at known
  obtain ⟨closing, taken⟩ := closed?_eq_some.mp closes
  have effect := effect_of_notice taken
  by_cases current : moment.scene.channel.link.generation = generation
  · -- the latest socket is lost
    have socket := congrArg Core.socket moment.core_after
    have loses : moment.move = .lose := by
      simp [move, effect, Task.effect, current, Effect.move]
    rw [loses] at socket
    refine ⟨current ▸ moment.generation_le, ?_⟩
    change moment.after.channel.link.socket = none at socket
    intro owned
    cases socket.symm.trans owned
  · -- an owned socket is the latest one, and this one is not
    have gone : Gone generation moment.scene.channel :=
      ⟨by omega, fun owned => current (course.latest owned)⟩
    exact gone_after gone

end Moment

namespace Interleaving

variable {settings : Settings} {draw : Nat → Nat} {earlier later : List Moment} {sweep : Moment}
  {shared : Shared} {generation : Nat}

/-- A sweep follows the first section of the close, and the socket was let go of in it. -/
theorem gone (reached : Interleaving (.start settings draw) (earlier ++ sweep :: later) shared)
    (spawned : ClosesSpawned earlier) (sweeps : sweep.task? = some (.sweep generation)) :
    Gone generation sweep.scene.channel := by
  obtain ⟨close, present, origin⟩ := reached.origin_of_task (fun _ => rfl) sweeps rfl
  cases origin with
  | sweep taken =>
      have closes := Moment.closed?_eq_some.mpr ⟨_, taken⟩
      obtain ⟨before, between, rfl⟩ := List.mem_iff_append.mp present
      obtain ⟨begins, _, onward⟩ := reached.course.at_moment.1.at_moment
      have gone := Moment.gone_of_closed begins closes (spawned close (by simp) generation closes)
      exact (onward.preserves (Gone generation) (fun _ => Moment.gone_after) gone).1

end Interleaving

/-! ## The requests -/

namespace Channel

variable {channel : Channel} {generation : Nat}

theorem lt_of_mem_rejectThrough {waiting : Waiting}
    (present : waiting ∈ (channel.rejectThrough generation).pending) :
    generation < waiting.generation := by
  rw [rejectThrough_eq, pending_settleEach, List.mem_filter, List.all_eq_true] at present
  by_contra old
  have stale : waiting ∈ channel.pending.filter fun waiting => waiting.generation ≤ generation := by
    simp [present.1, Nat.le_of_not_lt old]
  simpa using present.2 waiting stale

/-- A sweep goes by the generation alone, as long as an identifier tells the generation. -/
theorem pending_rejectThrough
    (tells : ∀ one ∈ channel.pending, ∀ two ∈ channel.pending, one.id = two.id →
      one.generation = two.generation) :
    (channel.rejectThrough generation).pending =
      channel.pending.filter fun waiting => generation < waiting.generation := by
  rw [rejectThrough_eq, pending_settleEach]
  refine List.filter_congr fun waiting present => ?_
  rw [Bool.eq_iff_iff, List.all_eq_true, decide_eq_true_eq]
  constructor
  · intro spared
    by_contra old
    simpa using spared waiting (by simp [present, Nat.le_of_not_lt old])
  · intro new other stale
    simp only [List.mem_filter, decide_eq_true_eq] at stale
    rw [bne_iff_ne]
    intro same
    have := tells other stale.1 waiting present same
    omega

end Channel

namespace Accounts

variable {past : List Moment} {channel : Channel}

/-- A request that waits is one of those that were issued, and waits on its generation. -/
theorem generation_of_waiting (accounts : Accounts past channel)
    (few : (issues past).length < UInt64.size) {waiting : Waiting}
    (present : waiting ∈ channel.pending) {issue : Issue} (issued : issue ∈ issues past)
    (same : issue.id = waiting.id) : waiting.generation = issue.generation := by
  obtain ⟨other, known, id, made⟩ := accounts.known waiting present
  rw [← made, accounts.issue_unique few known issued (id.trans same.symm)]

end Accounts

namespace Course

variable {settings : Settings} {draw : Nat → Nat} {earlier later : List Moment}
  {middle last : Channel} {issue : Issue}

/-- A request that waits no more never waits again. -/
theorem stays_absent (before : Course (Scene.start settings draw).channel earlier middle)
    (onward : Course middle later last) (few : (issues (earlier ++ later)).length < UInt64.size)
    (issued : issue ∈ issues earlier) (absent : middle.isPending issue.id = false) :
    last.isPending issue.id = false := by
  induction onward with
  | start => exact absent
  | @step later moment onward _ ih =>
      rw [← List.append_assoc] at few
      have fewer := few_of_append few
      have absent := ih fewer
      have accounts := (before.trans onward).accounts fewer
      have left := SettlementLemmas.spared accounts few ((issues_sublist rfl).2 issue issued)
        fun trigger _ hit => by
          rw [absent] at hit
          cases hit.1
      exact left.1.trans absent

end Course

namespace SweepLemmas

variable {settings : Settings} {draw : Nat → Nat} {earlier later : List Moment}
  {sweep moment : Moment} {shared : Shared} {generation : Nat} {issue : Issue}

theorem after_sweep (sweeps : sweep.task? = some (.sweep generation)) :
    sweep.after.channel = sweep.scene.channel.rejectThrough generation :=
  (Moment.work_of_task sweeps).2.1

/-- A request on a generation that was swept waits no more. -/
theorem absent_of_issued
    (course : Course (Scene.start settings draw).channel (earlier ++ sweep :: later) shared.channel)
    (few : (issues (earlier ++ sweep :: later)).length < UInt64.size)
    (sweeps : sweep.task? = some (.sweep generation)) (issued : issue ∈ issues earlier)
    (old : issue.generation ≤ generation) : shared.channel.isPending issue.id = false := by
  obtain ⟨begins, allowed, onward⟩ := course.at_moment
  have through := begins.step allowed
  rw [List.append_cons] at few
  have known : issue ∈ issues (earlier ++ [sweep]) := (issues_sublist rfl).2 issue issued
  refine through.stays_absent onward few known ?_
  rw [Bool.eq_false_iff]
  intro waits
  obtain ⟨waiting, present, same⟩ := Channel.isPending_iff.mp waits
  have fewer := few_of_append few
  have number := (through.accounts fewer).generation_of_waiting fewer present known same.symm
  rw [after_sweep sweeps] at present
  have := Channel.lt_of_mem_rejectThrough present
  omega

/-- A request is issued on the generation of the socket that it finds. -/
theorem generation_of_socket
    (course : Course (Scene.start settings draw).channel earlier moment.scene.channel)
    (made : moment.issue? = some issue)
    (owned : moment.scene.channel.link.socket = some generation) :
    issue.generation = generation := by
  obtain ⟨_, _, _, _, rfl⟩ := call_of_issue made
  exact course.latest owned

end SweepLemmas

open SweepLemmas

/-! ## The sweep -/

/-- However threads work on a channel: a sweep leaves only requests on later generations, and from
then on no request finds the socket. As long as the identifiers last, it leaves all of these
requests, and no request that ever found the socket waits from then on. -/
theorem swept_for_good {settings : Settings} {draw : Nat → Nat} {earlier later : List Moment}
    {sweep : Moment} {shared : Shared} {generation : Nat}
    (reached : Interleaving (.start settings draw) (earlier ++ sweep :: later) shared)
    (spawned : ClosesSpawned earlier) (sweeps : sweep.task? = some (.sweep generation)) :
    (∀ waiting ∈ sweep.after.channel.pending, generation < waiting.generation) ∧
      (∀ moment ∈ sweep :: later, moment.scene.channel.link.socket ≠ some generation) ∧
      ((issues (earlier ++ sweep :: later)).length < UInt64.size →
        Swept earlier sweep later generation shared.channel) := by
  have course : Course (Scene.start settings draw).channel _ shared.channel := reached.course
  obtain ⟨begins, _, onward⟩ := course.at_moment
  have gone := reached.gone spawned sweeps
  have never : ∀ moment ∈ sweep :: later,
      moment.scene.channel.link.socket ≠ some generation := by
    intro moment present
    rcases List.mem_cons.mp present with rfl | after
    · exact gone.free
    · have preserved := onward.preserves (Gone generation) (fun _ => Moment.gone_after)
        (Moment.gone_after gone)
      exact (preserved.2 moment after).free
  refine ⟨fun waiting present => ?_, never, fun few => ?_⟩
  · rw [after_sweep sweeps] at present
    exact Channel.lt_of_mem_rejectThrough present
  have obtained : ∀ moment ∈ earlier ++ sweep :: later, ∀ issue, moment.issue? = some issue →
      moment.scene.channel.link.socket = some generation →
      shared.channel.isPending issue.id = false := by
    intro moment present issue made owned
    rcases List.mem_append.mp present with before | after
    · refine absent_of_issued course few sweeps (List.mem_filterMap.mpr ⟨moment, before, made⟩) ?_
      obtain ⟨_, _, rfl⟩ := List.mem_iff_append.mp before
      exact Nat.le_of_eq (generation_of_socket begins.at_moment.1 made owned)
    · exact absurd owned (never moment after)
  constructor
  · have fewer := few_of_append few
    have accounts := begins.accounts fewer
    rw [after_sweep sweeps]
    refine Channel.pending_rejectThrough fun one first two second same => ?_
    obtain ⟨issue, issued, id, made⟩ := accounts.known one first
    rw [accounts.generation_of_waiting fewer second issued (id.trans same), made]
  · exact fun issue issued old => absent_of_issued course few sweeps issued old
  · exact obtained
  · intro moment present request sends
    have cause := moment.cause
    rw [sends] at cause
    cases cause with
    | send carried _ =>
        -- the frame is of a request that found the socket
        obtain ⟨before, after, joined⟩ := List.mem_iff_append.mp present
        rw [joined] at reached
        obtain ⟨call, known, origin⟩ := reached.origin_of_task (fun _ => rfl) carried rfl
        generalize same : some generation = socket at origin
        cases origin with
        | send calls =>
            refine obtained call ?_ _ (by rw [Moment.issue?, calls]) same.symm
            rw [joined]
            exact List.mem_append_left _ known

/-- One request finds the socket before it closes, a second one is issued after the first section of
the close, and a third one once another socket is owned. -/
def closing : List (Nat × Event) :=
  let request := Call.request "status" none none
  [(0, .call none .connect), (1, .call none request),
    (2, .socket 1 (.closed (.abnormal "stream ended"))), (3, .call none request),
    (0, .call none .connect), (4, .call none request)]

/-- The sweep comes after all of `closing`, and the first request is sent after the sweep. -/
theorem swept_for_good_closing : ∃ earlier sweep later shared,
    Interleaving (.start default fun _ => 0) (earlier ++ sweep :: later) shared ∧
      ClosesSpawned earlier ∧ sweep.task? = some (.sweep 1) ∧
      sweep.scene.channel.pending.map Waiting.generation = [1, 1, 2] ∧
      (∀ waiting ∈ sweep.after.channel.pending, 1 < waiting.generation) ∧
      (∀ moment ∈ sweep :: later, moment.scene.channel.link.socket ≠ some 1) ∧
      Swept earlier sweep later 1 shared.channel := by
  have seen : (((Shared.start default fun _ => 0).play [] closing).map fun played =>
      (played.1.length, played.2.threads 1, played.2.threads 2,
        played.2.channel.pending.map Waiting.generation,
        played.1.all fun moment => moment.closed?.all fun generation =>
          (moment.scene.channel.handle? generation).isSome)) =
      some (6, [.send (some 1) (.make ⟨1⟩ "status" none)],
        [.sweep 1, .announceClose (.abnormal "stream ended")], [1, 1, 2], true) := by
    cbv
  obtain ⟨⟨earlier, shared⟩, played, views⟩ := Option.map_eq_some_iff.mp seen
  simp only [Prod.mk.injEq] at views
  obtain ⟨length, send, sweep, waiting, closes⟩ := views
  have reached := Shared.interleaving_of_play .start played
  have swept : Interleaving _ (earlier ++ [⟨shared.scene 2, .work⟩]) (shared.after 2 .work) :=
    reached.step 2 (by rw [Shared.scene, sweep]; rfl)
  have sent : Interleaving (.start default fun _ => 0)
      (earlier ++ ⟨shared.scene 2, .work⟩ :: [⟨(shared.after 2 .work).scene 1, .work⟩])
      ((shared.after 2 .work).after 1 .work) := by
    rw [List.append_cons]
    refine swept.step 1 ?_
    rw [Shared.scene, shared.threads_after_of_ne (by decide), send]
    rfl
  have carried : Moment.task? ⟨shared.scene 2, .work⟩ = some (.sweep 1) := by
    rw [Shared.scene, sweep]
    rfl
  have spawned : ClosesSpawned earlier := by
    intro moment present generation told
    have all := List.all_eq_true.mp closes moment present
    rwa [told, Option.all_some] at all
  obtain ⟨left, never, exact⟩ := swept_for_good sent spawned carried
  refine ⟨earlier, _, _, _, sent, spawned, carried, waiting, left, never, exact ?_⟩
  refine Nat.lt_of_le_of_lt (List.length_filterMap_le _ _) ?_
  rw [List.length_append, length]
  show 8 < UInt64.size
  decide

end Intercom
