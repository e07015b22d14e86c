import Mathlib
import Intercom.Proofs.Readiness

/-!
# When the connect callback runs

The connect callback is meant to run once for each socket, when the channel becomes ready. It runs
at a greeting that finds the ready flag unset. To disconnect clears the flag, but the generation
stays, and a socket that was let go may still greet until it closes. Such a greeting sets the flag
again, and the callback runs although no socket is owned.

Results:
1. `announced_status`: when the callback starts, the channel is ready unless it disconnected since
   the latest socket was spawned, and if it did, it is disconnected.
2. `invoked_once`: a socket makes the callback run more than once exactly if the channel disconnects
   between two of its greetings.
-/

namespace Intercom

/-! ## Definitions -/

namespace Moment

/-- Whether the moment is the turn of the connect callback, after a greeting by the socket of
`generation`. -/
def announces (generation : Nat) (moment : Moment) : Bool :=
  match moment.task? with
  | some (.announceReady speaker) => speaker = generation
  | _ => false

/-- Whether the connect callback starts, after a greeting by the socket of `generation`. -/
def invokes (generation : Nat) (moment : Moment) : Bool :=
  moment.announces generation && moment.scene.channel.onConnect.isSome

/-- The moment acts on a greeting by the socket of `generation`, which is the latest one. -/
def Hails (generation : Nat) (moment : Moment) : Prop :=
  moment.scene.channel.link.generation = generation ∧ ∃ push, moment.move = .greet push

theorem announces_iff {moment : Moment} {generation : Nat} :
    moment.announces generation = true ↔ moment.task? = some (.announceReady generation) := by
  unfold announces
  split
  · next speaker carried => simp [carried]
  · next other =>
      refine ⟨fun never => (by cases never), fun carried => ?_⟩
      exact absurd carried (other generation)

end Moment

/-- The channel disconnected between two greetings by the socket of `generation`. -/
def Rehailed (generation : Nat) (past : List Moment) : Prop :=
  ∃ (earlier between middle later : List Moment) (first release second : Moment),
    past = earlier ++ first :: (between ++ release :: (middle ++ second :: later)) ∧
      first.Hails generation ∧ release.move = .disconnect ∧ second.Hails generation

/-- The moments `later` are those since the socket of `generation` was spawned, and no other socket
was spawned in them. -/
def SinceSpawn (generation : Nat) (past later : List Moment) : Prop :=
  (∃ (before : List Moment) (spawn : Moment), past = before ++ spawn :: later ∧
      spawn.move = .spawn ∧ spawn.after.channel.link.socket = some generation) ∧
    ∀ other ∈ later, other.move ≠ .spawn

/-! ## The greeting before the callback -/

namespace Moment

/-- A greeting that finds the ready flag unset gives the callback its turn. -/
theorem leads_of_hail {moment : Moment} {generation : Nat} (hails : moment.Hails generation)
    (cold : moment.scene.channel.link.ready = false) :
    moment.leads.head? = some (.announceReady generation) := by
  obtain ⟨current, push, greets⟩ := hails
  obtain ⟨carried, hello⟩ := greet_iff.mp greets
  rw [leads_of_task carried, current]
  simp [Task.run, Channel.greet, hello, current, cold]

theorem ready_of_hail {moment : Moment} {generation : Nat} (hails : moment.Hails generation) :
    moment.after.channel.link.ready = true ∧
      moment.after.channel.link.generation = generation := by
  obtain ⟨current, push, greets⟩ := hails
  have after := moment.core_after
  rw [greets] at after
  exact ⟨congrArg Core.ready after, (congrArg Core.generation after).trans current⟩

end Moment

namespace Run

variable {settings : Settings} {draw : Nat → Nat} {first scene : Scene}
  {past earlier later : List Moment} {moment : Moment} {generation : Nat}

/-- The callback gets its turn directly after a greeting that found the ready flag unset. -/
theorem hail_of_announce (run : Run (.start settings draw) past moment.scene)
    (carried : moment.task? = some (.announceReady generation)) :
    ∃ (before : List Moment) (greeting : Moment) (push : Push) (rest : Agenda),
      past = before ++ [greeting] ∧ Run (.start settings draw) before greeting.scene ∧
      moment.scene = greeting.after ∧ greeting.scene.agenda = .dispatch generation push :: rest ∧
      greeting.Hails generation ∧ greeting.scene.channel.link.ready = false := by
  obtain ⟨_, _, left, agenda⟩ := Moment.work_of_task carried
  obtain ⟨before, greeting, same, reached, after, origin⟩ := run.origin rfl agenda rfl
  cases origin with
  | @announceReady _ push acts hello current cold =>
      obtain ⟨_, _, rest, waiting⟩ := Moment.work_of_task acts
      have greets : greeting.move = .greet push :=
        Moment.greet_iff.mpr ⟨by rw [current]; exact acts, hello⟩
      exact ⟨before, greeting, push, rest, same, reached, after, waiting,
        ⟨current, push, greets⟩, cold⟩

end Run

/-! ## The status in the callback -/

/-- When the connect callback starts in a lawful run, the latest socket is the one that has greeted.
If the channel has not disconnected since that socket was spawned, the channel is ready. If it has,
the channel is disconnected, and the callback starts all the same. -/
theorem announced_status {settings : Settings} {draw : Nat → Nat} {past : List Moment}
    {moment : Moment} {generation : Nat} (run : Run (.start settings draw) past moment.scene)
    (lawful : Lawful past) (carried : moment.task? = some (.announceReady generation)) :
    moment.scene.channel.link.generation = generation ∧ ∃ later, SinceSpawn generation past later ∧
      ((∀ other ∈ later, other.move ≠ .disconnect) → moment.scene.channel.status = .ready) ∧
      ((∃ other ∈ later, other.move = .disconnect) →
        moment.scene.channel.status = .disconnected) := by
  obtain ⟨earlier, greeting, push, rest, same, reached, after, agenda, hails, _⟩ :=
    run.hail_of_announce carried
  obtain ⟨ready, number⟩ := Moment.ready_of_hail hails
  rw [← after] at ready number
  refine ⟨number, ?_⟩
  have lawfulBefore : Lawful earlier := by
    rw [same] at lawful
    exact lawful.past_of_append
  have stays : greeting.move ≠ .lose := by
    obtain ⟨_, push, greets⟩ := hails
    simp [greets]
  have isOpen : moment.scene.channel.isOpen generation = true := by
    have before := reached.open_of_dispatch lawfulBefore agenda
    rw [same] at run
    rw [after]
    exact Moment.isOpen_mono run.last.2.1 hails.1 stays before
  rcases run.since with ⟨zero, _⟩ | ⟨before, spawn, later, split, since⟩
  · -- the socket that has greeted was spawned
    have positive := reached.dispatch_pos lawfulBefore agenda
    omega
  -- Since the spawn the socket was not lost, so only a disconnection can have dropped it.
  have kept : ∀ other ∈ later, other.move ≠ .lose := by
    intro other present
    have known : other ∈ earlier ++ [greeting] := by
      rw [← same, split]
      simp [present]
    rcases List.mem_append.mp known with old | new
    · exact reached.not_lost lawfulBefore agenda old ((since.latest other present).2.trans number)
    · rw [List.mem_singleton.mp new]
      exact stays
  refine ⟨later, ⟨⟨before, spawn, split, since.spawned, ?_⟩, ?_⟩, ?_, ?_⟩
  · rw [← number]
    exact since.born
  · intro other present
    exact (since.latest other present).1
  · intro calm
    have owned := since.owned fun other present drops =>
      drops.elim (calm other present) (kept other present)
    refine (Channel.status_ready_iff _).mpr ⟨generation, ?_, isOpen, ready⟩
    rw [← number]
    exact owned
  · rintro ⟨other, present, disconnects⟩
    exact Channel.status_of_free (since.dropped ⟨other, present, Or.inl disconnects⟩)

/-- A socket that is let go before it opens, and greets before it closes. -/
def lateHello : List Event :=
  [.call none (.onConnect (.make "connected" [] none)), .call none .connect, .call none .disconnect,
    .work, .socket 1 .opened, .socket 1 (.message "\x7b\"event\":\"hello\"\x7d"), .work, .work]

theorem announced_status_lateHello : ∃ past scene,
    (Scene.start default fun _ => 0).play [] lateHello = some (past, scene) ∧ Lawful past ∧
      Moment.invokes 1 ⟨scene, .work⟩ = true ∧ scene.channel.status = .disconnected ∧
      scene.channel.link.generation = 1 ∧ ∃ later, SinceSpawn 1 past later ∧
        ((∀ other ∈ later, other.move ≠ .disconnect) → scene.channel.status = .ready) ∧
        ((∃ other ∈ later, other.move = .disconnect) → scene.channel.status = .disconnected) := by
  have seen : (((Scene.start default fun _ => 0).play [] lateHello).map fun played =>
      (played.1.all fun moment => !moment.forges, Moment.invokes 1 ⟨played.2, .work⟩,
        played.2.channel.status)) = some (true, true, .disconnected) := by
    cbv
  obtain ⟨⟨past, scene⟩, played, views⟩ := Option.map_eq_some_iff.mp seen
  obtain ⟨unforged, starts, status⟩ := Prod.mk.inj views |>.imp_right Prod.mk.inj
  have lawful : Lawful past := .of_play played unforged (by decide)
  have announces : Moment.announces 1 ⟨scene, .work⟩ = true := (Bool.and_eq_true_iff.mp starts).1
  have carried := Moment.announces_iff.mp announces
  have shown := @announced_status _ _ past ⟨scene, .work⟩ 1 (Scene.run_of_play .start played) lawful
    carried
  exact ⟨past, scene, played, lawful, starts, status, shown⟩

/-! ## Between two greetings -/

namespace Run

variable {settings : Settings} {draw : Nat → Nat} {first scene : Scene}
  {past earlier later : List Moment} {moment : Moment} {generation : Nat}

/-- The generation grows, and by a spawn it grows at once. -/
theorem generation_mono (run : Run first (earlier ++ moment :: later) scene) :
    moment.scene.channel.link.generation ≤ scene.channel.link.generation ∧
      (moment.move = .spawn →
        moment.scene.channel.link.generation < scene.channel.link.generation) := by
  obtain ⟨_, _, onward⟩ := run.course.at_moment
  have grown := onward.generation_le
  refine ⟨Nat.le_trans moment.generation_le grown, fun spawns => ?_⟩
  have number := congrArg Core.generation moment.core_after
  rw [spawns] at number
  change moment.after.channel.link.generation = moment.scene.channel.link.generation + 1 at number
  omega

/-- The ready flag stays set as long as no socket is spawned and none is dropped. -/
theorem ready_of_calm (run : Run first (earlier ++ later) scene)
    (warm : ∀ point, Run first earlier point → point.channel.link.ready = true)
    (calm : ∀ moment ∈ later, moment.move ≠ .spawn ∧ ¬ moment.Drops) :
    scene.channel.link.ready = true := by
  induction later using List.reverseRecOn generalizing scene with
  | nil =>
      rw [List.append_nil] at run
      exact warm scene run
  | append_singleton later final ih =>
      rw [← List.append_assoc] at run
      have before := ih run.last.1 fun moment old => calm moment (List.mem_append_left _ old)
      obtain ⟨stays, keeps⟩ := calm final (by simp)
      rw [run.last.2.2]
      refine (congrArg Core.ready final.core_after).trans ?_
      cases moves : final.move with
      | spawn => exact absurd moves stays
      | disconnect => exact absurd (Or.inl moves) keeps
      | lose => exact absurd (Or.inr moves) keeps
      | greet => rfl
      | keep => exact before

/-- Once the ready flag is set, a greeting found it unset, and no socket was spawned since. -/
theorem hail_of_ready (run : Run first (earlier ++ later) scene)
    (cold : ∀ point, Run first earlier point → point.channel.link.ready = false)
    (ready : scene.channel.link.ready = true) :
    ∃ (before after : List Moment) (greeting : Moment), later = before ++ greeting :: after ∧
      greeting.Hails scene.channel.link.generation ∧ greeting.scene.channel.link.ready = false := by
  induction later using List.reverseRecOn generalizing scene with
  | nil =>
      rw [List.append_nil] at run
      cases (cold scene run).symm.trans ready
  | append_singleton later final ih =>
      rw [← List.append_assoc] at run
      have core := final.core_after
      rw [run.last.2.2] at ready ⊢
      -- if the flag was set before the last moment too, the greeting is an earlier one
      have extend (before : final.scene.channel.link.ready = true)
          (number : final.after.channel.link.generation = final.scene.channel.link.generation) :
          ∃ (front after : List Moment) (greeting : Moment),
            later ++ [final] = front ++ greeting :: after ∧
              greeting.Hails final.after.channel.link.generation ∧
              greeting.scene.channel.link.ready = false := by
        obtain ⟨front, after, greeting, same, hails, cold⟩ := ih run.last.1 before
        refine ⟨front, after ++ [final], greeting, ?_, ?_, cold⟩
        · rw [same, List.append_assoc, List.cons_append]
        · rw [number]
          exact hails
      cases moves : final.move with
      | spawn | disconnect | lose =>
          rw [moves] at core
          cases (congrArg Core.ready core).symm.trans ready
      | greet push =>
          rw [moves] at core
          have number := congrArg Core.generation core
          cases before : final.scene.channel.link.ready with
          | false => exact ⟨later, [], final, rfl, ⟨number.symm, push, moves⟩, before⟩
          | true => exact extend before number
      | keep =>
          rw [moves] at core
          exact extend ((congrArg Core.ready core).symm.trans ready) (congrArg Core.generation core)

/-- If the generation has not grown, no socket was spawned in between. -/
theorem same_generation (run : Run first (earlier ++ moment :: later) scene)
    (same : scene.channel.link.generation = moment.scene.channel.link.generation) :
    ∀ other ∈ moment :: later, other.move ≠ .spawn ∧
      other.scene.channel.link.generation = moment.scene.channel.link.generation := by
  intro other present
  obtain ⟨front, back, split⟩ := List.append_of_mem present
  rw [split, ← List.append_assoc] at run
  obtain ⟨grown, spawned⟩ := run.generation_mono
  have started : moment.scene.channel.link.generation ≤ other.scene.channel.link.generation := by
    cases front with
    | nil =>
        cases split
        exact Nat.le_refl _
    | cons head front =>
        cases split
        exact run.at_moment.1.generation_mono.1
  refine ⟨fun spawns => ?_, ?_⟩
  · have := spawned spawns
    omega
  · omega

/-- After a greeting the callback has had its turn, by the time someone has a turn again, if the
ready flag was unset at some point before. -/
theorem announces_of_hail (run : Run first (earlier ++ later) scene) (free : scene.free = true)
    (cold : ∀ point, Run first earlier point → point.channel.link.ready = false)
    (present : moment ∈ later) (hails : moment.Hails generation) :
    ∃ start ∈ later, start.announces generation = true := by
  obtain ⟨front, back, rfl⟩ := List.append_of_mem present
  have whole := run
  rw [← List.append_assoc] at whole
  obtain ⟨reached, allowed⟩ := whole.at_moment
  obtain ⟨ready, number⟩ := Moment.ready_of_hail hails
  have step : Run first (earlier ++ front ++ [moment]) moment.after := reached.step allowed
  rw [List.append_assoc] at step
  -- the greeting that set the flag may be an earlier one
  obtain ⟨before, after, greeting, same, greets, unset⟩ := step.hail_of_ready cold ready
  rw [number] at greets
  have split : front ++ moment :: back = before ++ greeting :: (after ++ back) := by
    rw [← List.singleton_append, ← List.append_assoc, same, List.append_assoc, List.cons_append]
  rw [split, ← List.append_assoc] at run
  obtain ⟨start, others, joined, _, carried⟩ :=
    run.follows (Moment.leads_of_hail greets unset) rfl free
  refine ⟨start, ?_, Moment.announces_iff.mpr carried⟩
  rw [split, joined]
  simp

/-- Between two turns of the callback that one socket has brought about, the channel disconnects. -/
theorem rehailed_of_two {start again : Moment} {between : List Moment}
    (run : Run (.start settings draw) (earlier ++ start :: (between ++ again :: later)) scene)
    (lawful : Lawful (earlier ++ start :: (between ++ again :: later)))
    (one : start.announces generation = true) (two : again.announces generation = true) :
    Rehailed generation (earlier ++ start :: (between ++ again :: later)) := by
  rw [Moment.announces_iff] at one two
  obtain ⟨before, greeting, _, _, rfl, _, warm, _, hails, _⟩ := run.at_moment.1.hail_of_announce one
  obtain ⟨ready, number⟩ := Moment.ready_of_hail hails
  rw [← warm] at ready number
  rw [← List.cons_append, ← List.append_assoc] at run lawful
  have reached := run.at_moment.1
  obtain ⟨prior, greeted, _, _, joined, arrived, _, agenda, rehails, cold⟩ :=
    reached.hail_of_announce two
  have keeps := Moment.move_of_task one
  rcases List.eq_nil_or_concat' between with rfl | ⟨middle, final, rfl⟩
  · -- the second greeting would be the first turn of the callback
    cases (List.append_inj' joined rfl).2
    obtain ⟨_, push, greets⟩ := rehails
    cases keeps.symm.trans greets
  · rw [← List.cons_append, ← List.append_assoc] at joined
    obtain ⟨rfl, single⟩ := List.append_inj' joined rfl
    cases single
    by_cases released : ∃ release ∈ middle, release.move = .disconnect
    · obtain ⟨release, present, disconnects⟩ := released
      obtain ⟨front, back, rfl⟩ := List.append_of_mem present
      refine ⟨before, start :: front, back, again :: later, greeting, release, greeted, ?_, hails,
        disconnects, rehails⟩
      simp
    · -- Nothing could have cleared the flag, which the second greeting found unset.
      exfalso
      have same := arrived.same_generation (rehails.1.trans number.symm)
      have calm : ∀ other ∈ start :: middle, other.move ≠ .spawn ∧ ¬ other.Drops := by
        intro other present
        obtain ⟨stays, still⟩ := same other present
        refine ⟨stays, fun drops => ?_⟩
        rcases drops with disconnects | loses
        · rcases List.mem_cons.mp present with rfl | later
          · cases keeps.symm.trans disconnects
          · exact released ⟨other, later, disconnects⟩
        · refine arrived.not_lost ?_ agenda (List.mem_append_right _ present)
            (still.trans number) loses
          rw [← List.cons_append, ← List.append_assoc] at lawful
          exact lawful.past_of_append.past_of_append
      have point : ∀ point, Run (.start settings draw) (before ++ [greeting]) point →
          point.channel.link.ready = true := by
        intro point there
        rw [there.last.2.2, ← warm]
        exact ready
      cases (arrived.ready_of_calm point calm).symm.trans cold

end Run

/-! ## How often the callback runs -/

namespace AnnouncementLemmas

/-- What is counted twice occurs at two places. -/
theorem two_of_countP {α : Type} {items : List α} {counts : α → Bool}
    (many : 1 < items.countP counts) : ∃ (earlier between later : List α) (one two : α),
      items = earlier ++ one :: (between ++ two :: later) ∧ counts one = true ∧
        counts two = true := by
  rw [List.countP_eq_length_filter] at many
  cases found : items.filter counts with
  | nil => simp [found] at many
  | cons one others =>
      obtain ⟨earlier, rest, rfl, _, first, left⟩ := List.filter_eq_cons_iff.mp found
      cases others with
      | nil => simp [found] at many
      | cons two others =>
          obtain ⟨between, later, rfl, _, second, _⟩ := List.filter_eq_cons_iff.mp left
          exact ⟨earlier, between, later, one, two, rfl, first, second⟩

end AnnouncementLemmas

open AnnouncementLemmas

/-- In a lawful run a socket makes the connect callback start once at most, unless the channel
disconnects between two greetings by that socket. If it does, the callback starts more than once, as
long as it is there when its turn comes and nothing else waits to be acted on. -/
theorem invoked_once {settings : Settings} {draw : Nat → Nat} {past : List Moment} {scene : Scene}
    (run : Run (.start settings draw) past scene) (lawful : Lawful past) (generation : Nat) :
    (¬ Rehailed generation past → past.countP (Moment.invokes generation) ≤ 1) ∧
      (Rehailed generation past → scene.free = true →
        (∀ moment ∈ past, moment.announces generation = true →
          moment.scene.channel.onConnect.isSome = true) →
        1 < past.countP (Moment.invokes generation)) := by
  constructor
  · intro single
    by_contra many
    rw [Nat.not_le] at many
    obtain ⟨earlier, between, later, start, again, rfl, one, two⟩ := two_of_countP many
    rw [Moment.invokes, Bool.and_eq_true] at one two
    exact single (run.rehailed_of_two lawful one.1 two.1)
  · rintro ⟨earlier, between, middle, later, hail, release, rehail, rfl, hails, disconnects,
      rehails⟩ free there
    have split : earlier ++ hail :: (between ++ release :: (middle ++ rehail :: later)) =
        (earlier ++ hail :: between) ++ release :: (middle ++ rehail :: later) := by simp
    rw [split] at run there ⊢
    obtain ⟨reached, allowed⟩ := run.at_moment
    have invokes :
        ∀ moment ∈ (earlier ++ hail :: between) ++ release :: (middle ++ rehail :: later),
          moment.announces generation = true → moment.invokes generation = true := by
      intro moment present announces
      rw [Moment.invokes, announces, there moment present announces]
      rfl
    -- The first greeting comes after the start, where the flag is unset.
    have before : 0 < (earlier ++ hail :: between).countP (Moment.invokes generation) := by
      have cold : ∀ point, Run (.start settings draw) [] point →
          point.channel.link.ready = false := by
        intro point none
        rw [none.nothing]
        rfl
      obtain ⟨start, present, announces⟩ := @Run.announces_of_hail _ _ [] _ hail generation reached
        (Moment.free_of_call allowed (Moment.call_of_move disconnects)) cold (by simp) hails
      rw [List.countP_pos_iff]
      exact ⟨start, present, invokes start (List.mem_append_left _ present) announces⟩
    -- The second greeting comes after the disconnection, which clears the flag.
    have after : 0 < (middle ++ rehail :: later).countP (Moment.invokes generation) := by
      have cold : ∀ point,
          Run (.start settings draw) (earlier ++ hail :: between ++ [release]) point →
            point.channel.link.ready = false := by
        intro point arrived
        rw [arrived.last.2.2]
        refine (congrArg Core.ready release.core_after).trans ?_
        rw [disconnects]
        rfl
      rw [List.append_cons (earlier ++ hail :: between) release] at run
      obtain ⟨start, present, announces⟩ := run.announces_of_hail free cold (by simp) rehails
      rw [List.countP_pos_iff]
      exact ⟨start, present,
        invokes start (List.mem_append_right _ (List.mem_cons_of_mem _ present)) announces⟩
    rw [List.countP_append, List.countP_cons]
    omega

/-- A socket that greets, is let go, and greets once more before it closes. -/
def helloAgain : List Event :=
  let hello := Event.socket 1 (.message "\x7b\"event\":\"hello\"\x7d")
  [.call none (.onConnect (.make "connected" [] none)), .call none .connect, .socket 1 .opened,
    hello, .work, .work, .work, .work, .work, .work, .call none .disconnect, .work,
    hello, .work, .work, .work, .work, .work, .work]

theorem invoked_once_helloAgain : ∃ past scene,
    (Scene.start default fun _ => 0).play [] helloAgain = some (past, scene) ∧ Lawful past ∧
      scene.free = true ∧ past.countP (Moment.invokes 1) = 2 ∧
      (¬ Rehailed 1 past → past.countP (Moment.invokes 1) ≤ 1) ∧
      (Rehailed 1 past → scene.free = true →
        (∀ moment ∈ past, moment.announces 1 = true →
          moment.scene.channel.onConnect.isSome = true) →
        1 < past.countP (Moment.invokes 1)) := by
  have seen : (((Scene.start default fun _ => 0).play [] helloAgain).map fun played =>
      (played.1.all fun moment => !moment.forges, played.2.free,
        played.1.countP (Moment.invokes 1))) = some (true, true, 2) := by
    cbv
  obtain ⟨⟨past, scene⟩, played, views⟩ := Option.map_eq_some_iff.mp seen
  obtain ⟨unforged, free, twice⟩ := Prod.mk.inj views |>.imp_right Prod.mk.inj
  have lawful : Lawful past := .of_play played unforged (by decide)
  exact ⟨past, scene, played, lawful, free, twice,
    invoked_once (Scene.run_of_play .start played) lawful 1⟩

end Intercom
