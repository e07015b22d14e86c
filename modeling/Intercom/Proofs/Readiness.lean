import Mathlib
import Intercom.Proofs.Contract

/-!
# When a channel is ready

A channel is ready if it owns a socket, the socket is open and the ready flag is set. Connecting,
disconnecting, closes and greetings write these at different times, and the flag may be set while no
socket is owned. `Since` is the invariant that ties them together: it tells from the moves since the
latest socket was spawned whether that socket is still owned and where the flag comes from.

Results:
1. `Run.since`: the invariant holds in every run in which a socket was spawned.
2. `Run.leads_status`: a moment moves the status along the diagram of states only.
3. `ready_sound`: in a lawful run, a ready channel was greeted by the very socket that it owns.
-/

namespace Intercom

/-! ## Definitions -/

/-- `status.Leads next`: the diagram of states has an edge from one to the other, or they are the
same. -/
inductive Status.Leads : Status → Status → Prop where
  | stay (status : Status) : Leads status status
  | connect : Leads .disconnected .connecting
  | hello : Leads .connecting .ready
  | lose : Leads .ready .disconnected
  | abandon : Leads .connecting .disconnected

namespace Moment

/-- Whether the channel lets go of its socket, or loses it. -/
def Drops (moment : Moment) : Prop :=
  moment.move = .disconnect ∨ moment.move = .lose

end Moment

/-- `Since spawn later core`: the latest socket was spawned at `spawn`, and `later` has passed
since. The socket is owned unless it was dropped, and if the ready flag is set, the last greeting
has set it and brought the payload. -/
structure Since (spawn : Moment) (later : List Moment) (core : Core) : Prop where
  spawned : spawn.move = .spawn
  born : spawn.after.channel.link.socket = some core.generation
  latest : ∀ moment ∈ later, moment.move ≠ .spawn ∧
    moment.scene.channel.link.generation = core.generation
  owned : (∀ moment ∈ later, ¬ moment.Drops) → core.socket = some core.generation
  dropped : (∃ moment ∈ later, moment.Drops) → core.socket = none
  greeted : core.ready = true → ∃ middle greeting rest push, later = middle ++ greeting :: rest ∧
    greeting.move = .greet push ∧ core.hello = push.hello? ∧
    ∀ moment ∈ rest, moment.move = .keep

/-- Why a channel is ready. The socket of `generation` was spawned at `spawn` and is still owned;
after `middle` it told `text`, which was read as `push` and acted on two moments later, and `later`
has passed since. -/
structure Greeting (scene : Scene) (spawn : Moment) (middle : List Moment)
    (delivery routing greeting : Moment) (later : List Moment) (generation : Nat) (text : String)
    (push : Push) : Prop where
  owned : scene.channel.link.socket = some generation
  latest : scene.channel.link.generation = generation
  isOpen : scene.channel.isOpen generation = true
  spawned : spawn.move = .spawn
  born : spawn.after.channel.link.socket = some generation
  told : delivery.event = .socket generation (.message text)
  meant : delivery.scene.channel.pushIn? text = some push
  isHello : push.isHello = true
  routed : routing.event = .work
  noted : greeting.task? = some (.dispatch generation push)
  /-- The channel has neither disconnected nor lost the socket since it was spawned. -/
  kept : ∀ moment ∈ middle ++ delivery :: routing :: greeting :: later, ¬ moment.Drops
  payload : scene.channel.hello = some (.ofJson push.dataOrNull)
  /-- No greeting was acted on after this one. -/
  last : ∀ moment ∈ later, ∀ other, moment.move ≠ .greet other
  /-- If nothing waits to be acted on, no greeting was delivered after this one. -/
  newest : scene.free = true → ∀ moment ∈ later, ∀ text other,
    moment.event = .socket generation (.message text) →
    moment.scene.channel.pushIn? text = some other → other.isHello = false

/-- The owned socket has greeted, and everything since it was spawned is accounted for. -/
def Greeted (past : List Moment) (scene : Scene) : Prop :=
  ∃ before spawn middle delivery routing greeting later generation text push,
    past = before ++ spawn :: (middle ++ delivery :: routing :: greeting :: later) ∧
      Greeting scene spawn middle delivery routing greeting later generation text push

/-- The moment acts on a greeting that the owned socket has told. -/
def Moment.Welcomes (moment : Moment) : Prop :=
  ∃ generation push, moment.scene.channel.link.socket = some generation ∧
    moment.task? = some (.dispatch generation push) ∧ push.isHello = true

/-! ## Since the latest socket -/

namespace ReadinessLemmas

variable {spawn moment : Moment} {later : List Moment} {core : Core}

theorem since_spawn (spawns : spawn.move = .spawn) :
    Since spawn [] spawn.after.channel.link.core := by
  have after := spawn.core_after
  rw [spawns] at after
  constructor
  · exact spawns
  · rw [after]
    exact congrArg Core.socket after
  · exact fun _ absent => absurd absent List.not_mem_nil
  · intro _
    rw [after]
    rfl
  · exact fun ⟨_, absent, _⟩ => absurd absent List.not_mem_nil
  · intro ready
    rw [after] at ready
    cases ready

theorem since_append (since : Since spawn later core) (here : moment.scene.channel.link.core = core)
    (stays : moment.move ≠ .spawn) :
    Since spawn (later ++ [moment]) (moment.move.apply core) := by
  have number : (moment.move.apply core).generation = core.generation := by
    cases moves : moment.move with
    | spawn => exact absurd moves stays
    | _ => rfl
  constructor
  · exact since.spawned
  · rw [number]
    exact since.born
  · intro other present
    rw [number]
    rcases List.mem_append.mp present with old | new
    · exact since.latest other old
    · rw [List.mem_singleton.mp new]
      exact ⟨stays, congrArg Core.generation here⟩
  · intro kept
    have before := since.owned fun other old => kept other (List.mem_append_left _ old)
    have last : ¬ moment.Drops := kept moment (by simp)
    rw [number]
    cases moves : moment.move with
    | spawn => exact absurd moves stays
    | disconnect => exact absurd (Or.inl moves) last
    | lose => exact absurd (Or.inr moves) last
    | greet push => exact before
    | keep => exact before
  · rintro ⟨other, present, drops⟩
    cases moves : moment.move with
    | spawn => exact absurd moves stays
    | disconnect | lose => rfl
    | greet | keep =>
        -- the drop was earlier, and a greeting does not bring the socket back
        refine since.dropped ⟨other, ?_, drops⟩
        rcases List.mem_append.mp present with old | new
        · exact old
        · rw [List.mem_singleton.mp new] at drops
          rcases drops with disconnects | loses
          · cases moves.symm.trans disconnects
          · cases moves.symm.trans loses
  · intro ready
    cases moves : moment.move with
    | spawn => exact absurd moves stays
    | disconnect | lose =>
        rw [moves] at ready
        cases ready
    | greet push =>
        exact ⟨later, moment, [], push, rfl, moves, rfl,
          fun _ absent => absurd absent List.not_mem_nil⟩
    | keep =>
        rw [moves] at ready
        obtain ⟨middle, greeting, rest, push, same, greets, hello, kept⟩ := since.greeted ready
        refine ⟨middle, greeting, rest ++ [moment], push, ?_, greets, hello, ?_⟩
        · rw [same, List.append_assoc]
          rfl
        · intro other present
          rcases List.mem_append.mp present with old | new
          · exact kept other old
          · rw [List.mem_singleton.mp new]
            exact moves

end ReadinessLemmas

open ReadinessLemmas

namespace Run

variable {settings : Settings} {draw : Nat → Nat} {past : List Moment} {scene : Scene}
  {generation : Nat}

/-- Either no socket was spawned yet, or the moves since the last spawn tell about it. -/
theorem since (run : Run (.start settings draw) past scene) :
    (scene.channel.link.generation = 0 ∧ scene.channel.link.socket = none) ∨
      ∃ before spawn later, past = before ++ spawn :: later ∧
        Since spawn later scene.channel.link.core := by
  induction run with
  | start => exact Or.inl ⟨rfl, rfl⟩
  | @step past scene event _ _ ih =>
      have after := Moment.core_after ⟨scene, event⟩
      by_cases spawns : Moment.move ⟨scene, event⟩ = .spawn
      · exact Or.inr ⟨past, ⟨scene, event⟩, [], rfl, since_spawn spawns⟩
      rcases ih with ⟨number, free⟩ | ⟨before, spawn, later, same, since⟩
      · left
        have fields : ∀ move : Move, move ≠ .spawn →
            (move.apply scene.channel.link.core).generation = 0 ∧
              (move.apply scene.channel.link.core).socket = none := by
          intro move stays
          cases move with
          | spawn => exact absurd rfl stays
          | disconnect | lose => exact ⟨number, rfl⟩
          | greet | keep => exact ⟨number, free⟩
        obtain ⟨zero, none⟩ := fields _ spawns
        exact ⟨(congrArg Core.generation after).trans zero, (congrArg Core.socket after).trans none⟩
      · right
        refine ⟨before, spawn, later ++ [⟨scene, event⟩], ?_, ?_⟩
        · rw [same, List.append_assoc, List.cons_append]
        · show Since spawn _ (Moment.after ⟨scene, event⟩).channel.link.core
          rw [after]
          exact since_append since rfl spawns

/-- An owned socket is the latest one, and was not dropped since it was spawned. -/
theorem since_owned (run : Run (.start settings draw) past scene)
    (owned : scene.channel.link.socket = some generation) :
    scene.channel.link.generation = generation ∧ ∃ before spawn later,
      past = before ++ spawn :: later ∧ Since spawn later scene.channel.link.core ∧
        ∀ moment ∈ later, ¬ moment.Drops := by
  rcases run.since with ⟨_, free⟩ | ⟨before, spawn, later, same, since⟩
  · cases free.symm.trans owned
  · have kept : ∀ moment ∈ later, ¬ moment.Drops := by
      intro moment present drops
      cases (since.dropped ⟨moment, present, drops⟩).symm.trans owned
    have number := since.owned kept
    exact ⟨Option.some.inj (number.symm.trans owned), before, spawn, later, same, since, kept⟩

theorem latest (run : Run (.start settings draw) past scene)
    (owned : scene.channel.link.socket = some generation) :
    scene.channel.link.generation = generation :=
  run.course.latest owned

end Run

/-! ## The status -/

namespace Channel

theorem status_of_free {channel : Channel} (free : channel.link.socket = none) :
    channel.status = .disconnected := by
  simp only [status, free]

theorem status_of_owned {channel : Channel} {generation : Nat}
    (owned : channel.link.socket = some generation) :
    channel.status =
      if channel.isOpen generation && channel.link.ready then .ready else .connecting := by
  simp only [status, owned]

/-- A ready channel owns a socket that is open, and its flag is set. -/
theorem status_ready_iff (channel : Channel) :
    channel.status = .ready ↔ ∃ generation, channel.link.socket = some generation ∧
      channel.isOpen generation = true ∧ channel.link.ready = true := by
  cases socket : channel.link.socket with
  | none => simp [status_of_free socket]
  | some generation => simp [status_of_owned socket]

end Channel

namespace Moment

variable {moment : Moment} {generation : Nat}

/-- An owned socket that is the latest cannot close without being lost. -/
theorem isOpen_mono (allowed : moment.scene.allows moment.event = true)
    (current : moment.scene.channel.link.generation = generation) (stays : moment.move ≠ .lose)
    (isOpen : moment.scene.channel.isOpen generation = true) :
    moment.after.channel.isOpen generation = true := by
  rw [isOpen_after allowed]
  cases told : moment.event.told? generation with
  | none => exact isOpen
  | some notice =>
      cases notice with
      | opened => rfl
      | message text => exact isOpen
      | sendFailed id failure => exact isOpen
      | closed closing =>
          subst current
          exact absurd (lose_of_told (Event.told?_iff.mp told)) stays

end Moment

namespace Run

variable {settings : Settings} {draw : Nat → Nat} {past : List Moment} {scene : Scene}
  {generation : Nat} {moment : Moment}

/-- While the owned socket stays, the status can only become ready. -/
theorem leads_of_owned (run : Run (.start settings draw) past moment.scene)
    (allowed : moment.scene.allows moment.event = true)
    (same : moment.after.channel.link.socket = moment.scene.channel.link.socket)
    (stays : moment.move ≠ .lose)
    (ready : moment.scene.channel.link.ready = true → moment.after.channel.link.ready = true) :
    moment.scene.channel.status.Leads moment.after.channel.status := by
  cases owned : moment.scene.channel.link.socket with
  | none =>
      rw [Channel.status_of_free owned, Channel.status_of_free (same.trans owned)]
      exact .stay _
  | some generation =>
      have flag := Moment.isOpen_mono allowed (run.latest owned) stays
      rw [Channel.status_of_owned owned, Channel.status_of_owned (same.trans owned)]
      cases now : moment.scene.channel.isOpen generation && moment.scene.channel.link.ready with
      | true =>
          rw [Bool.and_eq_true] at now
          rw [flag now.1, ready now.2]
          exact .stay _
      | false =>
          cases moment.after.channel.isOpen generation && moment.after.channel.link.ready with
          | true => exact .hello
          | false => exact .stay _

/-- A moment moves the status along the diagram of states only. -/
theorem leads_status (run : Run (.start settings draw) past moment.scene)
    (allowed : moment.scene.allows moment.event = true) :
    moment.scene.channel.status.Leads moment.after.channel.status := by
  have after := moment.core_after
  cases moves : moment.move with
  | spawn =>
      rw [moves] at after
      have owned := congrArg Core.socket after
      have ready : moment.after.channel.link.ready = false := congrArg Core.ready after
      rw [Channel.status_of_free (Moment.free_of_move moves), Channel.status_of_owned owned, ready,
        Bool.and_false]
      exact .connect
  | disconnect | lose =>
      rw [moves] at after
      rw [Channel.status_of_free (congrArg Core.socket after)]
      cases moment.scene.channel.status with
      | disconnected => exact .stay _
      | connecting => exact .abandon
      | ready => exact .lose
  | greet push =>
      have stays : moment.move ≠ .lose := by simp [moves]
      rw [moves] at after
      exact run.leads_of_owned allowed (congrArg Core.socket after) stays
        fun _ => congrArg Core.ready after
  | keep =>
      have stays : moment.move ≠ .lose := by simp [moves]
      rw [moves] at after
      exact run.leads_of_owned allowed (congrArg Core.socket after) stays
        fun ready => (congrArg Core.ready after).trans ready

/-- In a lawful run the owned socket is open as soon as the ready flag is set. -/
theorem open_of_ready (run : Run (.start settings draw) past scene) (lawful : Lawful past)
    (owned : scene.channel.link.socket = some generation)
    (ready : scene.channel.link.ready = true) : scene.channel.isOpen generation = true := by
  induction run with
  | start => cases owned
  | @step past scene event run allowed ih =>
      have after := Moment.core_after ⟨scene, event⟩
      have before := lawful.past_of_append
      cases moves : Moment.move ⟨scene, event⟩ with
      | spawn =>
          rw [moves] at after
          cases (congrArg Core.ready after).symm.trans ready
      | disconnect | lose =>
          rw [moves] at after
          cases (congrArg Core.socket after).symm.trans owned
      | greet push =>
          -- the greeting was told by the owned socket, and while it was open
          have stays : Moment.move ⟨scene, event⟩ ≠ .lose := by simp [moves]
          rw [moves] at after
          have held := (congrArg Core.socket after).symm.trans owned
          have current := run.latest held
          obtain ⟨_, _, rest, agenda⟩ := Moment.work_of_task (Moment.greet_iff.mp moves).1
          have isOpen := run.open_of_dispatch before agenda
          exact @Moment.isOpen_mono ⟨scene, event⟩ generation allowed current stays
            (current ▸ isOpen)
      | keep =>
          have stays : Moment.move ⟨scene, event⟩ ≠ .lose := by simp [moves]
          rw [moves] at after
          have held := (congrArg Core.socket after).symm.trans owned
          have isOpen := ih before held ((congrArg Core.ready after).symm.trans ready)
          exact @Moment.isOpen_mono ⟨scene, event⟩ generation allowed (run.latest held) stays isOpen

/-- In a lawful run only a greeting by the owned socket makes the channel ready. -/
theorem welcomes_of_ready (run : Run (.start settings draw) past moment.scene)
    (lawful : Lawful past) (before : moment.scene.channel.status ≠ .ready)
    (after : moment.after.channel.status = .ready) : moment.Welcomes := by
  obtain ⟨generation, owned, _, ready⟩ := moment.after.channel.status_ready_iff.mp after
  have same := moment.core_after
  cases moves : moment.move with
  | spawn =>
      rw [moves] at same
      cases (congrArg Core.ready same).symm.trans ready
  | disconnect | lose =>
      rw [moves] at same
      cases (congrArg Core.socket same).symm.trans owned
  | greet push =>
      obtain ⟨carried, hello⟩ := Moment.greet_iff.mp moves
      rw [moves] at same
      have held := (congrArg Core.socket same).symm.trans owned
      rw [run.latest held] at carried
      exact ⟨generation, push, held, carried, hello⟩
  | keep =>
      rw [moves] at same
      have held := (congrArg Core.socket same).symm.trans owned
      have flag := (congrArg Core.ready same).symm.trans ready
      -- nothing has changed, and so the channel was ready before
      refine absurd ?_ before
      exact (Channel.status_ready_iff _).mpr
        ⟨generation, held, run.open_of_ready lawful held flag, flag⟩

end Run

/-! ## Soundness -/

namespace ReadinessLemmas

/-- Two moments that are no spawn lie behind the spawn. -/
theorem behind_spawn {before middle earlier : List Moment} {spawn delivery routing : Moment}
    (same : before ++ spawn :: middle = earlier ++ [delivery, routing])
    (spawned : spawn.move = .spawn) (first : delivery.move ≠ .spawn)
    (second : routing.move ≠ .spawn) : ∃ rest, middle = rest ++ [delivery, routing] := by
  rcases List.eq_nil_or_concat middle with rfl | ⟨init, final, rfl⟩
  · have split : before ++ [spawn] = earlier ++ [delivery] ++ [routing] := by
      rw [same, List.append_assoc]
      rfl
    cases (List.append_inj' split rfl).2
    exact absurd spawned second
  · have split : before ++ spawn :: init ++ [final] = earlier ++ [delivery] ++ [routing] := by
      rw [List.append_assoc, List.append_assoc]
      rw [List.concat_eq_append] at same
      exact same
    obtain ⟨shorter, last⟩ := List.append_inj' split rfl
    cases last
    rcases List.eq_nil_or_concat init with rfl | ⟨rest, other, rfl⟩
    · cases (List.append_inj' shorter rfl).2
      exact absurd spawned first
    · rw [List.concat_eq_append, ← List.cons_append, ← List.append_assoc] at shorter
      cases (List.append_inj' shorter rfl).2
      exact ⟨rest, by simp⟩

/-- A greeting that the owned socket tells is acted on before someone has a turn again. -/
theorem not_hello_of_quiet {settings : Settings} {draw : Nat → Nat} {scene : Scene}
    {earlier later : List Moment} {moment : Moment} {generation : Nat} {text : String} {push : Push}
    (run : Run (.start settings draw) (earlier ++ moment :: later) scene) (free : scene.free = true)
    (current : moment.scene.channel.link.generation = generation)
    (told : moment.event = .socket generation (.message text))
    (meant : moment.scene.channel.pushIn? text = some push)
    (quiet : ∀ other ∈ later, other.move = .keep) : push.isHello = false := by
  obtain ⟨routing, acting, others, rfl, carried, same⟩ :=
    run.dispatch_of_delivery told current meant free
  cases hello : push.isHello with
  | false => rfl
  | true =>
      rw [← current, ← same] at carried
      have greets := Moment.greet_iff.mpr ⟨carried, hello⟩
      rw [quiet acting (by simp)] at greets
      cases greets

/-- In a lawful run a channel that is ready was greeted by the socket that it owns. -/
theorem greeted_of_ready {settings : Settings} {draw : Nat → Nat} {past : List Moment}
    {scene : Scene} (run : Run (.start settings draw) past scene) (lawful : Lawful past)
    (isReady : scene.channel.status = .ready) : Greeted past scene := by
  obtain ⟨generation, owned, isOpen, ready⟩ := scene.channel.status_ready_iff.mp isReady
  obtain ⟨current, before, spawn, elapsed, same, since, kept⟩ := run.since_owned owned
  subst current
  obtain ⟨between, greeting, later, push, split, greets, payload, quiet⟩ := since.greeted ready
  subst split
  have number := (since.latest greeting (by simp)).2
  -- The greeting was delivered and routed in the two moments before it.
  rw [← List.cons_append, ← List.append_assoc] at same
  subst same
  have reached := run.at_moment.1
  obtain ⟨carried, isHello⟩ := Moment.greet_iff.mp greets
  rw [number] at carried
  obtain ⟨_, _, rest, agenda⟩ := Moment.work_of_task carried
  obtain ⟨earlier, delivery, routing, text, joined, _, taken, _, meant, ⟨message, routes⟩, _⟩ :=
    reached.delivery_of_dispatch rfl agenda
  have present : delivery ∈ before ++ spawn :: between := by
    rw [joined]
    simp
  have told := run.told_of_notice lawful (List.mem_append_left _ present) taken
  -- Neither of them is the spawn, so both lie behind it.
  have firstKeeps := Moment.keep_of_message told
  have nextKeeps := Moment.move_of_task routes
  obtain ⟨middle, rfl⟩ := behind_spawn joined since.spawned (by simp [firstKeeps])
    (by cases message <;> simp [nextKeeps, Task.effect, Effect.move])
  refine ⟨before, spawn, middle, delivery, routing, greeting, later,
    scene.channel.link.generation, text, push, by simp, ?_⟩
  refine ⟨owned, rfl, isOpen, since.spawned, since.born, told, meant, isHello,
    (Moment.work_of_task routes).1, carried, ?_, ?_, ?_, ?_⟩
  · intro moment present
    exact kept moment (by simpa using present)
  · exact payload.trans (if_pos isHello)
  · intro moment present other greets
    rw [quiet moment present] at greets
    cases greets
  · -- a later greeting of the socket would have been acted on by now
    intro free moment present text other tells means
    obtain ⟨prior, rest, rfl⟩ := List.append_of_mem present
    have number := (since.latest moment (by simp)).2
    rw [← List.cons_append (a := greeting), ← List.append_assoc] at run
    exact not_hello_of_quiet run free number tells means
      fun next later => quiet next (by simp [later])

end ReadinessLemmas

/-- In a lawful run a channel that is ready was greeted by the socket that it owns, the latest one,
which is open and was neither let go of nor lost since it was spawned. Every moment moves the status
along the diagram of states, and only a greeting by the owned socket makes the channel ready. -/
theorem ready_sound {settings : Settings} {draw : Nat → Nat} {past : List Moment} {scene : Scene}
    (run : Run (.start settings draw) past scene) (lawful : Lawful past) :
    (scene.channel.status = .ready → Greeted past scene) ∧
      ∀ moment ∈ past, moment.scene.channel.status.Leads moment.after.channel.status ∧
        (moment.scene.channel.status ≠ .ready → moment.after.channel.status = .ready →
          moment.Welcomes) := by
  constructor
  · exact greeted_of_ready run lawful
  · intro moment present
    obtain ⟨earlier, later, rfl⟩ := List.append_of_mem present
    obtain ⟨reached, allowed⟩ := run.at_moment
    exact ⟨reached.leads_status allowed, reached.welcomes_of_ready lawful.past_of_append⟩

/-- A socket that is replaced. The old one greets too late, then the new one greets. -/
def replacedSocket : List Event :=
  let hello := "\x7b\"event\":\"hello\"\x7d"
  [.call none .connect, .socket 1 .opened, .call none .disconnect, .work, .call none .connect,
    .socket 2 .opened, .socket 1 (.message hello), .socket 2 (.message hello), .work, .work, .work,
    .work, .work]

theorem ready_sound_replacedSocket : ∃ past scene,
    (Scene.start default fun _ => 0).play [] replacedSocket = some (past, scene) ∧ Lawful past ∧
      scene.channel.status = .ready ∧ Greeted past scene ∧
      ∀ moment ∈ past, moment.scene.channel.status.Leads moment.after.channel.status ∧
        (moment.scene.channel.status ≠ .ready → moment.after.channel.status = .ready →
          moment.Welcomes) := by
  have seen : (((Scene.start default fun _ => 0).play [] replacedSocket).map fun played =>
      (played.1.all fun moment => !moment.forges, played.2.channel.status)) =
        some (true, .ready) := by
    cbv
  obtain ⟨⟨past, scene⟩, played, views⟩ := Option.map_eq_some_iff.mp seen
  obtain ⟨unforged, isReady⟩ := Prod.mk.inj views
  have lawful : Lawful past := .of_play played unforged (by decide)
  have sound := ready_sound (Scene.run_of_play .start played) lawful
  exact ⟨past, scene, played, lawful, isReady, sound.1 isReady, sound.2⟩

end Intercom
