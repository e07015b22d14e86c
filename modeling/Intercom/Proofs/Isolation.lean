import Mathlib
import Intercom.Proofs.Announcement
import Intercom.Proofs.Returning
import Intercom.Proofs.Roster

/-!
# Listeners kept apart

A push is for the listeners that are registered for its event when its broadcast begins. They run
one after the other, whatever the callbacks do meanwhile: use the channel, change the registry, or
break off. `Rounds` follows a broadcast listener by listener and takes down how each has ended.

Results:
1. `Listeners.ofEvent_sublist`: listeners stay in the order of their registration.
2. `Rounds.invoked`, `Rounds.returns`: who runs for a push, and what is counted.
3. `Run.followed`: after the connect callback, however it ends, the greeting goes to its listeners.
4. `isolated`: all this holds in every run, and nothing but the count tells a callback that breaks
   off from one that returns.
-/

namespace Intercom

/-! ## Definitions -/

/-- What the operation registers for the event. -/
def Operation.registers? {α : Type} (event : String) : Operation α → Option α
  | .add name handler => if name = event then some handler else none
  | _ => none

/-- What was ever registered for the event, the earliest first. -/
def registered {α : Type} (event : String) (operations : List (Operation α)) : List α :=
  operations.filterMap (Operation.registers? event)

/-- The callbacks that start directly above `below`, in order. Those that start higher up belong to
what a callback has brought about. -/
def invokedAbove (below : Agenda) (moments : List Moment) : List Invocation :=
  moments.filterMap fun moment =>
    if moment.scene.agenda.length = below.length + 1 then moment.invocation? else none

/-- `Rounds push below earlier listeners endings moments`: in these moments the listeners run one
after the other for the push, above `below`, and end so. Listeners before them have ended as
`earlier` says. The last one may still be running. -/
inductive Rounds (push : Push) (below : Agenda) :
    List Ending → List (Listener Hook) → List Ending → List Moment → Prop where
  | done {earlier : List Ending} {moment : Moment} :
      moment.Does (.deliver push none [] (earlier.count .returned)) below →
      Rounds push below earlier [] [] [moment]
  | pause {earlier : List Ending} {listener : Listener Hook} {listeners : List (Listener Hook)}
      {moment : Moment} {inside : List Moment} :
      moment.Does (.deliver push none (listener :: listeners) (earlier.count .returned)) below →
      Turn (.deliver listener push) (.listener push listeners (earlier.count .returned)) below
        moment inside →
      Rounds push below earlier (listener :: listeners) [] (moment :: inside)
  | next {earlier : List Ending} {listener : Listener Hook} {listeners : List (Listener Hook)}
      {ending : Ending} {endings : List Ending} {moment final : Moment}
      {inside others : List Moment} :
      moment.Does (.deliver push none (listener :: listeners) (earlier.count .returned)) below →
      Turn (.deliver listener push) (.listener push listeners (earlier.count .returned)) below
        moment (inside ++ [final]) →
      Slot.Ends (.listener push listeners (earlier.count .returned)) below final ending →
      Rounds push below (earlier ++ [ending]) listeners endings others →
      Rounds push below earlier (listener :: listeners) (ending :: endings)
        (moment :: (inside ++ final :: others))

/-- All listeners have run, each once and in their order, and the number of those that returned is
what comes out. -/
structure Finished (push : Push) (below : Agenda) (listeners : List (Listener Hook))
    (endings : List Ending) (rounds : List Moment) : Prop where
  invoked : invokedAbove below rounds = listeners.map (.deliver · push)
  ended : endings.length = listeners.length
  returns : ∃ final, rounds.getLast? = some final ∧
    final.Does (.deliver push none [] (endings.count .returned)) below ∧
    final.after = ⟨below, final.scene.channel⟩

/-- The listeners have run up to one that is running still. -/
structure Underway (push : Push) (below : Agenda) (done : List (Listener Hook))
    (listener : Listener Hook) (left : List (Listener Hook)) (endings : List Ending)
    (rounds : List Moment) (last : Scene) : Prop where
  invoked : invokedAbove below rounds = (done ++ [listener]).map (.deliver · push)
  ended : endings.length = done.length
  runs : last.Busy (.deliver listener push) (.listener push left (endings.count .returned)) below

/-- `Dispatched push below listeners later last`: from here on these listeners, and no others, run
for the push, and when all have ended, `below` is next. -/
def Dispatched (push : Push) (below : Agenda) (listeners : List (Listener Hook))
    (later : List Moment) (last : Scene) : Prop :=
  ∃ rounds others endings, later = rounds ++ others ∧
    Rounds push below [] listeners endings rounds ∧
    (Finished push below listeners endings rounds ∨
      others = [] ∧ ∃ done listener left, listeners = done ++ listener :: left ∧
        Underway push below done listener left endings rounds last)

/-- `Followed hook announcing later last`: the connect callback runs on to the end of the run, or it
ends, one way or the other, and the listeners for the greeting run. -/
def Followed (hook : Hook) (announcing : Moment) (later : List Moment) (last : Scene) : Prop :=
  ∃ push below, push.isHello = true ∧
    (Turn (.connect hook) .plain (.broadcast push :: below) announcing later ∧
        last.Busy (.connect hook) .plain (.broadcast push :: below) ∨
      ∃ inside final broadcast others ending, later = inside ++ final :: broadcast :: others ∧
        Turn (.connect hook) .plain (.broadcast push :: below) announcing (inside ++ [final]) ∧
        Slot.plain.Ends (.broadcast push :: below) final ending ∧
        broadcast.Does (.broadcast push) below ∧
        Dispatched push below (broadcast.scene.channel.listeners.ofEvent push.event) others last)

/-- In a run, callbacks are kept apart. -/
structure Isolated (past : List Moment) (scene : Scene) : Prop where
  /-- A broadcast finds listeners in the order in which they were registered. -/
  order : ∀ earlier broadcast later event, past = earlier ++ broadcast :: later →
    ((broadcast.scene.channel.listeners.ofEvent event).map Listener.handler).Sublist
      (registered event (operations earlier))
  /-- The listeners of a push are those that its broadcast finds. -/
  dispatch : scene.free = true → ∀ earlier broadcast later push below,
    past = earlier ++ broadcast :: later → broadcast.Does (.broadcast push) below →
    Dispatched push below (broadcast.scene.channel.listeners.ofEvent push.event) later scene
  /-- The connect callback keeps none of them from running. -/
  connect : scene.free = true → ∀ earlier announcing later hook,
    past = earlier ++ announcing :: later → announcing.invocation? = some (.connect hook) →
    Followed hook announcing later scene
  /-- Whatever happens next, the same callbacks start and the channel is the same as if each
  callback returned where it panics. -/
  panics : ∀ events, scene.returning.shown (events.map Event.returning) =
    (scene.shown events).map fun (invocations, channel) =>
      (invocations.map Invocation.returning, channel.returning)
  /-- And there none of them panics. -/
  unbroken : ∀ (events : List Event) (moments : List Moment) (last : Scene),
    scene.returning.play [] (events.map Event.returning) = some (moments, last) →
      ∀ moment ∈ moments, ∀ slot below, ¬ Slot.Ends slot below moment .panicked

/-! ## The order of registration -/

namespace Listeners

variable {α : Type}

theorem ofEvent_remove_sublist (registry : Listeners α) (event name : String)
    (which : Option SubscriptionId) :
    ((registry.remove event which).2.ofEvent name).Sublist (registry.ofEvent name) := by
  cases which with
  | none =>
      rw [remove, ofEvent_removeAll]
      split
      · exact List.nil_sublist _
      · exact List.Sublist.refl _
  | some id =>
      rw [remove, ofEvent_removeOne]
      split
      · next same => exact same ▸ List.eraseP_sublist
      · exact List.Sublist.refl _

/-- Listeners may have gone meanwhile, but those that are left stand in the order of their
registration. -/
theorem ofEvent_sublist (operations : List (Operation α)) (event : String) :
    (((after operations).ofEvent event).map Listener.handler).Sublist
      (registered event operations) := by
  induction operations using List.reverseRecOn with
  | nil => exact List.nil_sublist _
  | append_singleton operations operation ih =>
      rw [after_append, registered, List.filterMap_append]
      have kept := ih.trans (List.sublist_append_left _
        ([operation].filterMap (Operation.registers? event)))
      cases operation with
      | add name handler =>
          have added := (after operations).ofEvent_add name event handler
          simp only [Operation.carryOut, added]
          split
          · next same =>
              subst same
              simpa [registered, Operation.registers?] using ih
          · exact kept
      | remove name which =>
          exact (((after operations).ofEvent_remove_sublist name event which).map _).trans kept
      | count => exact kept
      | dispatch => exact kept

end Listeners

/-! ## Callbacks above a task -/

section Above

variable {below : Agenda} {moment : Moment}

theorem invokedAbove_append (moments others : List Moment) :
    invokedAbove below (moments ++ others) =
      invokedAbove below moments ++ invokedAbove below others :=
  List.filterMap_append

theorem invokedAbove_of_does {task : Task} (does : moment.Does task below) :
    invokedAbove below [moment] = moment.invocation?.toList := by
  have single : moment.scene.agenda.length = below.length + 1 := by
    rw [does.agenda, List.length_cons]
  cases starts : moment.invocation? <;> simp [invokedAbove, single, starts]

/-- A callback that is running starts no other one itself: whatever starts meanwhile stands above
it. -/
theorem invokedAbove_of_busy {invocation : Invocation} {slot : Slot} {moments : List Moment}
    (runs : ∀ moment ∈ moments, moment.scene.Busy invocation slot below) :
    invokedAbove below moments = [] := by
  refine List.filterMap_eq_nil_iff.mpr fun moment present => ?_
  obtain ⟨upper, running, agenda, _⟩ := runs moment present
  split
  · next single =>
      -- so low only the callback itself stands
      rw [agenda, List.length_append, List.length_cons] at single
      have top : upper = [] := List.length_eq_zero_iff.mp (by omega)
      rw [top, List.nil_append] at agenda
      cases event : moment.event with
      | work =>
          have does : moment.Does (slot.task running) below := ⟨event, agenda⟩
          cases slot <;> simp only [Moment.invocation?, does.task?_eq, Slot.task]
      | _ => simp only [Moment.invocation?, Moment.task?, event]
  · rfl

end Above

/-! ## Round by round -/

namespace Rounds

variable {push : Push} {below : Agenda} {earlier endings : List Ending}
  {listeners : List (Listener Hook)} {moments : List Moment}

/-- Of the listeners, those that have ended were invoked, and the one after them. -/
theorem invoked (rounds : Rounds push below earlier listeners endings moments) :
    invokedAbove below moments =
      (listeners.take (endings.length + 1)).map (.deliver · push) := by
  induction rounds with
  | done does =>
      rw [invokedAbove_of_does does, Moment.invocation?, does.task?_eq]
      rfl
  | @pause _ listener listeners moment inside does turn =>
      rw [← List.singleton_append, invokedAbove_append, invokedAbove_of_does does, turn.starts,
        invokedAbove_of_busy turn.runs]
      rfl
  | @next _ listener listeners ending endings moment final inside others does turn ends _ ih =>
      rw [List.append_cons, ← List.singleton_append, invokedAbove_append, invokedAbove_append,
        invokedAbove_of_does does, turn.starts, invokedAbove_of_busy turn.runs, ih]
      rfl

/-- Once all have ended, the last moment gives back how many of them returned. -/
theorem returns (rounds : Rounds push below earlier listeners endings moments)
    (ended : endings.length = listeners.length) :
    ∃ final, moments.getLast? = some final ∧
      final.Does (.deliver push none [] ((earlier ++ endings).count .returned)) below := by
  induction rounds with
  | @done _ moment does => exact ⟨moment, rfl, by rwa [List.append_nil]⟩
  | pause => simp at ended
  | @next _ listener listeners ending endings moment _ inside others _ _ _ _ ih =>
      obtain ⟨final, last, does⟩ := ih (by simpa using ended)
      refine ⟨final, ?_, by rwa [List.append_assoc] at does⟩
      simp [List.getLast?_append, List.getLast?_cons, last]

end Rounds

section Dispatching

variable {first last : Scene} {moments : List Moment} {push : Push} {below : Agenda}

/-- The number that a callback leaves behind counts it if it returned. -/
theorem left_listener (earlier : List Ending) (listeners : List (Listener Hook))
    (ending : Ending) :
    (Slot.listener push listeners (earlier.count .returned)).left ending =
      [.deliver push none listeners ((earlier ++ [ending]).count .returned)] := by
  rw [List.count_append]
  cases ending <;> rfl

/-- The listeners of a push run one after the other, by induction on those that are left. -/
theorem Run.rounds {earlier : List Ending} {listeners : List (Listener Hook)}
    (run : Run first moments last) (free : last.free = true)
    (agenda : first.agenda =
      .deliver push none listeners (earlier.count .returned) :: below) :
    ∃ rounds others endings, moments = rounds ++ others ∧
      Rounds push below earlier listeners endings rounds ∧
      (endings.length = listeners.length ∨
        others = [] ∧ ∃ done listener left, listeners = done ++ listener :: left ∧
          endings.length = done.length ∧
          last.Busy (.deliver listener push)
            (.listener push left ((earlier ++ endings).count .returned)) below) := by
  induction listeners generalizing first moments earlier with
  | nil =>
      obtain ⟨moment, later, rfl, _, does, _⟩ := run.does_of_busy agenda rfl free
      exact ⟨[moment], later, [], rfl, .done does, .inl rfl⟩
  | cons listener listeners ih =>
      obtain ⟨moment, later, rfl, _, does, onward⟩ := run.does_of_busy agenda rfl free
      have turn := Turn.of_deliver does
      rcases onward.turn turn.begins with
        ⟨runs, still⟩ | ⟨inside, final, others, ending, rfl, runs, ends, goes⟩
      · -- the run is over before the callback is
        refine ⟨moment :: later, [], [], (List.append_nil _).symm, .pause does (turn.goes runs),
          .inr ⟨rfl, [], listener, listeners, rfl, rfl, ?_⟩⟩
        rwa [List.append_nil]
      · -- however it ends, the listeners that are left are the ones that were found
        have ended : final.after.agenda =
            .deliver push none listeners ((earlier ++ [ending]).count .returned) :: below := by
          rw [ends.after_eq, left_listener]
          rfl
        obtain ⟨rounds, others, endings, rfl, rest, outcome⟩ := ih goes ended
        refine ⟨moment :: (inside ++ final :: rounds), others, ending :: endings, ?_,
          .next does (turn.goes runs) ends rest, ?_⟩
        · simp
        · rcases outcome with all | ⟨rfl, done, current, left, rfl, same, still⟩
          · exact .inl (congrArg (· + 1) all)
          · refine .inr ⟨rfl, listener :: done, current, left, rfl, congrArg (· + 1) same, ?_⟩
            rwa [List.append_assoc] at still

theorem Run.dispatched {listeners : List (Listener Hook)} (run : Run first moments last)
    (free : last.free = true)
    (agenda : first.agenda = .deliver push none listeners 0 :: below) :
    Dispatched push below listeners moments last := by
  obtain ⟨rounds, others, endings, rfl, all, outcome⟩ :=
    @Run.rounds _ _ _ _ _ [] _ run free agenda
  refine ⟨rounds, others, endings, rfl, all, ?_⟩
  have invoked := all.invoked
  rcases outcome with ended | ⟨rfl, done, listener, left, rfl, ended, runs⟩
  · obtain ⟨final, last, does⟩ := all.returns ended
    refine .inl ⟨?_, ended, final, last, does, does.after_eq⟩
    rw [invoked, ended, List.take_of_length_le (Nat.le_succ _)]
  · refine .inr ⟨rfl, done, listener, left, rfl, ?_, ended, runs⟩
    rw [invoked, ended, List.append_cons, List.take_left' (by simp)]

theorem Run.dispatched_of_broadcast {broadcast : Moment} {earlier later : List Moment}
    (run : Run first (earlier ++ broadcast :: later) last) (free : last.free = true)
    (does : broadcast.Does (.broadcast push) below) :
    Dispatched push below (broadcast.scene.channel.listeners.ofEvent push.event) later last := by
  refine run.onward.dispatched free ?_
  rw [does.after_eq]
  rfl

end Dispatching

/-! ## After the connect callback -/

theorem Moment.announceReady_of_invocation {moment : Moment} {hook : Hook}
    (starts : moment.invocation? = some (.connect hook)) :
    moment.scene.channel.onConnect = some hook ∧
      ∃ generation, moment.task? = some (.announceReady generation) := by
  unfold invocation? at starts
  split at starts
  · next generation carried =>
      obtain ⟨_, there, same⟩ := Option.map_eq_some_iff.mp starts
      cases same
      exact ⟨there, generation, carried⟩
  · cases starts
  · obtain ⟨_, _, other⟩ := Option.map_eq_some_iff.mp starts
    cases other
  · cases starts

namespace Run

variable {settings : Settings} {draw : Nat → Nat} {earlier later : List Moment}
  {announcing : Moment} {scene : Scene}

/-- Under the connect callback the listeners for the greeting wait. -/
theorem waiting_of_announce {generation : Nat} (run : Run (.start settings draw) earlier
      announcing.scene) (carried : announcing.task? = some (.announceReady generation)) :
    ∃ push below, push.isHello = true ∧
      announcing.Does (.announceReady generation) (.broadcast push :: below) := by
  obtain ⟨_, greeting, push, below, _, _, after, agenda, hails, cold⟩ :=
    run.hail_of_announce carried
  obtain ⟨current, other, greets⟩ := hails
  obtain ⟨acts, hello⟩ := Moment.greet_iff.mp greets
  obtain ⟨work, _⟩ := Moment.work_of_task acts
  have does : greeting.Does (.dispatch generation push) below := ⟨work, agenda⟩
  cases does.task?_eq.symm.trans acts
  have waits := (leads_of_dispatch does current).2.1 ⟨hello, cold⟩
  exact ⟨push, below, hello, (Moment.work_of_task carried).1, after ▸ waits⟩

/-- The connect callback may break off: the listeners for the greeting run all the same. -/
theorem followed {hook : Hook}
    (run : Run (.start settings draw) (earlier ++ announcing :: later) scene)
    (free : scene.free = true) (starts : announcing.invocation? = some (.connect hook)) :
    Followed hook announcing later scene := by
  obtain ⟨there, generation, carried⟩ := Moment.announceReady_of_invocation starts
  obtain ⟨push, below, hello, does⟩ := run.at_moment.1.waiting_of_announce carried
  have turn := Turn.of_announce does there
  refine ⟨push, below, hello, ?_⟩
  rcases run.onward.turn turn.begins with
    ⟨runs, still⟩ | ⟨inside, final, others, ending, rfl, runs, ends, goes⟩
  · exact .inl ⟨turn.goes runs, still⟩
  · have next : final.after.agenda = .broadcast push :: below := by
      rw [ends.after_eq]
      rfl
    obtain ⟨broadcast, others, rfl, _, broadcasts, _⟩ := goes.does_of_busy next rfl free
    exact .inr ⟨inside, final, broadcast, others, ending, rfl, turn.goes runs, ends, broadcasts,
      @Run.dispatched_of_broadcast _ _ _ _ _ [] _ goes free broadcasts⟩

end Run

/-! ## All along a run -/

/-- In every run, the listeners invoked for a push are those registered for its event when its
broadcast begins, each once and in their order, whatever callbacks do and however they end; those
that return are counted; a greeting reaches its listeners after the connect callback; and all of it
goes on as if each callback that panics had returned. -/
theorem isolated {settings : Settings} {draw : Nat → Nat} {past : List Moment} {scene : Scene}
    (run : Run (.start settings draw) past scene) : Isolated past scene where
  order := by
    rintro earlier broadcast later event rfl
    rw [run.at_moment.1.course.registry]
    exact Listeners.ofEvent_sublist _ event
  dispatch := by
    rintro free earlier broadcast later push below rfl does
    exact run.dispatched_of_broadcast free does
  connect := by
    rintro free earlier announcing later hook rfl starts
    exact run.followed free starts
  panics := scene.agrees_returning.shown
  unbroken _ _ _ played :=
    scene.agrees_returning.unbroken (fun _ absent => absurd absent List.not_mem_nil) played

/-- A connect callback that breaks off, and a listener that clears the registry, registers another
one and breaks off. -/
def brokenHello : List Event :=
  [.call none (.onConnect (.make "connected" [.panic] none)),
    .call none (.on "hello" (.make "first"
      [.call (.off "hello" .all), .call (.on "hello" (.make "late" [] none)), .panic] none)),
    .call none (.on "hello" (.make "second" [] none)), .call none .connect, .socket 1 .opened,
    .socket 1 (.message "\x7b\"event\":\"hello\"\x7d")] ++ List.replicate 14 .work

theorem isolated_brokenHello : ∃ past scene,
    (Scene.start default fun _ => 0).play [] brokenHello = some (past, scene) ∧
      scene.free = true ∧
      (past.filterMap Moment.invocation?).map (fun invocation => invocation.hook.script.label) =
        ["connected", "first", "second"] ∧
      (scene.channel.listeners.ofEvent "hello").map
          (fun listener => listener.handler.script.label) = ["late"] ∧
      Isolated past scene := by
  have seen : (((Scene.start default fun _ => 0).play [] brokenHello).map fun played =>
      (played.2.free,
        (played.1.filterMap Moment.invocation?).map fun invocation => invocation.hook.script.label,
        (played.2.channel.listeners.ofEvent "hello").map fun listener =>
          listener.handler.script.label)) =
      some (true, ["connected", "first", "second"], ["late"]) := by
    cbv
  obtain ⟨⟨past, scene⟩, played, views⟩ := Option.map_eq_some_iff.mp seen
  obtain ⟨free, started, left⟩ := Prod.mk.inj views |>.imp_right Prod.mk.inj
  exact ⟨past, scene, played, free, started, left, isolated (Scene.run_of_play .start played)⟩

end Intercom
