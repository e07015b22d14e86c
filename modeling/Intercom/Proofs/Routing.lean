import Intercom.Proofs.Callback
import Intercom.Proofs.Deadline
import Intercom.Proofs.Origin

/-!
# Where a frame goes

A frame of the latest socket answers a request that waits, or it is a push for the listeners, or it
is for nobody. `Answered`, `Pushed` and `Ignored` each say what the frame is and all that its
delivery does, up to its end, when what stood on the agenda before it stands there again.

Results:
1. `Course.promised`: a request that waits has a future that is unresolved.
2. `visits`: the listeners of a push run one after the other, and nothing else is done between them.
3. `routed_once`: exactly one of the three happens to a frame.
-/

namespace Intercom

/-! ## Definitions -/

/-- `Finishes delivery later channel`: at once or in the next moment the delivery is at its end,
without a callback, and has left that channel. -/
def Finishes (delivery : Moment) (later : List Moment) (channel : Channel) : Prop :=
  delivery.after = ⟨delivery.scene.rest delivery.event, channel⟩ ∨
    ∃ routing others generation message, later = routing :: others ∧
      routing.scene = delivery.after ∧ delivery.after.channel = delivery.scene.channel ∧
      routing.Does (.route generation message) (delivery.scene.rest delivery.event) ∧
      routing.after = ⟨delivery.scene.rest delivery.event, channel⟩

/-- The frame is the answer to a request that waits. The request is taken out with its alarm, its
future gets the result, and everything else stays as it is. -/
structure Answered (delivery : Moment) (later : List Moment) (text : String) (answer : Response) :
    Prop where
  decoded : Message.decode text.toList = .ok (some (.response answer))
  waits : delivery.scene.channel.isPending answer.id = true
  promised : ∃ future ∈ delivery.scene.channel.futures,
    future.id = answer.id ∧ future.outcome = none
  finishes : ∃ alarms, alarms.Sublist delivery.scene.channel.alarms ∧
    Finishes delivery later
      { delivery.scene.channel with
        alarms
        pending := delivery.scene.channel.pending.filter fun waiting => waiting.id != answer.id
        futures := delivery.scene.channel.futures.map fun future =>
          if future.id = answer.id && future.outcome.isNone then
            { future with outcome := some answer.result }
          else future }

/-- The frame holds no message, or an answer that nobody waits for and that names no event. Nothing
happens. -/
structure Ignored (delivery : Moment) (later : List Moment) (text : String) : Prop where
  unaddressed : Message.decode text.toList = .ok none ∨
    (∃ fault, Message.decode text.toList = .error fault) ∨
    ∃ answer, Message.decode text.toList = .ok (some (.response answer)) ∧
      delivery.scene.channel.isPending answer.id = false ∧ answer.event = none
  finishes : Finishes delivery later delivery.scene.channel

/-- `Visits push below listeners moments`: in these moments the listeners run one after the other,
each for the push, until all have run and nothing is left but `below`. The last one may still be
running. -/
inductive Visits (push : Push) (below : Agenda) : List (Listener Hook) → List Moment → Prop where
  | done {completed : Nat} {moment : Moment} {others : List Moment} :
      moment.Does (.deliver push none [] completed) below →
      moment.after = ⟨below, moment.scene.channel⟩ → Visits push below [] (moment :: others)
  | pause {listener : Listener Hook} {listeners : List (Listener Hook)} {completed : Nat}
      {moment : Moment} {inside : List Moment} :
      moment.Does (.deliver push none (listener :: listeners) completed) below →
      Turn (.deliver listener push) (.listener push listeners completed) below moment inside →
      Visits push below (listener :: listeners) (moment :: inside)
  | next {listener : Listener Hook} {listeners : List (Listener Hook)} {completed : Nat}
      {moment : Moment} {inside others : List Moment} :
      moment.Does (.deliver push none (listener :: listeners) completed) below →
      Turn (.deliver listener push) (.listener push listeners completed) below moment inside →
      Visits push below listeners others →
      Visits push below (listener :: listeners) (moment :: (inside ++ others))

/-- The listeners for the event of the push are found, and they run. -/
inductive Broadcasts (push : Push) (below : Agenda) : List Moment → Prop where
  | visit {moment : Moment} {others : List Moment} :
      moment.Does (.broadcast push) below →
      moment.after.channel = moment.scene.channel →
      Visits push below (moment.scene.channel.listeners.ofEvent push.event) others →
      Broadcasts push below (moment :: others)

/-- The push is acted on: a greeting is taken note of, and nothing else is. -/
structure Dispatches (generation : Nat) (push : Push) (below : Agenda) (moment : Moment) :
    Prop where
  does : moment.Does (.dispatch generation push) below
  greets : moment.after.channel =
    if push.isHello then (moment.scene.channel.greet push).2 else moment.scene.channel

/-- The push is a greeting, and the first one since the channel was last not ready. -/
def Moment.FirstHello (push : Push) (moment : Moment) : Prop :=
  push.isHello = true ∧ moment.scene.channel.link.ready = false

/-- `Acts generation push below moments`: the push is acted on in these moments. A first greeting
gives the connect callback its turn before the listeners. -/
inductive Acts (generation : Nat) (push : Push) (below : Agenda) : List Moment → Prop where
  | broadcast {moment : Moment} {others : List Moment} :
      Dispatches generation push below moment → ¬ moment.FirstHello push →
      Broadcasts push below others → Acts generation push below (moment :: others)
  | unheard {moment announcing : Moment} {others : List Moment} :
      Dispatches generation push below moment → moment.FirstHello push →
      announcing.Does (.announceReady generation) (.broadcast push :: below) →
      announcing.scene.channel.onConnect = none →
      announcing.after.channel = announcing.scene.channel →
      Broadcasts push below others → Acts generation push below (moment :: announcing :: others)
  | pause {moment announcing : Moment} {hook : Hook} {inside : List Moment} :
      Dispatches generation push below moment → moment.FirstHello push →
      announcing.Does (.announceReady generation) (.broadcast push :: below) →
      Turn (.connect hook) .plain (.broadcast push :: below) announcing inside →
      Acts generation push below (moment :: announcing :: inside)
  | heard {moment announcing : Moment} {hook : Hook} {inside others : List Moment} :
      Dispatches generation push below moment → moment.FirstHello push →
      announcing.Does (.announceReady generation) (.broadcast push :: below) →
      Turn (.connect hook) .plain (.broadcast push :: below) announcing inside →
      Broadcasts push below others →
      Acts generation push below (moment :: announcing :: (inside ++ others))

/-- The frame is a push, or an answer that nobody waits for and that names an event. It is routed in
the next moment, which changes nothing, and then acted on. -/
structure Pushed (delivery : Moment) (later : List Moment) (generation : Nat) (text : String)
    (push : Push) : Prop where
  meant : Message.decode text.toList = .ok (some (.push push)) ∨
    ∃ answer, Message.decode text.toList = .ok (some (.response answer)) ∧
      delivery.scene.channel.isPending answer.id = false ∧ answer.toPush? = some push
  acts : ∃ routing others message, later = routing :: others ∧
    routing.scene = delivery.after ∧ delivery.after.channel = delivery.scene.channel ∧
    routing.Does (.route generation message) (delivery.scene.rest delivery.event) ∧
    routing.after.channel = delivery.scene.channel ∧
    Acts generation push (delivery.scene.rest delivery.event) others

/-- Where a frame goes. -/
inductive Destination where
  | request (answer : Response)
  | listeners (push : Push)
  | nobody

/-- The delivery of a frame takes it to the destination. -/
def Reaches (delivery : Moment) (later : List Moment) (generation : Nat) (text : String) :
    Destination → Prop
  | .request answer => Answered delivery later text answer
  | .listeners push => Pushed delivery later generation text push
  | .nobody => Ignored delivery later text

namespace Channel

/-- Where a frame is to go. -/
def destination (channel : Channel) (text : String) : Destination :=
  match Message.decode text.toList with
  | .ok (some (.response answer)) =>
      if channel.isPending answer.id then .request answer
      else
        match answer.toPush? with
        | some push => .listeners push
        | none => .nobody
  | .ok (some (.push push)) => .listeners push
  | _ => .nobody

/-- Each request that waits has a future that is unresolved. -/
def Promised (channel : Channel) : Prop :=
  ∀ waiting ∈ channel.pending, ∃ future ∈ channel.futures,
    future.id = waiting.id ∧ future.outcome = none

end Channel

/-! ## Waiting requests and their futures -/

namespace Channel

variable {channel after : Channel}

theorem Promised.of_eq (promised : channel.Promised) (pending : after.pending = channel.pending)
    (futures : after.futures = channel.futures) : after.Promised := by
  unfold Promised
  rw [pending, futures]
  exact promised

/-- A change to futures that leaves the identifiers, and the unresolved ones of waiting requests
unresolved, leaves the promises. -/
theorem Promised.map (promised : channel.Promised) (change : Future → Future)
    (pending : ∀ waiting ∈ after.pending, waiting ∈ channel.pending)
    (futures : after.futures = channel.futures.map change)
    (kept : ∀ future waiting, waiting ∈ after.pending → future.id = waiting.id →
      (change future).id = future.id ∧ (change future).outcome = future.outcome) :
    after.Promised := by
  intro waiting present
  obtain ⟨future, promise, same, unresolved⟩ := promised waiting (pending waiting present)
  obtain ⟨sameId, sameOutcome⟩ := kept future waiting present same
  refine ⟨change future, ?_, sameId.trans same, sameOutcome.trans unresolved⟩
  rw [futures]
  exact List.mem_map_of_mem promise

theorem settle_eq {id : RequestId} (waits : channel.isPending id = true) (outcome : Outcome) :
    ∃ alarms, alarms.Sublist channel.alarms ∧
      channel.settle id outcome =
        { channel with
          alarms
          pending := channel.pending.filter fun other => other.id != id
          futures := channel.futures.map fun future =>
            if future.id = id && future.outcome.isNone then { future with outcome := some outcome }
            else future } := by
  obtain ⟨ticket, same⟩ := settle_of_waiting waits outcome
  rw [same]
  cases ticket with
  | none => exact ⟨channel.alarms, List.Sublist.refl _, rfl⟩
  | some ticket => exact ⟨_, List.filter_sublist, rfl⟩

theorem Promised.settle (promised : channel.Promised) (id : RequestId) (outcome : Outcome) :
    (channel.settle id outcome).Promised := by
  cases waits : channel.isPending id with
  | false => rwa [settle_of_absent waits]
  | true =>
      obtain ⟨alarms, _, same⟩ := settle_eq waits outcome
      rw [same]
      refine promised.map _ (fun waiting left => (List.mem_filter.mp left).1) rfl
        fun future waiting left own => ?_
      have other : future.id ≠ id := by
        rw [own]
        simpa using (List.mem_filter.mp left).2
      simp [other]

theorem Promised.settleEach (promised : channel.Promised) (requests : List Waiting)
    (outcome : Outcome) : (channel.settleEach requests outcome).Promised := by
  induction requests generalizing channel with
  | nil => exact promised
  | cons first rest ih => exact ih (promised.settle first.id outcome)

theorem futures_register (channel : Channel) (id : RequestId) (event : String) (generation : Nat)
    (timeout : Duration) :
    (channel.register id event generation timeout).futures = channel.futures ++ [{ id := id }] := by
  rw [register_eq]
  rfl

theorem Promised.register (promised : channel.Promised) (id : RequestId) (event : String)
    (generation : Nat) (timeout : Duration) :
    (channel.register id event generation timeout).Promised := by
  intro waiting present
  rw [futures_register]
  rcases mem_register _ _ _ _ _ present with ⟨same, _⟩ | ⟨before, old, same, _⟩
  · exact ⟨{ id := id }, List.mem_append_right _ (List.mem_singleton_self _), same.symm, rfl⟩
  · obtain ⟨future, promise, own, unresolved⟩ := promised before old
    exact ⟨future, List.mem_append_left _ promise, own.trans same, unresolved⟩

theorem futures_cancelAlarm (channel : Channel) (ticket : Option Nat) :
    (channel.cancelAlarm ticket).futures = channel.futures := by
  cases ticket <;> rfl

theorem futures_openSocket (channel : Channel) : channel.openSocket.futures = channel.futures := by
  unfold openSocket
  split
  · rfl
  · exact channel.futures_cancelAlarm channel.link.alarm

theorem futures_loseSocket (channel : Channel) : channel.loseSocket.futures = channel.futures := by
  unfold loseSocket
  cases channel.link.socket <;> rfl

theorem futures_closeLink (closed : channel.closeLink? = some after) :
    after.futures = channel.futures := by
  unfold closeLink? at closed
  split at closed
  · cases closed
    exact channel.futures_loseSocket
  · rw [← channel.futures_loseSocket]
    unfold scheduleReconnect? at closed
    split at closed
    · dsimp only at closed
      split at closed <;> cases closed <;> rfl
    · cases closed

end Channel

/-- Every effect leaves the promises. -/
theorem Effect.promised {channel : Channel} (promised : channel.Promised) (effect : Effect) :
    (effect.apply channel).Promised := by
  cases effect with
  | openSocket =>
      exact promised.of_eq channel.keeps_openSocket.pending channel.futures_openSocket
  | releaseSocket =>
      exact promised.of_eq channel.keeps_releaseSocket.pending
        (channel.futures_cancelAlarm channel.link.alarm)
  | register event timeout =>
      have numbered : Channel.Promised { channel with ids := channel.ids.take.2 } :=
        promised.of_eq rfl rfl
      exact numbered.register _ _ _ _
  | settle id outcome => exact promised.settle id outcome
  | reject generation => exact promised.settleEach _ _
  | close =>
      cases closed : channel.closeLink? with
      | some after =>
          simp only [apply, closed, Option.getD_some]
          exact promised.of_eq (Channel.keeps_closeLink closed).pending
            (Channel.futures_closeLink closed)
      | none =>
          simp only [apply, closed, Option.getD_none]
          exact promised.of_eq channel.keeps_loseSocket.pending channel.futures_loseSocket
  | forget id =>
      refine promised.map _ (fun _ present => present) rfl fun future waiting _ _ => ?_
      split <;> exact ⟨rfl, rfl⟩
  | collect =>
      refine promised.map _ (fun _ present => present) rfl fun future waiting _ _ => ?_
      split <;> exact ⟨rfl, rfl⟩
  | _ => exact promised.of_eq rfl rfl

namespace Course

/-- A request that waits has an unresolved future, whatever the channel has gone through. -/
theorem promised {first last : Channel} {past : List Moment} (course : Course first past last)
    (begins : first.Promised) : last.Promised := by
  refine (course.preserves Channel.Promised (fun moment promised => ?_) begins).1
  have found : moment.found.Promised := by
    unfold Moment.found
    split
    · next notice _ => cases notice <;> exact promised.of_eq rfl rfl
    · exact promised
  rw [moment.after_eq]
  exact Effect.promised found moment.effect

end Course

/-! ## A push that is acted on -/

section Acting

variable {first last : Scene} {moments : List Moment} {push : Push} {below : Agenda}

/-- The listeners of a push run one after the other, by induction on those that are left. -/
theorem visits {listeners : List (Listener Hook)} {completed : Nat} (run : Run first moments last)
    (free : last.free = true)
    (agenda : first.agenda = .deliver push none listeners completed :: below) :
    Visits push below listeners moments := by
  induction listeners generalizing first moments completed with
  | nil =>
      obtain ⟨moment, later, rfl, _, does, _⟩ := run.does_of_busy agenda rfl free
      exact .done does does.after_eq
  | cons listener listeners ih =>
      obtain ⟨moment, later, rfl, _, does, onward⟩ := run.does_of_busy agenda rfl free
      have turn := Turn.of_deliver does
      rcases onward.busy turn.begins with
        ⟨runs, _⟩ | ⟨inside, others, middle, left, rfl, runs, leaves, ended, goes⟩
      · exact .pause does (turn.goes runs)
      · cases leaves
        exact .next does (turn.goes runs) (ih goes ended)

theorem broadcasts (run : Run first moments last) (free : last.free = true)
    (agenda : first.agenda = .broadcast push :: below) : Broadcasts push below moments := by
  obtain ⟨moment, later, rfl, _, does, onward⟩ := run.does_of_busy agenda rfl free
  have delivers : moment.after.agenda =
      .deliver push none (moment.scene.channel.listeners.ofEvent push.event) 0 :: below := by
    rw [does.after_eq]
    rfl
  refine .visit does ?_ (visits onward free delivers)
  rw [does.after_eq]
  rfl

/-- A first greeting leads to the connect callback and then to the listeners, any other push to the
listeners alone. -/
theorem leads_of_dispatch {moment : Moment} {generation : Nat}
    (does : moment.Does (.dispatch generation push) below)
    (current : moment.scene.channel.link.generation = generation) :
    Dispatches generation push below moment ∧
      (moment.FirstHello push →
        moment.after.agenda = .announceReady generation :: .broadcast push :: below) ∧
      (¬ moment.FirstHello push → moment.after.agenda = .broadcast push :: below) := by
  have after := does.after_eq
  unfold Moment.FirstHello
  cases hello : push.isHello with
  | false =>
      simp only [Task.run, hello, Bool.false_and, Bool.false_eq_true, if_false] at after
      exact ⟨⟨does, by simp [after, hello]⟩, fun first => absurd first.1 Bool.false_ne_true,
        fun _ => by rw [after]; rfl⟩
  | true =>
      simp only [Task.run, hello, current, Bool.true_and, decide_true, if_true] at after
      refine ⟨⟨does, by simp [after, hello]⟩, fun first => ?_, fun again => ?_⟩
      · rw [after]
        simp [Channel.greet, first.2]
      · have ready : moment.scene.channel.link.ready = true := by
          cases ready : moment.scene.channel.link.ready with
          | true => rfl
          | false => exact absurd ⟨rfl, ready⟩ again
        rw [after]
        simp [Channel.greet, ready]

theorem acts {generation : Nat} (run : Run first moments last) (free : last.free = true)
    (agenda : first.agenda = .dispatch generation push :: below)
    (current : first.channel.link.generation = generation) :
    Acts generation push below moments := by
  obtain ⟨moment, later, rfl, rfl, does, onward⟩ := run.does_of_busy agenda rfl free
  obtain ⟨dispatches, announced, other⟩ := leads_of_dispatch does current
  by_cases isFirst : moment.FirstHello push
  · obtain ⟨announcing, later, rfl, _, announces, onward⟩ :=
      onward.does_of_busy (announced isFirst) rfl free
    have after := announces.after_eq
    cases registered : announcing.scene.channel.onConnect with
    | none =>
        simp only [Task.run, registered] at after
        refine .unheard dispatches isFirst announces registered ?_ (broadcasts onward free ?_)
        · rw [after]
        · rw [after]
          rfl
    | some hook =>
        have turn := Turn.of_announce announces registered
        rcases onward.busy turn.begins with
          ⟨runs, _⟩ | ⟨inside, others, middle, left, rfl, runs, leaves, ended, goes⟩
        · exact .pause dispatches isFirst announces (turn.goes runs)
        · cases leaves
          exact .heard dispatches isFirst announces (turn.goes runs) (broadcasts goes free ended)
  · exact .broadcast dispatches isFirst (broadcasts onward free (other isFirst))

end Acting

/-! ## A delivery -/

namespace Moment

variable {moment : Moment} {generation : Nat} {text : String}

/-- A frame is taken in by the channel as it is. -/
theorem after_of_frame (taken : moment.notice? = some (generation, .message text)) :
    moment.after =
      ⟨((Task.receive generation (.message text)).run moment.scene.channel).1 ++
          moment.scene.rest moment.event,
        ((Task.receive generation (.message text)).run moment.scene.channel).2⟩ := by
  have found : moment.found = moment.scene.channel := by
    unfold found
    split
    · next event =>
        unfold notice? at taken
        rw [event] at taken
        cases taken
        rfl
    · rfl
  obtain ⟨leads, after⟩ := after_of_notice taken
  rw [after, leads, found]

/-- No request's time is over when a frame is taken in. -/
theorem no_expiry_of_frame (taken : moment.notice? = some (generation, .message text))
    (allowed : moment.scene.allows moment.event = true) (id : RequestId) (timeout : Duration) :
    moment.scene.agenda.head? ≠ some (.expire id timeout) := by
  intro head
  obtain ⟨⟨agenda, channel⟩, event⟩ := moment
  cases event with
  | socket => simp [Scene.allows, Scene.free, head, Task.isCallback] at allowed
  | work => simp [notice?, head] at taken
  | _ => cases taken

end Moment

/-- A frame that is read is routed in the next moment. -/
theorem routing_of_delivery {first scene : Scene} {earlier later : List Moment} {delivery : Moment}
    {generation : Nat} {text : String} {message : Message}
    (run : Run first (earlier ++ delivery :: later) scene) (free : scene.free = true)
    (taken : delivery.notice? = some (generation, .message text))
    (current : delivery.scene.channel.link.generation = generation)
    (decoded : Message.decode text.toList = .ok (some message)) :
    delivery.after.channel = delivery.scene.channel ∧
      ∃ routing others, later = routing :: others ∧ routing.scene = delivery.after ∧
        routing.Does (.route generation message) (delivery.scene.rest delivery.event) ∧
        Run routing.after others scene := by
  have after : delivery.after =
      ⟨.route generation message :: delivery.scene.rest delivery.event,
        delivery.scene.channel⟩ := by
    rw [Moment.after_of_frame taken]
    simp [Task.run, current, decoded]
  refine ⟨by rw [after], ?_⟩
  obtain ⟨routing, others, rfl, same, does, onward⟩ :=
    run.onward.does_of_busy (by rw [after]) rfl free
  exact ⟨routing, others, rfl, same, does, onward⟩

namespace Reaches

variable {delivery : Moment} {later : List Moment} {generation : Nat} {text : String}

/-- What the frame is decides where it goes. -/
theorem eq_destination {destination : Destination}
    (reaches : Reaches delivery later generation text destination) :
    destination = delivery.scene.channel.destination text := by
  unfold Channel.destination
  cases destination with
  | request answer => simp [reaches.decoded, reaches.waits]
  | listeners push =>
      rcases reaches.meant with decoded | ⟨answer, decoded, absent, named⟩
      · simp [decoded]
      · simp [decoded, absent, named]
  | nobody =>
      rcases reaches.unaddressed with
        decoded | ⟨fault, decoded⟩ | ⟨answer, decoded, absent, unnamed⟩
      · simp [decoded]
      · simp [decoded]
      · simp [decoded, absent, Response.toPush?, unnamed]

end Reaches

section Delivering

variable {first scene : Scene} {earlier later : List Moment} {delivery : Moment}
  {generation : Nat} {text : String}

theorem answered {answer : Response} (run : Run first (earlier ++ delivery :: later) scene)
    (begins : first.channel.Promised) (free : scene.free = true)
    (taken : delivery.notice? = some (generation, .message text))
    (current : delivery.scene.channel.link.generation = generation)
    (decoded : Message.decode text.toList = .ok (some (.response answer)))
    (waits : delivery.scene.channel.isPending answer.id = true) :
    Answered delivery later text answer := by
  have promised := run.at_moment.1.course.promised begins
  obtain ⟨waiting, present, same⟩ := Channel.isPending_iff.mp waits
  refine ⟨decoded, waits, same ▸ promised waiting present, ?_⟩
  obtain ⟨kept, routing, others, rfl, follows, does, _⟩ :=
    routing_of_delivery run free taken current decoded
  obtain ⟨alarms, fewer, settled⟩ := Channel.settle_eq waits answer.result
  refine ⟨alarms, fewer, .inr ⟨routing, others, generation, _, rfl, follows, kept, does, ?_⟩⟩
  rw [does.after_eq, follows, kept]
  simp only [Task.run, waits, if_true, settled, List.nil_append]

theorem pushed {message : Message} {push : Push}
    (run : Run first (earlier ++ delivery :: later) scene) (free : scene.free = true)
    (taken : delivery.notice? = some (generation, .message text))
    (current : delivery.scene.channel.link.generation = generation)
    (decoded : Message.decode text.toList = .ok (some message))
    (routes : (Task.route generation message).run delivery.scene.channel =
      ([.dispatch generation push], delivery.scene.channel)) :
    ∃ routing others message, later = routing :: others ∧
      routing.scene = delivery.after ∧ delivery.after.channel = delivery.scene.channel ∧
      routing.Does (.route generation message) (delivery.scene.rest delivery.event) ∧
      routing.after.channel = delivery.scene.channel ∧
      Acts generation push (delivery.scene.rest delivery.event) others := by
  obtain ⟨kept, routing, others, rfl, follows, does, onward⟩ :=
    routing_of_delivery run free taken current decoded
  have after := does.after_eq
  rw [follows, kept, routes] at after
  refine ⟨routing, others, message, rfl, follows, kept, does, by rw [after], ?_⟩
  exact acts onward free (by rw [after]; rfl) (by rw [after]; exact current)

theorem ignored_at_once (taken : delivery.notice? = some (generation, .message text))
    (stops : (Task.receive generation (.message text)).run delivery.scene.channel =
      ([], delivery.scene.channel)) : Finishes delivery later delivery.scene.channel := by
  refine .inl ?_
  rw [Moment.after_of_frame taken, stops]
  rfl

/-- A frame reaches the destination that what it is decides. -/
theorem reaches (run : Run first (earlier ++ delivery :: later) scene)
    (begins : first.channel.Promised) (free : scene.free = true)
    (taken : delivery.notice? = some (generation, .message text))
    (current : delivery.scene.channel.link.generation = generation) :
    Reaches delivery later generation text (delivery.scene.channel.destination text) := by
  unfold Channel.destination
  cases decoded : Message.decode text.toList with
  | error fault =>
      exact ⟨.inr (.inl ⟨fault, decoded⟩),
        ignored_at_once taken (by simp [Task.run, current, decoded])⟩
  | ok read =>
      cases read with
      | none =>
          exact ⟨.inl decoded, ignored_at_once taken (by simp [Task.run, current, decoded])⟩
      | some message =>
          cases message with
          | push push => exact ⟨.inl decoded, pushed run free taken current decoded rfl⟩
          | response answer =>
              cases waits : delivery.scene.channel.isPending answer.id with
              | true =>
                  simp only [waits, if_true]
                  exact answered run begins free taken current decoded waits
              | false =>
                  simp only [waits, Bool.false_eq_true, if_false]
                  cases named : answer.toPush? with
                  | some push =>
                      refine ⟨.inr ⟨answer, decoded, waits, named⟩,
                        pushed run free taken current decoded ?_⟩
                      simp [Task.run, waits, named]
                  | none =>
                      refine ⟨.inr (.inr ⟨answer, decoded, waits, Option.map_eq_none_iff.mp named⟩),
                        ?_⟩
                      obtain ⟨kept, routing, others, rfl, follows, does, _⟩ :=
                        routing_of_delivery run free taken current decoded
                      refine .inr ⟨routing, others, generation, _, rfl, follows, kept, does, ?_⟩
                      rw [does.after_eq, follows, kept]
                      simp [Task.run, waits, named]

end Delivering

/-- A frame that the latest socket delivers answers one request that waits, or it is a push that is
acted on, or nothing happens, and never more than one of these. As long as identifiers are not given
anew, no two requests wait with the same one. -/
theorem routed_once {settings : Settings} {draw : Nat → Nat} {earlier later : List Moment}
    {delivery : Moment} {scene : Scene} {generation : Nat} {text : String}
    (run : Run (.start settings draw) (earlier ++ delivery :: later) scene)
    (free : scene.free = true) (taken : delivery.notice? = some (generation, .message text))
    (current : delivery.scene.channel.link.generation = generation) :
    (∃! destination, Reaches delivery later generation text destination) ∧
      ((issues earlier).length < UInt64.size →
        (delivery.scene.channel.pending.map Waiting.id).Nodup) := by
  have begins : (Scene.start settings draw).channel.Promised :=
    fun _ absent => absurd absent List.not_mem_nil
  constructor
  · exact ⟨_, reaches run begins free taken current, fun _ other => other.eq_destination⟩
  · intro few
    obtain ⟨before, allowed⟩ := run.at_moment
    exact ((before.ticking few).calm (Moment.no_expiry_of_frame taken allowed)).single

/-- A listener for greetings, a callback for a channel that is ready, and a request that waits. -/
def awaited : List Event :=
  [.call none (.on "hello" (.make "listener" [] none)),
    .call none (.onConnect (.make "connected" [] none)), .call none .connect,
    .call none (.request "ask" none none), .work, .socket 1 .opened]

/-- An answer that names an event. -/
def namedAnswer : String :=
  "\x7b\"id\":1,\"event\":\"hello\"\x7d"

/-- An answer to a request that waits is no greeting, whatever event it names. -/
theorem routed_once_namedAnswer : ∃ past scene,
    (Scene.start default fun _ => 0).play [] awaited = some (past, scene) ∧
      ∃ delivery later last, Run (.start default fun _ => 0) (past ++ delivery :: later) last ∧
        last.free = true ∧ delivery.notice? = some (1, .message namedAnswer) ∧
        delivery.scene.channel.link.generation = 1 ∧
        Reaches delivery later 1 namedAnswer
          (.request ⟨⟨1⟩, none, none, none, some "hello", none⟩) ∧
        ∃! destination, Reaches delivery later 1 namedAnswer destination := by
  have seen : (((Scene.start default fun _ => 0).play [] awaited).map fun played =>
      let told := played.2.after (.socket 1 (.message namedAnswer))
      (played.2.allows (.socket 1 (.message namedAnswer)), told.allows .work,
        (told.after .work).free, played.2.channel.isPending ⟨1⟩,
        played.2.channel.link.generation)) = some (true, true, true, true, 1) := by
    cbv
  obtain ⟨⟨past, scene⟩, played, views⟩ := Option.map_eq_some_iff.mp seen
  obtain ⟨tells, works, free, waits, current⟩ :=
    Prod.mk.inj views |>.imp_right fun views =>
      Prod.mk.inj views |>.imp_right fun views =>
        Prod.mk.inj views |>.imp_right Prod.mk.inj
  have run := ((Scene.run_of_play .start played).step tells).step works
  rw [List.append_assoc] at run
  have once := (routed_once run free rfl current).1
  have decoded : Message.decode namedAnswer.toList =
      .ok (some (.response ⟨⟨1⟩, none, none, none, some "hello", none⟩)) := by
    cbv
  obtain ⟨destination, reaches, unique⟩ := once
  have same := reaches.eq_destination
  have goes : scene.channel.destination namedAnswer =
      .request ⟨⟨1⟩, none, none, none, some "hello", none⟩ := by
    simp only [Channel.destination, decoded]
    exact if_pos waits
  rw [goes] at same
  exact ⟨past, scene, played, _, _, _, run, free, rfl, current, same ▸ reaches,
    destination, reaches, unique⟩

end Intercom
