import Intercom.Proofs.Routing

/-!
# Listeners as one list

The registry keeps one list of listeners for each event. A `Roster` is one list of all
registrations, whatever their events, in the order in which they were made. Whoever asks the two
for the same gets the same answers.

Results:
1. `Operation.mirrors`: what a registry answers is what the roster answers, and the two stay alike.
2. `Channel.begin_operation`: calls of a client are such operations, and nothing else changes the
   registry.
3. `kept_in_order`: this holds for all sequences of operations, and in every run; there a push is
   delivered to the registrations of its event in the order of the roster.
-/

namespace Intercom

/-! ## Definitions -/

/-- One registration, with the event that it is for. -/
structure Registration (α : Type) where
  event : String
  listener : Listener α

/-- The registrations that are left, the earliest first, and how many were made. -/
structure Roster (α : Type) where
  registrations : List (Registration α) := []
  made : Nat := 0

/-- What can be asked of a registry. -/
inductive Operation (α : Type) where
  | add (event : String) (handler : α)
  | remove (event : String) (which : Option SubscriptionId)
  | count (event : String)
  | dispatch (event : String)

/-- What a registry answers: the identifier of a new registration, how many registrations were
removed or are there, or the listeners that are to run. -/
inductive Found (α : Type) where
  | subscription (id : SubscriptionId)
  | number (n : Nat)
  | snapshot (listeners : List (Listener α))

/-- The reply of a call for which that was found. -/
def Found.reply? {α : Type} : Found α → Option Reply
  | .subscription id => some (.subscription id)
  | .number n => some (.number n)
  | .snapshot _ => none

/-- Whether the listener is the one that is chosen; no choice means all. -/
def Listener.isChosen {α : Type} (which : Option SubscriptionId) (listener : Listener α) : Bool :=
  which.all fun id => listener.id = id

namespace Registration

variable {α : Type}

/-- Whether a registration is for the event. -/
def isFor (event : String) (registration : Registration α) : Bool :=
  registration.event = event

/-- Whether a removal means a registration: it has the event, and the identifier if one is given. -/
def isMeant (event : String) (which : Option SubscriptionId) (registration : Registration α) :
    Bool :=
  registration.isFor event && registration.listener.isChosen which

end Registration

/-- The listeners for an event, the earliest first. -/
def Roster.ofEvent {α : Type} (roster : Roster α) (event : String) : List (Listener α) :=
  (roster.registrations.filter (Registration.isFor event)).map Registration.listener

namespace Operation

variable {α : Type}

/-- The event that is asked about. -/
def event : Operation α → String
  | .add event _ => event
  | .remove event _ => event
  | .count event => event
  | .dispatch event => event

/-- Whether the operation makes a registration. -/
def isAdd : Operation α → Bool
  | .add _ _ => true
  | _ => false

/-- What the registry answers, and the registry after that. -/
def carryOut (registry : Listeners α) : Operation α → Found α × Listeners α
  | .add event handler =>
      let (id, registry) := registry.add event handler
      (.subscription id, registry)
  | .remove event which =>
      let (removed, registry) := registry.remove event which
      (.number removed, registry)
  | .count event => (.number (registry.count event), registry)
  | .dispatch event => (.snapshot (registry.ofEvent event), registry)

/-- What the roster answers, and the roster after that. -/
def enter (roster : Roster α) : Operation α → Found α × Roster α
  | .add event handler =>
      let id : SubscriptionId := ⟨.ofNat (roster.made + 1)⟩
      (.subscription id, ⟨roster.registrations ++ [⟨event, ⟨id, handler⟩⟩], roster.made + 1⟩)
  | .remove event which =>
      (.number (roster.registrations.countP (Registration.isMeant event which)),
        { roster with
          registrations := roster.registrations.filter fun registration =>
            !registration.isMeant event which })
  | .count event => (.number (roster.registrations.countP (Registration.isFor event)), roster)
  | .dispatch event => (.snapshot (roster.ofEvent event), roster)

/-- How many of the operations make a registration. -/
def adds (operations : List (Operation α)) : Nat :=
  operations.countP isAdd

end Operation

/-- The registry after operations on an empty one. -/
def Listeners.after {α : Type} (operations : List (Operation α)) : Listeners α :=
  operations.foldl (fun registry operation => (operation.carryOut registry).2) {}

/-- The roster after operations on an empty one. -/
def Roster.after {α : Type} (operations : List (Operation α)) : Roster α :=
  operations.foldl (fun roster operation => (operation.enter roster).2) {}

/-- `Mirrors roster registry`: for each event the registry has the listeners of the roster, in the
same order. It has one entry for an event at most, and none without listeners. -/
structure Mirrors {α : Type} (roster : Roster α) (registry : Listeners α) : Prop where
  ofEvent : ∀ event, registry.ofEvent event = roster.ofEvent event
  last : registry.last = ⟨.ofNat roster.made⟩
  ordered : Table.Ordered registry.byEvent
  noneEmpty : registry.NoneEmpty

/-- Identifiers grow along a roster, and no identifier is beyond the last that was given. -/
structure Roster.Rising {α : Type} (roster : Roster α) : Prop where
  grow : roster.registrations.Pairwise fun first second =>
    first.listener.id.value < second.listener.id.value
  given : ∀ registration ∈ roster.registrations,
    registration.listener.id.value.toNat ≤ roster.made

/-- The call that a task is about to make, and the registration of the listener that makes it. -/
def Task.caller? : Task → Option (Option SubscriptionId × Call)
  | .callback ⟨_, own, .call call :: _⟩ => some (own, call)
  | .deliver _ (some ⟨_, own, .call call :: _⟩) _ _ => some (own, call)
  | _ => none

/-- What a call asks of the registry. -/
def Call.operation? (own : Option SubscriptionId) (channel : Channel) :
    Call → Option (Operation Hook)
  | .on event script => some (.add event (channel.addHook script).1)
  | .off event .all => some (.remove event none)
  | .off event (.one id) => some (.remove event (some id))
  | .off event .own => some (.remove event own)
  | .count event => some (.count event)
  | _ => none

namespace Moment

/-- The call that is begun, and the registration of the listener that makes it. -/
def caller? (moment : Moment) : Option (Option SubscriptionId × Call) :=
  match moment.event with
  | .call own call => some (own, call)
  | .work => moment.scene.agenda.head?.bind Task.caller?
  | _ => none

/-- What is asked of the registry, by a call or for a push. -/
def operation? (moment : Moment) : Option (Operation Hook) :=
  match moment.caller? with
  | some (own, call) => call.operation? own moment.scene.channel
  | none =>
      match moment.task? with
      | some (.broadcast push) => some (.dispatch push.event)
      | _ => none

/-- The reply to the call that is begun. -/
def reply? (moment : Moment) : Option Reply :=
  moment.caller?.map fun (own, call) => (call.begin own moment.scene.channel).1

end Moment

/-- What was asked of the registry, the earliest first. -/
def operations (past : List Moment) : List (Operation Hook) :=
  past.filterMap Moment.operation?

/-- A registry behaves as one list under these operations. -/
structure KeptInOrder {α : Type} (operations : List (Operation α)) : Prop where
  mirrors : Mirrors (Roster.after operations) (Listeners.after operations)
  /-- Each answer is that of the roster. -/
  answers : ∀ earlier operation later, operations = earlier ++ operation :: later →
    (operation.carryOut (Listeners.after earlier)).1 = (operation.enter (Roster.after earlier)).1
  /-- Each registration gets an identifier above those of all earlier ones, for whatever events. -/
  rising : ∀ earlier event handler between name other later,
    operations = earlier ++ .add event handler :: between ++ .add name other :: later →
      ((Listeners.after earlier).add event handler).1.value <
        ((Listeners.after (earlier ++ .add event handler :: between)).add name other).1.value
  /-- Event and identifier together mean one registration at most. -/
  single : ∀ event id,
    (Roster.after operations).registrations.countP (Registration.isMeant event (some id)) ≤ 1
  /-- An operation leaves the listeners of every other event, and their order. -/
  others : ∀ earlier operation later name, operations = earlier ++ operation :: later →
    operation.event ≠ name →
      (operation.carryOut (Listeners.after earlier)).2.ofEvent name =
        (Listeners.after earlier).ofEvent name

/-- The registry of a channel, after these moments, is the one that calls and pushes ask. -/
structure AskedInOrder (past : List Moment) (scene : Scene) : Prop where
  registry : scene.channel.listeners = Listeners.after (operations past)
  /-- A call is replied to with what the roster answers. -/
  replies : ∀ earlier moment later operation, past = earlier ++ moment :: later →
    moment.operation? = some operation →
      moment.reply? = (operation.enter (Roster.after (operations earlier))).1.reply?
  /-- A push is delivered to the registrations of its event, one after the other, in the order of
  the roster. -/
  deliveries : scene.free = true → ∀ earlier moment later push, past = earlier ++ moment :: later →
    moment.task? = some (.broadcast push) →
      ∃ below, Visits push below ((Roster.after (operations earlier)).ofEvent push.event) later

/-! ## One operation -/

namespace Roster

variable {α : Type} {roster : Roster α}

theorem count_eq (roster : Roster α) (event : String) :
    roster.registrations.countP (Registration.isFor event) = (roster.ofEvent event).length := by
  rw [ofEvent, List.length_map, List.countP_eq_length_filter]

theorem ofEvent_add (roster : Roster α) (event name : String) (handler : α) :
    ((Operation.add event handler).enter roster).2.ofEvent name =
      if event = name then roster.ofEvent event ++ [⟨⟨.ofNat (roster.made + 1)⟩, handler⟩]
      else roster.ofEvent name := by
  unfold ofEvent Operation.enter
  dsimp only
  rw [List.filter_append, List.map_append]
  split
  · next same =>
      subst same
      simp [Registration.isFor]
  · next other => simp [Registration.isFor, other]

theorem ofEvent_remove (roster : Roster α) (event name : String) (which : Option SubscriptionId) :
    ((Operation.remove event which).enter roster).2.ofEvent name =
      if event = name then
        (roster.ofEvent event).filter fun listener => !listener.isChosen which
      else roster.ofEvent name := by
  unfold ofEvent Operation.enter
  dsimp only
  rw [List.filter_filter]
  split
  · next same =>
      subst same
      rw [List.filter_map, List.filter_filter]
      refine congrArg _ (List.filter_congr fun registration _ => ?_)
      cases isFor : registration.isFor event <;> simp [Registration.isMeant, isFor]
  · next other =>
      refine congrArg _ (List.filter_congr fun registration _ => ?_)
      cases isFor : registration.isFor name with
      | false => rfl
      | true =>
          have differs : registration.isFor event = false := by
            simp only [Registration.isFor, decide_eq_true_eq] at isFor
            simp [Registration.isFor, isFor, Ne.symm other]
          simp [Registration.isMeant, differs]

theorem count_meant (roster : Roster α) (event : String) (which : Option SubscriptionId) :
    roster.registrations.countP (Registration.isMeant event which) =
      (roster.ofEvent event).countP (Listener.isChosen which) := by
  rw [ofEvent, List.countP_map, List.countP_filter]
  refine List.countP_congr fun registration _ => ?_
  rw [Registration.isMeant, Bool.and_comm]
  rfl

end Roster

/-- Among listeners with identifiers of their own, at most one has the identifier. -/
theorem Listener.single {α : Type} {listeners : List (Listener α)} (id : SubscriptionId)
    (distinct : listeners.Pairwise fun first second => first.id ≠ second.id) :
    listeners.countP (fun listener => listener.id = id) =
        (if listeners.any fun listener => listener.id = id then 1 else 0) ∧
      listeners.filter (fun listener => !decide (listener.id = id)) =
        listeners.eraseP fun listener => listener.id = id := by
  induction listeners with
  | nil => exact ⟨rfl, rfl⟩
  | cons listener rest ih =>
      obtain ⟨apart, others⟩ := List.pairwise_cons.mp distinct
      by_cases same : listener.id = id
      · -- it is the one, and no other has its identifier
        have differ : ∀ other ∈ rest, ¬ other.id = id := fun other present equal =>
          apart other present (same.trans equal.symm)
        have none : rest.countP (fun other => decide (other.id = id)) = 0 :=
          List.countP_eq_zero.mpr (by simpa using differ)
        have kept : rest.filter (fun other => !decide (other.id = id)) = rest :=
          List.filter_eq_self.mpr (by simpa using differ)
        simp [same, none, kept]
      · obtain ⟨counted, erased⟩ := ih others
        simp [same, counted, erased]

namespace Listeners

variable {α : Type} {registry : Listeners α}

theorem ordered_store (ordered : Table.Ordered registry.byEvent) (event : String)
    (list : List (Listener α)) : Table.Ordered (registry.store event list).byEvent := by
  unfold store
  dsimp only
  split
  · exact ordered.filter _
  · exact Table.ordered_insert ordered

/-- A removal takes the chosen listeners out of those of its event, and says how many they were. -/
theorem remove_chosen (registry : Listeners α) (event : String) (which : Option SubscriptionId)
    (distinct : (registry.ofEvent event).Pairwise fun first second => first.id ≠ second.id) :
    (registry.remove event which).1 =
        (registry.ofEvent event).countP (Listener.isChosen which) ∧
      ∀ name, (registry.remove event which).2.ofEvent name =
        if event = name then
          (registry.ofEvent event).filter fun listener => !listener.isChosen which
        else registry.ofEvent name := by
  cases which with
  | none =>
      refine ⟨(congrFun List.countP_true _).symm, fun name => ?_⟩
      rw [remove, ofEvent_removeAll]
      split
      · exact (List.filter_eq_nil_iff.mpr fun _ _ => by simp [Listener.isChosen]).symm
      · rfl
  | some id =>
      obtain ⟨counted, erased⟩ := Listener.single id distinct
      constructor
      · refine Eq.trans ?_ counted.symm
        rw [remove, removeOne]
        split <;> rfl
      · intro name
        rw [remove, ofEvent_removeOne, ← erased]
        rfl

theorem last_remove (registry : Listeners α) (event : String) (which : Option SubscriptionId) :
    (registry.remove event which).2.last = registry.last := by
  cases which with
  | none => rfl
  | some id =>
      rw [remove, removeOne]
      split <;> rfl

theorem ordered_remove (ordered : Table.Ordered registry.byEvent) (event : String)
    (which : Option SubscriptionId) :
    Table.Ordered (registry.remove event which).2.byEvent := by
  cases which with
  | none => exact ordered_store ordered event []
  | some id =>
      rw [remove, removeOne]
      split
      · exact ordered_store ordered event _
      · exact ordered

theorem noneEmpty_remove (noneEmpty : registry.NoneEmpty) (event : String)
    (which : Option SubscriptionId) : (registry.remove event which).2.NoneEmpty := by
  cases which with
  | none => exact noneEmpty_removeAll event noneEmpty
  | some id => exact noneEmpty_removeOne event id noneEmpty

/-- An operation leaves the listeners of every other event, and their order. -/
theorem ofEvent_other {operation : Operation α} {name : String} (differ : operation.event ≠ name)
    (registry : Listeners α) :
    (operation.carryOut registry).2.ofEvent name = registry.ofEvent name := by
  cases operation with
  | add event handler => exact (registry.ofEvent_add event name handler).trans (if_neg differ)
  | remove event which =>
      cases which with
      | none => exact (registry.ofEvent_removeAll event name).trans (if_neg differ)
      | some id => exact (registry.ofEvent_removeOne event name id).trans (if_neg differ)
  | count => rfl
  | dispatch => rfl

end Listeners

namespace Mirrors

variable {α : Type} {roster : Roster α} {registry : Listeners α}

theorem distinct (rising : roster.Rising) (event : String) :
    (roster.ofEvent event).Pairwise fun first second => first.id ≠ second.id := by
  refine List.pairwise_map.mpr ((rising.grow.filter _).imp fun less same => ?_)
  rw [same] at less
  exact UInt64.lt_irrefl _ less

theorem id_add (mirrors : Mirrors roster registry) (event : String) (handler : α) :
    (registry.add event handler).1 = ⟨.ofNat (roster.made + 1)⟩ := by
  rw [Listeners.add, mirrors.last, UInt64.ofNat_add]
  rfl

/-- Asked for the same, registry and roster answer the same, and they stay alike. -/
theorem carryOut (mirrors : Mirrors roster registry) (rising : roster.Rising)
    (operation : Operation α) :
    (operation.carryOut registry).1 = (operation.enter roster).1 ∧
      Mirrors (operation.enter roster).2 (operation.carryOut registry).2 := by
  cases operation with
  | add event handler =>
      have id := mirrors.id_add event handler
      refine ⟨congrArg Found.subscription id, fun name => ?_, id, ?_, ?_⟩
      · rw [Roster.ofEvent_add, ← mirrors.ofEvent, ← mirrors.ofEvent, ← id]
        exact registry.ofEvent_add event name handler
      · exact Listeners.ordered_store mirrors.ordered event _
      · exact Listeners.noneEmpty_add event handler mirrors.noneEmpty
  | remove event which =>
      have distinct := distinct rising event
      rw [← mirrors.ofEvent] at distinct
      obtain ⟨removed, left⟩ := registry.remove_chosen event which distinct
      have answer : (registry.remove event which).1 =
          roster.registrations.countP (Registration.isMeant event which) := by
        rw [removed, mirrors.ofEvent, roster.count_meant]
      refine ⟨congrArg Found.number answer, fun name => ?_, ?_, ?_, ?_⟩
      · rw [Roster.ofEvent_remove, ← mirrors.ofEvent, ← mirrors.ofEvent]
        exact left name
      · exact (registry.last_remove event which).trans mirrors.last
      · exact Listeners.ordered_remove mirrors.ordered event which
      · exact Listeners.noneEmpty_remove mirrors.noneEmpty event which
  | count event =>
      refine ⟨congrArg Found.number ?_, mirrors⟩
      rw [Listeners.count, mirrors.ofEvent, roster.count_eq]
  | dispatch event => exact ⟨congrArg Found.snapshot (mirrors.ofEvent event), mirrors⟩

end Mirrors

namespace Roster.Rising

variable {α : Type} {roster : Roster α}

/-- A registration gets an identifier above all that were given, as long as these last. -/
theorem enter (rising : roster.Rising) (operation : Operation α)
    (lasts : operation.isAdd = true → roster.made + 1 < UInt64.size) :
    (operation.enter roster).2.Rising := by
  cases operation with
  | add event handler =>
      have made : (UInt64.ofNat (roster.made + 1)).toNat = roster.made + 1 :=
        UInt64.toNat_ofNat_of_lt' (lasts rfl)
      constructor
      · refine List.pairwise_append.mpr ⟨rising.grow, List.pairwise_singleton _ _, ?_⟩
        intro old present new last
        rw [List.mem_singleton.mp last, UInt64.lt_iff_toNat_lt, made]
        exact Nat.lt_succ_of_le (rising.given old present)
      · intro registration present
        rcases List.mem_append.mp present with old | new
        · exact Nat.le_succ_of_le (rising.given registration old)
        · rw [List.mem_singleton.mp new]
          exact Nat.le_of_eq made
  | remove event which =>
      exact ⟨rising.grow.filter _, fun registration present =>
        rising.given registration (List.mem_filter.mp present).1⟩
  | count => exact rising
  | dispatch => exact rising

end Roster.Rising

/-! ## Sequences of operations -/

section Sequences

variable {α : Type}

theorem Listeners.after_append (operations : List (Operation α)) (operation : Operation α) :
    Listeners.after (operations ++ [operation]) =
      (operation.carryOut (Listeners.after operations)).2 := by
  rw [Listeners.after, List.foldl_append]
  rfl

theorem Roster.after_append (operations : List (Operation α)) (operation : Operation α) :
    Roster.after (operations ++ [operation]) = (operation.enter (Roster.after operations)).2 := by
  rw [Roster.after, List.foldl_append]
  rfl

theorem Operation.adds_append (earlier later : List (Operation α)) :
    adds (earlier ++ later) = adds earlier + adds later :=
  List.countP_append

theorem Roster.made_after (operations : List (Operation α)) :
    (Roster.after operations).made = Operation.adds operations := by
  induction operations using List.reverseRecOn with
  | nil => rfl
  | append_singleton operations operation ih =>
      rw [Roster.after_append, Operation.adds_append, ← ih]
      cases operation <;> rfl

/-- After any operations registry and roster are alike, by induction from one operation. -/
theorem mirrors_after (operations : List (Operation α))
    (few : Operation.adds operations < UInt64.size) :
    (Roster.after operations).Rising ∧
      Mirrors (Roster.after operations) (Listeners.after operations) := by
  induction operations using List.reverseRecOn with
  | nil => exact ⟨⟨.nil, nofun⟩, ⟨fun _ => rfl, rfl, .nil, nofun⟩⟩
  | append_singleton operations operation ih =>
      rw [Operation.adds_append] at few
      obtain ⟨rising, mirrors⟩ := ih (Nat.lt_of_le_of_lt (Nat.le_add_right _ _) few)
      rw [Roster.after_append, Listeners.after_append]
      refine ⟨rising.enter operation fun isAdd => ?_, (mirrors.carryOut rising operation).2⟩
      have one : Operation.adds [operation] = 1 := by simp [Operation.adds, isAdd]
      rw [Roster.made_after, ← one]
      exact few

end Sequences

/-! ## The registry of a channel -/

namespace Call

variable {own : Option SubscriptionId} {call : Call} {channel : Channel}

/-- A call that asks something of the registry is replied to with what the registry answers. -/
theorem begin_operation {operation : Operation Hook}
    (asks : call.operation? own channel = some operation) :
    some (call.begin own channel).1 = (operation.carryOut channel.listeners).1.reply? ∧
      (call.begin own channel).2.2.listeners = (operation.carryOut channel.listeners).2 := by
  cases call with
  | on event script =>
      cases asks
      exact ⟨rfl, rfl⟩
  | off event selection =>
      cases selection <;> cases asks <;> exact ⟨rfl, rfl⟩
  | count event =>
      cases asks
      exact ⟨rfl, rfl⟩
  | _ => cases asks

theorem listeners_begin (silent : call.operation? own channel = none) :
    (call.begin own channel).2.2.listeners = channel.listeners := by
  have apart (about : (call.effect own channel).callbacks? = none) :
      (call.begin own channel).2.2.listeners = channel.listeners := by
    have callbacks := (call.effect own channel).callbacks_apply channel
    rw [begin_effect]
    rw [about] at callbacks
    exact congrArg Callbacks.listeners callbacks
  cases call with
  | on => cases silent
  | off event selection => cases selection <;> cases silent
  | count => cases silent
  | onConnect => rfl
  | onDisconnect => rfl
  | _ => exact apart rfl

end Call

namespace Task

/-- A task that makes no call leaves the registry. -/
theorem listeners_run {task : Task} (silent : task.caller? = none) (channel : Channel) :
    (task.run channel).2.listeners = channel.listeners := by
  cases about : task.isOfCallbacks with
  | false =>
      have callbacks := (task.effect channel).callbacks_apply channel
      rw [callbacks?_effect about] at callbacks
      rw [run_effect]
      exact congrArg Callbacks.listeners callbacks
  | true =>
      cases task with
      | announceReady =>
          simp only [run]
          split <;> rfl
      | announceClose =>
          simp only [run]
          split <;> rfl
      | report => rfl
      | deliver push current listeners completed =>
          cases current with
          | none => cases listeners <;> rfl
          | some running =>
              obtain ⟨label, own, actions⟩ := running
              cases actions with
              | nil => rfl
              | cons action =>
                  cases action with
                  | panic => rfl
                  | call => cases silent
      | callback running =>
          obtain ⟨label, own, actions⟩ := running
          cases actions with
          | nil => rfl
          | cons action =>
              cases action with
              | panic => rfl
              | call => cases silent
      | _ => cases about

/-- A task that makes a call does what the call does. -/
theorem run_caller {task : Task} {own : Option SubscriptionId} {call : Call}
    (calls : task.caller? = some (own, call)) (channel : Channel) :
    (task.run channel).2 = (call.begin own channel).2.2 := by
  unfold caller? at calls
  split at calls
  · cases calls
    rfl
  · cases calls
    rfl
  · cases calls

end Task

namespace Moment

variable {moment : Moment}

theorem after_of_caller {own : Option SubscriptionId} {call : Call}
    (calls : moment.caller? = some (own, call)) :
    moment.after.channel = (call.begin own moment.scene.channel).2.2 := by
  obtain ⟨⟨agenda, channel⟩, event⟩ := moment
  cases event with
  | call =>
      cases calls
      rfl
  | work =>
      cases agenda with
      | nil => cases calls
      | cons task rest => exact task.run_caller calls channel
  | _ => cases calls

theorem listeners_of_silent (silent : moment.caller? = none) :
    moment.after.channel.listeners = moment.scene.channel.listeners := by
  obtain ⟨⟨agenda, channel⟩, event⟩ := moment
  cases event with
  | call => cases silent
  | socket generation notice =>
      refine ((Task.receive generation notice).listeners_run rfl _).trans ?_
      cases notice <;> rfl
  | work =>
      cases agenda with
      | nil => rfl
      | cons task rest => exact task.listeners_run silent channel
  | _ => rfl

/-- What is asked of the registry is answered, and nothing else changes it. -/
theorem listeners_after (moment : Moment) :
    (∀ operation, moment.operation? = some operation →
      moment.reply? = (operation.carryOut moment.scene.channel.listeners).1.reply? ∧
        moment.after.channel.listeners =
          (operation.carryOut moment.scene.channel.listeners).2) ∧
      (moment.operation? = none →
        moment.after.channel.listeners = moment.scene.channel.listeners) := by
  unfold operation? reply?
  cases calls : moment.caller? with
  | some pair =>
      obtain ⟨own, call⟩ := pair
      have after := after_of_caller calls
      constructor
      · intro operation asks
        obtain ⟨replied, changed⟩ := Call.begin_operation asks
        exact ⟨replied, by rw [after, changed]⟩
      · intro silent
        rw [after]
        exact Call.listeners_begin silent
  | none =>
      have kept := listeners_of_silent calls
      refine ⟨fun operation asks => ?_, fun _ => kept⟩
      dsimp only at asks
      split at asks
      · cases asks
        exact ⟨rfl, kept⟩
      · cases asks

end Moment

/-- On every course the registry is the one that was asked. -/
theorem Course.registry {settings : Settings} {draw : Nat → Nat} {past : List Moment}
    {channel : Channel} (course : Course (Scene.start settings draw).channel past channel) :
    channel.listeners = Listeners.after (operations past) := by
  induction course with
  | start => rfl
  | @step past moment _ _ ih =>
      obtain ⟨asked, silent⟩ := moment.listeners_after
      rw [operations, List.filterMap_append]
      cases asks : moment.operation? with
      | none =>
          rw [silent asks, ih]
          simp [asks, operations]
      | some operation =>
          rw [(asked operation asks).2, ih]
          simp [asks, operations, ← Listeners.after_append]

section Keeping

variable {α : Type} {operations : List (Operation α)}

theorem fewer_adds {earlier later : List (Operation α)}
    (few : Operation.adds operations < UInt64.size) (same : operations = earlier ++ later) :
    Operation.adds earlier < UInt64.size := by
  rw [same, Operation.adds_append] at few
  exact Nat.lt_of_le_of_lt (Nat.le_add_right _ _) few

/-- The identifier of a registration tells how many there were up to it. -/
theorem id_add_after {earlier : List (Operation α)} {event : String} {handler : α}
    (few : Operation.adds (earlier ++ [.add event handler]) < UInt64.size) :
    ((Listeners.after earlier).add event handler).1.value.toNat = Operation.adds earlier + 1 := by
  obtain ⟨_, mirrors⟩ := mirrors_after earlier (fewer_adds few rfl)
  rw [mirrors.id_add, Roster.made_after]
  rw [Operation.adds_append] at few
  exact UInt64.toNat_ofNat_of_lt' few

theorem kept (few : Operation.adds operations < UInt64.size) : KeptInOrder operations := by
  obtain ⟨rising, mirrors⟩ := mirrors_after operations few
  constructor
  · exact mirrors
  · intro earlier operation later same
    obtain ⟨rising, mirrors⟩ := mirrors_after earlier (fewer_adds few same)
    exact (mirrors.carryOut rising operation).1
  · intro earlier event handler between name other later same
    have first : operations =
        earlier ++ [.add event handler] ++ (between ++ .add name other :: later) := by
      simp [same]
    have second : operations =
        (earlier ++ .add event handler :: between) ++ [.add name other] ++ later := by
      simp [same]
    rw [UInt64.lt_iff_toNat_lt, id_add_after (fewer_adds few first),
      id_add_after (fewer_adds few second), Operation.adds_append]
    have counts : 1 ≤ Operation.adds (.add event handler :: between) :=
      List.countP_pos_iff.mpr ⟨_, List.mem_cons_self, rfl⟩
    omega
  · intro event id
    rw [Roster.count_meant]
    refine Nat.le_trans (Nat.le_of_eq (Listener.single id (Mirrors.distinct rising event)).1) ?_
    split <;> decide
  · intro earlier operation later name _ differ
    exact Listeners.ofEvent_other differ _

end Keeping

/-- What is asked of the registry in a run is answered from one list. -/
theorem Run.askedInOrder {settings : Settings} {draw : Nat → Nat} {past : List Moment}
    {scene : Scene} (run : Run (.start settings draw) past scene)
    (few : Operation.adds (operations past) < UInt64.size) : AskedInOrder past scene := by
  have upTo {earlier later : List Moment} {moment : Moment}
      (same : past = earlier ++ moment :: later) :
      moment.scene.channel.listeners = Listeners.after (operations earlier) ∧
        (Roster.after (operations earlier)).Rising ∧
        Mirrors (Roster.after (operations earlier)) (Listeners.after (operations earlier)) := by
    subst same
    have joined : operations (earlier ++ moment :: later) =
        operations earlier ++ operations (moment :: later) :=
      List.filterMap_append
    exact ⟨run.at_moment.1.course.registry, mirrors_after _ (fewer_adds few joined)⟩
  constructor
  · exact run.course.registry
  · intro earlier moment later operation same asks
    obtain ⟨registry, rising, mirrors⟩ := upTo same
    rw [(moment.listeners_after.1 operation asks).1, registry,
      (mirrors.carryOut rising operation).1]
  · intro free earlier moment later push same carried
    obtain ⟨registry, _, mirrors⟩ := upTo same
    subst same
    obtain ⟨work, _, below, agenda⟩ := Moment.work_of_task carried
    have after := Moment.Does.after_eq ⟨work, agenda⟩
    have delivers : moment.after.agenda =
        .deliver push none (moment.scene.channel.listeners.ofEvent push.event) 0 :: below := by
      rw [after]
      rfl
    rw [← mirrors.ofEvent, ← registry]
    exact ⟨below, visits run.onward free delivers⟩

/-- A registry behaves as one list of registrations, under any operations; and in every run it is
the registry that was asked, its answers are the replies to calls, and pushes are delivered in the
order of the list. -/
theorem kept_in_order :
    (∀ (α : Type) (operations : List (Operation α)),
      Operation.adds operations < UInt64.size → KeptInOrder operations) ∧
    ∀ (settings : Settings) (draw : Nat → Nat) (past : List Moment) (scene : Scene),
      Run (.start settings draw) past scene →
        Operation.adds (operations past) < UInt64.size → AskedInOrder past scene :=
  ⟨fun _ _ few => kept few, fun _ _ _ _ run few => run.askedInOrder few⟩

/-- Registrations for two events. One removal names the event of another registration, and one event
is left without listeners. -/
def mixedOperations : List (Operation Nat) :=
  [.add "one" 10, .add "two" 20, .add "one" 30, .remove "two" (some ⟨1⟩), .remove "one" (some ⟨1⟩),
    .add "one" 40, .remove "two" none, .count "one", .dispatch "one"]

/-- A listener that removes itself and registers another one for the same event. -/
def movingListener : List Event :=
  [.call none (.on "news" (.make "moving"
      [.call (.off "news" .own), .call (.on "news" (.make "late" [] none))] none)),
    .call none (.on "news" (.make "still" [] none)), .call none .connect, .socket 1 .opened,
    .socket 1 (.message "\x7b\"event\":\"news\"\x7d")] ++ List.replicate 12 .work

theorem kept_in_order_mixed :
    KeptInOrder mixedOperations ∧
      (Roster.after mixedOperations).registrations.map (fun registration =>
        (registration.event, registration.listener.id.value, registration.listener.handler)) =
          [("one", 3, 30), ("one", 4, 40)] ∧
      ∃ past scene, (Scene.start default fun _ => 0).play [] movingListener = some (past, scene) ∧
        scene.free = true ∧ AskedInOrder past scene ∧
        (Roster.after (operations past)).registrations.map (fun registration =>
          registration.listener.id.value) = [2, 3] := by
  have seen : (((Scene.start default fun _ => 0).play [] movingListener).map fun played =>
      (played.2.free, Operation.adds (operations played.1),
        (Roster.after (operations played.1)).registrations.map fun registration =>
          registration.listener.id.value)) = some (true, 3, [2, 3]) := by
    cbv
  obtain ⟨⟨past, scene⟩, played, views⟩ := Option.map_eq_some_iff.mp seen
  obtain ⟨free, adds, left⟩ := Prod.mk.inj views |>.imp_right Prod.mk.inj
  refine ⟨kept_in_order.1 Nat mixedOperations (by decide), by decide, past, scene, played, free, ?_,
    left⟩
  have run := Scene.run_of_play .start played
  exact kept_in_order.2 default (fun _ => 0) past scene run (adds ▸ by decide)

end Intercom
