import Mathlib
import Intercom.Proofs.Callback
import Intercom.Proofs.Fields
import Intercom.Proofs.Origin

/-!
# Identifiers that nobody waits for

A frame with an event is a push. With an identifier as well it is a response, which is read field by
field, and if nobody waits for it, it is turned into a push after all. `Scene.shown` is what can be
told of a use of a channel: the callbacks that it starts, with what they are told, and the channel
in the end.

Results:
1. `Channel.pushIn?_of_named`: an object with an event is the same push whichever way it is read.
2. `shown_untagged`: an identifier that no request has makes no difference to what is shown.
-/

namespace Intercom

/-! ## Definitions -/

/-- What is shown if the events happen: the callbacks that start, and the channel in the end. -/
def Scene.shown (scene : Scene) (events : List Event) : Option (List Invocation × Channel) :=
  (scene.play [] events).map fun (moments, last) =>
    (moments.filterMap Moment.invocation?, last.channel)

/-! ## Two readings of one object -/

namespace Channel

variable {channel : Channel} {event text : String} {members : List (String × Json)}

/-- An object with an event is a push, unless a request waits for it. -/
theorem pushIn?_of_named (read : Message.objectOf text.toList = .ok members)
    (named : Table.find? "event" members = some (.string event))
    (absent : ∀ id, (Table.find? "id" members).bind Message.usableId? = some id →
      channel.isPending id = false) :
    channel.pushIn? text = some (.ofMembers event members) := by
  unfold pushIn?
  rw [Message.decode_of_objectOf read]
  cases numbered : (Table.find? "id" members).bind Message.usableId? with
  | none =>
      rw [Message.ofMembers_of_named numbered named]
      rfl
  | some id =>
      have waits : channel.isPending (Message.responseOf id members).id = false :=
        absent id numbered
      rw [Message.ofMembers_of_usable numbered]
      simp only [Except.map, waits, Bool.false_eq_true, if_false, Push.toPush?_responseOf named]

end Channel

/-! ## What is shown -/

namespace Scene

variable {scene other : Scene}

theorem play_eq (past : List Moment) (scene : Scene) (events : List Event) :
    scene.play past events =
      (scene.play [] events).map fun (moments, last) => (past ++ moments, last) := by
  induction events generalizing past scene with
  | nil => simp [play]
  | cons event events ih =>
      simp only [play]
      split
      · rw [ih, ih ([] ++ [Moment.mk scene event]), Option.map_map]
        refine congrArg (Option.map · _) (funext fun played => ?_)
        simp
      · rfl

theorem shown_cons (scene : Scene) (event : Event) (events : List Event) :
    scene.shown (event :: events) =
      if scene.allows event then
        ((scene.after event).shown events).map fun (later, channel) =>
          ((Moment.mk scene event).invocation?.toList ++ later, channel)
      else none := by
  unfold shown
  simp only [play]
  split
  · rw [play_eq, Option.map_map, Option.map_map]
    refine congrArg (Option.map · _) (funext fun played => ?_)
    cases starts : (Moment.mk scene event).invocation? <;> simp [starts]
  · rfl

theorem after_work (task : Task) (below : Agenda) (channel : Channel) :
    (Scene.mk (task :: below) channel).after .work =
      ⟨(task.run channel).1 ++ below, (task.run channel).2⟩ :=
  rfl

/-- Two scenes show the same if nobody has a turn and the next tasks, which are no callbacks, lead
to scenes that show the same. -/
theorem shown_of_work (task second : Task) {below : Agenda} {channel : Channel}
    (waits : task.isCallback = false) (others : second.isCallback = false)
    (quiet : (Moment.mk ⟨task :: below, channel⟩ .work).invocation? =
      (Moment.mk ⟨second :: below, channel⟩ .work).invocation?)
    (same : ∀ events, ((Scene.mk (task :: below) channel).after .work).shown events =
      ((Scene.mk (second :: below) channel).after .work).shown events) (events : List Event) :
    (Scene.mk (task :: below) channel).shown events =
      (Scene.mk (second :: below) channel).shown events := by
  cases events with
  | nil => rfl
  | cons event events =>
      rw [shown_cons, shown_cons]
      cases event with
      | work => rw [same, quiet]; rfl
      | _ => simp [allows, free, waits, others]

/-- What a socket tells is taken in at once, what a call tells in the moment after. -/
theorem after_socket {generation : Nat} {text : String} :
    scene.after (.socket generation (.message text)) =
      ⟨((Task.receive generation (.message text)).run scene.channel).1 ++ scene.agenda,
        ((Task.receive generation (.message text)).run scene.channel).2⟩ :=
  rfl

/-- A push in a frame of the latest socket is routed to its listeners. -/
theorem receive_of_pushIn? {channel : Channel} {text : String} {push : Push}
    (meant : channel.pushIn? text = some push) :
    ∃ message,
      (Task.receive channel.link.generation (.message text)).run channel =
        ([.route channel.link.generation message], channel) ∧
      (Task.route channel.link.generation message).run channel =
        ([.dispatch channel.link.generation push], channel) := by
  obtain ⟨message, decoded, routes⟩ := Channel.run_route_of_pushIn? meant channel.link.generation
  exact ⟨message, by simp [Task.run, decoded], routes⟩

section Frames

variable {first second : String} {push : Push}

/-- Frames that are one push show the same. -/
theorem shown_socket (left : scene.channel.pushIn? first = some push)
    (right : scene.channel.pushIn? second = some push) (events : List Event) :
    (scene.after (.socket scene.channel.link.generation (.message first))).shown events =
      (scene.after (.socket scene.channel.link.generation (.message second))).shown events := by
  obtain ⟨message, takes, routes⟩ := receive_of_pushIn? left
  obtain ⟨other, takesOther, routesOther⟩ := receive_of_pushIn? right
  rw [after_socket, after_socket, takes, takesOther]
  refine shown_of_work (.route _ message) (.route _ other) rfl rfl rfl (fun events => ?_) events
  rw [after_work, after_work, routes, routesOther]

theorem shown_notify (own : Option SubscriptionId) (left : scene.channel.pushIn? first = some push)
    (right : scene.channel.pushIn? second = some push) (events : List Event) :
    (scene.after (.call own (.notify scene.channel.link.generation (.message first)))).shown
        events =
      (scene.after (.call own (.notify scene.channel.link.generation (.message second)))).shown
        events :=
  shown_of_work (.receive _ (.message first)) (.receive _ (.message second)) rfl rfl rfl
    (shown_socket left right) events

end Frames

end Scene

/-- An object with an event, and the same object with an identifier that is not usable or that no
request waits for: the frames lead to the same push, and whatever happens next, the same callbacks
start with the same push, and the channel is the same. -/
theorem shown_untagged {scene : Scene} {members : List (String × Json)} {event : String}
    {value : Json} {plain tagged : String}
    (named : Table.find? "event" members = some (.string event))
    (untagged : Table.find? "id" members = none)
    (uncorrelated : ∀ id, Message.usableId? value = some id → scene.channel.isPending id = false)
    (read : Message.objectOf plain.toList = .ok members)
    (readTagged : Message.objectOf tagged.toList = .ok (Table.insert "id" value members)) :
    (∀ text ∈ [plain, tagged],
      (scene.after (.socket scene.channel.link.generation (.message text))).after .work =
        ⟨.dispatch scene.channel.link.generation (.ofMembers event members) :: scene.agenda,
          scene.channel⟩) ∧
    ∀ events,
      scene.shown (.socket scene.channel.link.generation (.message plain) :: events) =
        scene.shown (.socket scene.channel.link.generation (.message tagged) :: events) ∧
      ∀ own,
        scene.shown (.call own (.notify scene.channel.link.generation (.message plain)) :: events) =
          scene.shown
            (.call own (.notify scene.channel.link.generation (.message tagged)) :: events) := by
  have left : scene.channel.pushIn? plain = some (.ofMembers event members) :=
    Channel.pushIn?_of_named read named fun id numbered => by
      rw [untagged] at numbered
      cases numbered
  have right : scene.channel.pushIn? tagged = some (.ofMembers event members) := by
    rw [← Push.ofMembers_insert value]
    refine Channel.pushIn?_of_named readTagged ?_ fun id numbered => uncorrelated id ?_
    · simpa [Table.find?_insert] using named
    · simpa [Table.find?_insert] using numbered
  constructor
  · have acts {text : String}
        (meant : scene.channel.pushIn? text = some (.ofMembers event members)) :
        (scene.after (.socket scene.channel.link.generation (.message text))).after .work =
          ⟨.dispatch scene.channel.link.generation (.ofMembers event members) :: scene.agenda,
            scene.channel⟩ := by
      obtain ⟨message, takes, routes⟩ := Scene.receive_of_pushIn? meant
      rw [Scene.after_socket, takes, List.singleton_append, Scene.after_work, routes,
        List.singleton_append]
    simp only [List.mem_cons, List.not_mem_nil, or_false, forall_eq_or_imp, forall_eq]
    exact ⟨acts left, acts right⟩
  · intro events
    constructor
    · rw [Scene.shown_cons, Scene.shown_cons, Scene.shown_socket left right]
      rfl
    · intro own
      rw [Scene.shown_cons, Scene.shown_cons, Scene.shown_notify own left right]
      rfl

/-- A listener for news, and a request with the first identifier that waits. -/
def askedOnce : List Event :=
  [.call none (.on "news" (.make "listener" [] none)), .call none .connect,
    .call none (.request "ask" none none), .work, .socket 1 .opened]

/-- News whose other members have types that no response has. -/
def news : List (String × Json) :=
  [("data", .null), ("errors", .bool true), ("event", .string "news"), ("from", .string "desk"),
    ("n", .array [.number (.ofUInt64 1)])]

def newsFrame : String :=
  "\x7b\"event\":\"news\",\"data\":null,\"from\":\"desk\",\"errors\":true,\"n\":[1]\x7d"

/-- The same news with an identifier. -/
def numberedFrame : String :=
  "\x7b\"event\":\"news\",\"data\":null,\"from\":\"desk\",\"errors\":true,\"n\":[1],\"id\":2\x7d"

theorem shown_untagged_secondId : ∃ past scene,
    (Scene.start default fun _ => 0).play [] askedOnce = some (past, scene) ∧
      scene.channel.isPending ⟨1⟩ = true ∧
      (∀ id, Message.usableId? (.number (.ofUInt64 2)) = some id →
        scene.channel.isPending id = false) ∧
      (∀ text ∈ [newsFrame, numberedFrame],
        (scene.after (.socket scene.channel.link.generation (.message text))).after .work =
          ⟨.dispatch scene.channel.link.generation ⟨"news", none, some (.string "desk")⟩ ::
            scene.agenda, scene.channel⟩) ∧
      ∀ events,
        scene.shown (.socket scene.channel.link.generation (.message newsFrame) :: events) =
          scene.shown
            (.socket scene.channel.link.generation (.message numberedFrame) :: events) := by
  have seen : (((Scene.start default fun _ => 0).play [] askedOnce).map fun played =>
      (played.2.channel.isPending ⟨1⟩, played.2.channel.isPending ⟨2⟩)) = some (true, false) := by
    cbv
  obtain ⟨⟨past, scene⟩, played, views⟩ := Option.map_eq_some_iff.mp seen
  obtain ⟨first, second⟩ := Prod.mk.inj views
  have uncorrelated : ∀ id, Message.usableId? (.number (.ofUInt64 2)) = some id →
      scene.channel.isPending id = false := by
    intro id usable
    have numbered : Message.usableId? (.number (.ofUInt64 2)) = some ⟨2⟩ := by decide
    cases numbered.symm.trans usable
    exact second
  have read : Message.objectOf newsFrame.toList = .ok news := by cbv
  have readNumbered : Message.objectOf numberedFrame.toList =
      .ok (Table.insert "id" (.number (.ofUInt64 2)) news) := by
    cbv
  have named : Table.find? "event" news = some (.string "news") := by decide
  have shown := shown_untagged named (by decide) uncorrelated read readNumbered
  exact ⟨past, scene, played, first, uncorrelated, shown.1, fun events => (shown.2 events).1⟩

end Intercom
