import Intercom.Proofs.Rejection
import Intercom.Proofs.Uncorrelated

/-!
# The order of answers

Requests are settled one by one, and each settlement touches its own request only. So frames that
answer different requests may come in any order: the channel in the end is the same.

Results:
1. `Channel.settle_comm`, `Channel.answerEach_perm`: settlements of different requests may be
   exchanged.
2. `Scene.play_delivers`: each frame settles the request that it answers, and starts no callback.
3. `settled_in_any_order`: frames that answer different requests lead to one channel, whatever their
   order, and each request has the result of its own frame.
-/

namespace Intercom

/-! ## Definitions -/

/-- The response that a frame is. -/
def Response.ofFrame? (text : String) : Option Response :=
  match Message.decode text.toList with
  | .ok (some (.response answer)) => some answer
  | _ => none

/-- The future after the answers: an unresolved one has the result of the answer with its
identifier, and every other stays as it is. -/
def Future.answeredBy (answers : List Response) (future : Future) : Future :=
  match answers.find? fun answer => answer.id = future.id with
  | some answer =>
      if future.outcome.isNone then { future with outcome := some answer.result } else future
  | none => future

/-- Whether an alarm is for none of the requests that are answered. -/
def Alarm.isOther (answers : List Response) (alarm : Alarm) : Bool :=
  answers.all fun answer => alarm.request? != some answer.id

namespace Channel

/-- Settles the request of each answer. -/
def answerEach (channel : Channel) (answers : List Response) : Channel :=
  answers.foldl (fun channel answer => channel.settle answer.id answer.result) channel

/-- The frames are answers to requests that wait, each to another one. -/
structure Answerable (channel : Channel) (texts : List String) : Prop where
  waits : ∀ text ∈ texts, ∃ answer, Response.ofFrame? text = some answer ∧
    channel.isPending answer.id = true
  distinct : ((texts.filterMap Response.ofFrame?).map Response.id).Nodup

/-- `channel.Takes text events`: by these events the latest socket, or a call in its place, delivers
the frame, and it is routed. -/
inductive Takes (channel : Channel) (text : String) : List Event → Prop where
  | socket : (channel.handle? channel.link.generation).isSome = true →
      Takes channel text [.socket channel.link.generation (.message text), .work]
  | call (own : Option SubscriptionId) :
      Takes channel text
        [.call own (.notify channel.link.generation (.message text)), .work, .work]

/-- `channel.Delivers texts events`: by these events the frames are delivered, one after the
other. -/
inductive Delivers (channel : Channel) : List String → List Event → Prop where
  | nothing : Delivers channel [] []
  | next {text : String} {texts : List String} {taking events : List Event} :
      channel.Takes text taking → Delivers channel texts events →
      Delivers channel (text :: texts) (taking ++ events)

end Channel

/-- `AnsweredEach answers before after`: the answered requests wait no more, each of them had a
future that was unresolved, and such a future has the result of the answer with its identifier.
Nothing else changes but alarms of these requests. -/
structure AnsweredEach (answers : List Response) (before after : Channel) : Prop where
  frame : ∃ pending futures alarms, after = { before with pending, futures, alarms }
  pending : after.pending =
    before.pending.filter fun waiting => answers.all fun answer => answer.id != waiting.id
  futures : after.futures = before.futures.map (Future.answeredBy answers)
  resolved : ∀ answer ∈ answers, ∃ future ∈ before.futures, future.id = answer.id ∧
    future.outcome = none ∧ { future with outcome := some answer.result } ∈ after.futures
  fewer : after.alarms.Sublist before.alarms
  alarms : after.alarms.filter (Alarm.isOther answers) =
    before.alarms.filter (Alarm.isOther answers)

/-! ## Settlements of different requests -/

namespace Channel

variable {channel : Channel}

/-- The ticket that a settlement of the request cancels. -/
def ticketOf? (channel : Channel) (id : RequestId) : Option Nat :=
  (channel.pending.find? fun waiting => waiting.id = id).bind Waiting.alarm

theorem alarms_settle_eq (channel : Channel) (id : RequestId) (outcome : Outcome) :
    (channel.settle id outcome).alarms =
      channel.alarms.filter fun alarm => some alarm.ticket != channel.ticketOf? id := by
  unfold settle ticketOf?
  cases channel.pending.find? fun waiting => waiting.id = id with
  | none => exact (List.filter_eq_self.mpr fun _ _ => rfl).symm
  | some waiting =>
      show (cancelAlarm _ waiting.alarm).alarms = _
      rw [Option.bind_some]
      cases waiting.alarm with
      | none => exact (List.filter_eq_self.mpr fun _ _ => rfl).symm
      | some ticket =>
          refine List.filter_congr fun alarm _ => ?_
          rw [Bool.eq_iff_iff, bne_iff_ne, bne_iff_ne, ne_eq, ne_eq, Option.some_inj]

theorem ticketOf?_settle {id other : RequestId} (differ : other ≠ id) (outcome : Outcome) :
    (channel.settle id outcome).ticketOf? other = channel.ticketOf? other := by
  unfold ticketOf?
  rw [pending_settle, List.find?_filter]
  refine congrArg (Option.bind · _) (congrArg (List.find? · _) (funext fun waiting => ?_))
  by_cases same : waiting.id = other <;> simp [same, differ]

theorem frame_trans {before middle after : Channel}
    (one : ∃ pending futures alarms, middle = { before with pending, futures, alarms })
    (two : ∃ pending futures alarms, after = { middle with pending, futures, alarms }) :
    ∃ pending futures alarms, after = { before with pending, futures, alarms } := by
  obtain ⟨_, _, _, rfl⟩ := one
  obtain ⟨pending, futures, alarms, rfl⟩ := two
  exact ⟨pending, futures, alarms, rfl⟩

theorem eq_of_frame {before one two : Channel}
    (left : ∃ pending futures alarms, one = { before with pending, futures, alarms })
    (right : ∃ pending futures alarms, two = { before with pending, futures, alarms })
    (pending : one.pending = two.pending) (futures : one.futures = two.futures)
    (alarms : one.alarms = two.alarms) : one = two := by
  obtain ⟨_, _, _, rfl⟩ := left
  obtain ⟨_, _, _, rfl⟩ := right
  cases pending
  cases futures
  cases alarms
  rfl

/-- Settlements of different requests may be exchanged. -/
theorem settle_comm {first second : RequestId} (differ : first ≠ second) (one two : Outcome)
    (channel : Channel) :
    (channel.settle first one).settle second two =
      (channel.settle second two).settle first one := by
  refine eq_of_frame (frame_trans (channel.settle_frame first one) (settle_frame _ second two))
    (frame_trans (channel.settle_frame second two) (settle_frame _ first one)) ?_ ?_ ?_
  · simp only [pending_settle, List.filter_filter, Bool.and_comm]
  · simp only [futures_settle, List.map_map, isPending_settle]
    refine List.map_congr_left fun future _ => ?_
    -- a future is of one request at most
    by_cases mine : future.id = first
    · cases channel.isPending first <;> cases known : future.outcome <;> simp [mine, differ, known]
    · by_cases other : future.id = second
      · cases channel.isPending second <;> cases known : future.outcome <;>
          simp [other, differ.symm, known]
      · simp [mine, other]
  · simp only [alarms_settle_eq, ticketOf?_settle differ, ticketOf?_settle differ.symm,
      List.filter_filter, Bool.and_comm]

/-! ## Answers one after the other -/

/-- Answers to different requests may be taken in any order. -/
theorem answerEach_perm {answers others : List Response} (same : answers.Perm others)
    (distinct : (answers.map Response.id).Nodup) (channel : Channel) :
    channel.answerEach answers = channel.answerEach others := by
  refine same.foldl_eq' (fun first one second two channel => ?_) channel
  by_cases equal : first.id = second.id
  · rw [List.inj_on_of_nodup_map distinct one two equal]
  · exact settle_comm equal first.result second.result channel

theorem answerEach_cons (channel : Channel) (answer : Response) (answers : List Response) :
    channel.answerEach (answer :: answers) =
      (channel.settle answer.id answer.result).answerEach answers :=
  rfl

theorem answerEach_frame (channel : Channel) (answers : List Response) :
    ∃ pending futures alarms,
      channel.answerEach answers = { channel with pending, futures, alarms } := by
  induction answers generalizing channel with
  | nil => exact ⟨_, _, _, rfl⟩
  | cons answer answers ih => exact frame_trans (channel.settle_frame _ _) (ih _)

theorem pending_answerEach (channel : Channel) (answers : List Response) :
    (channel.answerEach answers).pending =
      channel.pending.filter fun waiting => answers.all fun answer => answer.id != waiting.id := by
  induction answers generalizing channel with
  | nil => exact (List.filter_eq_self.mpr fun _ _ => rfl).symm
  | cons answer answers ih =>
      rw [answerEach_cons, ih, pending_settle, List.filter_filter]
      refine List.filter_congr fun waiting _ => ?_
      rw [List.all_cons, Bool.and_comm, bne_comm]

theorem futures_answerEach (channel : Channel) (answers : List Response) :
    (channel.answerEach answers).futures = channel.futures.map fun future =>
      if channel.isPending future.id then future.answeredBy answers else future := by
  induction answers generalizing channel with
  | nil => simp [answerEach, Future.answeredBy]
  | cons answer answers ih =>
      rw [answerEach_cons, ih, futures_settle, List.map_map]
      refine List.map_congr_left fun future _ => ?_
      simp only [Function.comp_apply, isPending_settle, Future.answeredBy, List.find?_cons]
      by_cases same : future.id = answer.id
      · -- resolved by the first answer, and so out of reach for the rest
        cases waits : channel.isPending answer.id <;> cases known : future.outcome <;>
          simp [same, waits]
      · simp [same, Ne.symm same]

theorem alarms_answerEach_sublist (channel : Channel) (answers : List Response) :
    (channel.answerEach answers).alarms.Sublist channel.alarms := by
  induction answers generalizing channel with
  | nil => exact .refl _
  | cons answer answers ih =>
      refine (ih _).trans ?_
      rw [alarms_settle_eq]
      exact List.filter_sublist

end Channel

/-- The alarms of other requests, and those of reconnections, stay. -/
theorem Ticketed.alarms_answerEach {channel : Channel} (ticketed : Ticketed channel)
    (answers : List Response) (keep : Alarm → Bool)
    (others : ∀ answer ∈ answers, ∀ alarm, keep alarm = true → alarm.request? ≠ some answer.id) :
    (channel.answerEach answers).alarms.filter keep = channel.alarms.filter keep := by
  induction answers generalizing channel with
  | nil => rfl
  | cons answer answers ih =>
      rw [List.forall_mem_cons] at others
      exact (ih (ticketed.settle _ _) others.2).trans
        (ticketed.filter_alarms_settle others.1 answer.result)

namespace Future

variable {answers : List Response} {answer : Response} {future : Future}

theorem id_answeredBy (answers : List Response) (future : Future) :
    (future.answeredBy answers).id = future.id := by
  unfold answeredBy
  split
  · split <;> rfl
  · rfl

/-- An unresolved future of an answered request has the result of the answer. -/
theorem answeredBy_of_mem (distinct : (answers.map Response.id).Nodup) (present : answer ∈ answers)
    (same : future.id = answer.id) (unresolved : future.outcome = none) :
    future.answeredBy answers = { future with outcome := some answer.result } := by
  have found : answers.find? (fun other => other.id = future.id) = some answer := by
    cases found : answers.find? (fun other => other.id = future.id) with
    | none => simpa [same] using List.find?_eq_none.mp found answer present
    | some other =>
        have named : other.id = future.id := by simpa using List.find?_some found
        rw [List.inj_on_of_nodup_map distinct (List.mem_of_find?_eq_some found) present
          (named.trans same)]
  rw [answeredBy, found, unresolved]
  rfl

end Future

namespace Channel

variable {channel : Channel} {answers : List Response}

theorem answeredEach (ticketed : Ticketed channel) (promised : channel.Promised)
    (waits : ∀ answer ∈ answers, channel.isPending answer.id = true)
    (distinct : (answers.map Response.id).Nodup) :
    AnsweredEach answers channel (channel.answerEach answers) := by
  have futures : (channel.answerEach answers).futures =
      channel.futures.map (Future.answeredBy answers) := by
    rw [channel.futures_answerEach]
    refine List.map_congr_left fun future _ => ?_
    split
    · rfl
    · next absent =>
        have none : answers.find? (fun answer => answer.id = future.id) = none := by
          refine List.find?_eq_none.mpr fun answer present same => absent ?_
          rw [← of_decide_eq_true same]
          exact waits answer present
        rw [Future.answeredBy, none]
  refine ⟨channel.answerEach_frame answers, channel.pending_answerEach answers, futures, ?_,
    channel.alarms_answerEach_sublist answers, ?_⟩
  · intro answer present
    obtain ⟨waiting, waits, named⟩ := isPending_iff.mp (waits answer present)
    obtain ⟨future, promise, same, unresolved⟩ := promised waiting waits
    rw [named] at same
    refine ⟨future, promise, same, unresolved, ?_⟩
    rw [futures, ← Future.answeredBy_of_mem distinct present same unresolved]
    exact List.mem_map_of_mem promise
  · refine ticketed.alarms_answerEach answers _ fun answer present alarm other => ?_
    exact bne_iff_ne.mp (List.all_eq_true.mp other answer present)

end Channel

namespace AnsweredEach

variable {answers : List Response} {answer : Response} {before after : Channel}

/-- A request whose first future was unresolved is resolved with its own answer. -/
theorem resolved_of_mem (answered : AnsweredEach answers before after)
    (distinct : (answers.map Response.id).Nodup) (present : answer ∈ answers)
    (promised : before.fate? answer.id = some none) :
    after.Resolved answer.id answer.result := by
  constructor
  · refine Bool.eq_false_iff.mpr fun waits => ?_
    obtain ⟨waiting, left, same⟩ := Channel.isPending_iff.mp waits
    rw [answered.pending] at left
    have other := List.all_eq_true.mp (List.mem_filter.mp left).2 answer present
    exact bne_iff_ne.mp other same.symm
  · obtain ⟨future, found, unresolved⟩ := Option.map_eq_some_iff.mp promised
    have same : future.id = answer.id := by simpa using List.find?_some found
    have named : (fun future : Future => decide (future.id = answer.id)) ∘
        Future.answeredBy answers = fun future => decide (future.id = answer.id) :=
      funext fun future => by rw [Function.comp_apply, future.id_answeredBy answers]
    rw [Channel.fate?, answered.futures, List.find?_map, named, found, Option.map_some,
      Future.answeredBy_of_mem distinct present same unresolved]
    rfl

end AnsweredEach

/-! ## Frames that are delivered -/

theorem Response.decode_of_ofFrame? {text : String} {answer : Response}
    (read : Response.ofFrame? text = some answer) :
    Message.decode text.toList = .ok (some (.response answer)) := by
  unfold Response.ofFrame? at read
  split at read
  · next decoded =>
      cases read
      exact decoded
  · cases read

theorem Channel.Takes.of_eq {base channel : Channel} {text : String} {events : List Event}
    (takes : base.Takes text events) (link : channel.link = base.link)
    (handles : channel.handles = base.handles) : channel.Takes text events := by
  cases takes with
  | socket spawned =>
      rw [← link] at spawned ⊢
      refine .socket ?_
      rw [Channel.handle?, handles]
      exact spawned
  | call own =>
      rw [← link]
      exact .call own

theorem Channel.delivers_socket {channel : Channel}
    (spawned : (channel.handle? channel.link.generation).isSome = true) (texts : List String) :
    channel.Delivers texts (texts.flatMap fun text =>
      [.socket channel.link.generation (.message text), .work]) := by
  induction texts with
  | nil => exact .nothing
  | cons text texts ih => exact .next (.socket spawned) ih

namespace Channel.Answerable

variable {channel : Channel} {text : String} {texts order : List String}

theorem perm (answerable : channel.Answerable texts) (same : order.Perm texts) :
    channel.Answerable order where
  waits := fun text present => answerable.waits text (same.subset present)
  distinct := ((same.filterMap _).map _).nodup_iff.mpr answerable.distinct

theorem waits_of_mem (answerable : channel.Answerable texts) :
    ∀ answer ∈ texts.filterMap Response.ofFrame?, channel.isPending answer.id = true := by
  intro answer present
  obtain ⟨text, delivered, read⟩ := List.mem_filterMap.mp present
  obtain ⟨same, again, waits⟩ := answerable.waits text delivered
  cases again.symm.trans read
  exact waits

/-- After the first answer the other requests still wait. -/
theorem first (answerable : channel.Answerable (text :: texts)) :
    ∃ answer, Response.ofFrame? text = some answer ∧ channel.isPending answer.id = true ∧
      (channel.settle answer.id answer.result).Answerable texts := by
  obtain ⟨answer, read, waits⟩ := answerable.waits text List.mem_cons_self
  have distinct := answerable.distinct
  rw [List.filterMap_cons_some read, List.map_cons, List.nodup_cons] at distinct
  refine ⟨answer, read, waits, fun other present => ?_, distinct.2⟩
  obtain ⟨second, reads, waitsToo⟩ := answerable.waits other (List.mem_cons_of_mem _ present)
  refine ⟨second, reads, ?_⟩
  rw [Channel.isPending_settle, waitsToo, Bool.true_and, bne_iff_ne]
  intro same
  refine distinct.1 (same ▸ List.mem_map_of_mem ?_)
  exact List.mem_filterMap.mpr ⟨other, present, reads⟩

end Channel.Answerable

namespace Scene

/-- Events that happen one after the other. -/
theorem play_cons {scene last : Scene} {event : Event} {events : List Event} {moments : List Moment}
    (allowed : scene.allows event = true)
    (onward : (scene.after event).play [] events = some (moments, last)) :
    scene.play [] (event :: events) = some (⟨scene, event⟩ :: moments, last) := by
  rw [play, if_pos allowed, play_eq, onward]
  rfl

section Playing

variable {base channel : Channel} {agenda : Agenda} {last : Scene} {taking events : List Event}
  {moments : List Moment} {text : String} {texts : List String} {answer : Response}

/-- A frame that answers a request that waits settles it as soon as it is routed. -/
theorem play_socket (read : Response.ofFrame? text = some answer)
    (waits : channel.isPending answer.id = true)
    (onward : (Scene.mk agenda (channel.settle answer.id answer.result)).play [] events =
      some (moments, last)) :
    ∃ routing : Moment, routing.invocation? = none ∧
      ((Scene.mk agenda channel).after
        (.socket channel.link.generation (.message text))).play [] (.work :: events) =
        some (routing :: moments, last) := by
  have routed : (Scene.mk agenda channel).after (.socket channel.link.generation (.message text)) =
      ⟨.route channel.link.generation (.response answer) :: agenda, channel⟩ := by
    rw [after_socket]
    simp [Task.run, Response.decode_of_ofFrame? read]
  have settled : (Scene.mk (.route channel.link.generation (.response answer) :: agenda)
      channel).after .work = ⟨agenda, channel.settle answer.id answer.result⟩ := by
    rw [after_work]
    simp [Task.run, waits]
  rw [routed]
  exact ⟨_, rfl, play_cons rfl (settled ▸ onward)⟩

/-- Whoever delivers such a frame, it settles its request and starts no callback. -/
theorem play_takes (takes : channel.Takes text taking)
    (free : (Scene.mk agenda channel).free = true) (read : Response.ofFrame? text = some answer)
    (waits : channel.isPending answer.id = true)
    (onward : (Scene.mk agenda (channel.settle answer.id answer.result)).play [] events =
      some (moments, last)) :
    ∃ first : List Moment, (∀ moment ∈ first, moment.invocation? = none) ∧
      (Scene.mk agenda channel).play [] (taking ++ events) = some (first ++ moments, last) := by
  obtain ⟨routing, quiet, played⟩ := play_socket read waits onward
  cases takes with
  | socket spawned =>
      refine ⟨[_, routing], ?_, play_cons (Bool.and_eq_true _ _ ▸ ⟨free, spawned⟩) played⟩
      exact List.forall_mem_cons.mpr ⟨rfl, List.forall_mem_singleton.mpr quiet⟩
  | call own =>
      refine ⟨[_, _, routing], ?_, play_cons free (play_cons rfl played)⟩
      exact List.forall_mem_cons.mpr
        ⟨rfl, List.forall_mem_cons.mpr ⟨rfl, List.forall_mem_singleton.mpr quiet⟩⟩

/-- Each frame settles the request that it answers, and no callback starts. -/
theorem play_delivers (delivers : base.Delivers texts events) (link : channel.link = base.link)
    (handles : channel.handles = base.handles) (free : (Scene.mk agenda channel).free = true)
    (answerable : channel.Answerable texts) :
    ∃ moments,
      (Scene.mk agenda channel).play [] events =
        some (moments, ⟨agenda, channel.answerEach (texts.filterMap Response.ofFrame?)⟩) ∧
      ∀ moment ∈ moments, moment.invocation? = none := by
  induction delivers generalizing channel with
  | nothing => exact ⟨[], rfl, fun _ absent => absurd absent List.not_mem_nil⟩
  | next takes _ ih =>
      obtain ⟨answer, read, waits, others⟩ := answerable.first
      obtain ⟨_, _, _, settled⟩ := channel.settle_frame answer.id answer.result
      have sameLink : (channel.settle answer.id answer.result).link = base.link := by
        rw [settled, link]
      have sameHandles : (channel.settle answer.id answer.result).handles = base.handles := by
        rw [settled, handles]
      obtain ⟨moments, played, silent⟩ := ih sameLink sameHandles free others
      obtain ⟨first, quiet, whole⟩ := play_takes (takes.of_eq link handles) free read waits played
      rw [List.filterMap_cons_some read]
      refine ⟨first ++ moments, whole, fun moment present => ?_⟩
      rcases List.mem_append.mp present with early | late
      · exact quiet moment early
      · exact silent moment late

end Playing

end Scene

/-- Frames that answer different requests, in whatever order they come on the latest generation,
lead to one channel: each of the requests has the result of the frame with its identifier, nothing
else changes but their alarms, and no callback starts. This holds wherever a course has led and
whatever callback is running. As long as identifiers are not given anew, there is one future for
each. -/
theorem settled_in_any_order {settings : Settings} {draw : Nat → Nat} {past : List Moment}
    {scene : Scene} {frames : List String}
    (course : Course (Scene.start settings draw).channel past scene.channel)
    (free : scene.free = true) (answerable : scene.channel.Answerable frames) :
    ∃ after,
      AnsweredEach (frames.filterMap Response.ofFrame?) scene.channel after ∧
      (∀ order, order.Perm frames → ∀ events, scene.channel.Delivers order events →
        ∃ moments, scene.play [] events = some (moments, ⟨scene.agenda, after⟩) ∧
          ∀ moment ∈ moments, moment.invocation? = none) ∧
      ((issues past).length < UInt64.size → ∀ answer ∈ frames.filterMap Response.ofFrame?,
        after.Resolved answer.id answer.result) := by
  have begins : (Scene.start settings draw).channel.Promised :=
    fun _ absent => absurd absent List.not_mem_nil
  have answered := Channel.answeredEach course.ticketed (course.promised begins)
    answerable.waits_of_mem answerable.distinct
  refine ⟨_, answered, fun order same events delivers => ?_, fun few answer present => ?_⟩
  · have distinct := (answerable.perm same).distinct
    rw [← Channel.answerEach_perm (same.filterMap _) distinct]
    exact Scene.play_delivers delivers rfl rfl free (answerable.perm same)
  · have waits := answerable.waits_of_mem answer present
    have promised := ((course.accounts few).open_iff answer.id).mp waits
    exact answered.resolved_of_mem answerable.distinct present promised

/-- Four requests wait, and nobody listens. -/
def askedFourTimes : List Event :=
  [.call none .connect] ++
    (List.replicate 4 [.call none (.request "ask" none none), .work]).flatten ++
    [.socket 1 .opened]

/-- A refusal, an answer with fields of other types, one that names an event, and one in the midst
of noise. -/
def mixedFrames : List String :=
  ["\x7b\"id\":2,\"success\":false,\"errors\":[\"busy\",7]\x7d",
    "\x7b\"id\":3,\"success\":\"no\",\"errors\":1,\"data\":null\x7d",
    "\x7b\"id\":1,\"event\":\"hello\",\"from\":\"desk\"\x7d",
    "..\x7b\"id\":4,\"data\":[1]\x7d.."]

def mixedAnswers : List Response :=
  [⟨⟨2⟩, some false, none, some [.string "busy", .number (.ofUInt64 7)], none, none⟩,
    ⟨⟨3⟩, none, none, some [.number (.ofUInt64 1)], none, none⟩,
    ⟨⟨1⟩, none, none, none, some "hello", some (.string "desk")⟩,
    ⟨⟨4⟩, none, some (.array [.number (.ofUInt64 1)]), none, none, none⟩]

/-- The socket delivers the frames, from the first to the last or the other way round. -/
theorem settled_in_any_order_mixed : ∃ past scene,
    (Scene.start default fun _ => 0).play [] askedFourTimes = some (past, scene) ∧
      scene.free = true ∧ scene.channel.Answerable mixedFrames ∧ ∃ after,
        (∀ order ∈ [mixedFrames, mixedFrames.reverse], ∃ moments,
          scene.play [] (order.flatMap fun text =>
            [.socket scene.channel.link.generation (.message text), .work]) =
              some (moments, ⟨scene.agenda, after⟩)) ∧
        ∀ answer ∈ mixedAnswers, after.Resolved answer.id answer.result := by
  have seen : (((Scene.start default fun _ => 0).play [] askedFourTimes).map fun played =>
      (played.2.free, played.2.channel.pending.map Waiting.id,
        (played.2.channel.handle? played.2.channel.link.generation).isSome,
        (issues played.1).length)) = some (true, [⟨1⟩, ⟨2⟩, ⟨3⟩, ⟨4⟩], true, 4) := by
    cbv
  have read : mixedFrames.map Response.ofFrame? = mixedAnswers.map some := by cbv
  obtain ⟨⟨past, scene⟩, played, views⟩ := Option.map_eq_some_iff.mp seen
  obtain ⟨free, pending, spawned, few⟩ :=
    Prod.mk.inj views |>.imp_right fun views =>
      Prod.mk.inj views |>.imp_right Prod.mk.inj
  have course := (Scene.run_of_play .start played).course
  have answers : mixedFrames.filterMap Response.ofFrame? = mixedAnswers := by
    have all : (mixedFrames.map Response.ofFrame?).filterMap id = mixedAnswers := by
      rw [read, List.filterMap_map]
      exact List.filterMap_some
    rwa [List.filterMap_map] at all
  have waits : ∀ answer ∈ mixedAnswers, scene.channel.isPending answer.id = true := by
    intro answer present
    have known : answer.id ∈ scene.channel.pending.map Waiting.id := by
      rw [pending]
      revert answer
      decide
    obtain ⟨waiting, among, same⟩ := List.mem_map.mp known
    exact Channel.isPending_iff.mpr ⟨waiting, among, same⟩
  have answerable : scene.channel.Answerable mixedFrames := by
    constructor
    · intro text present
      have mapped : Response.ofFrame? text ∈ mixedAnswers.map some :=
        read ▸ List.mem_map_of_mem present
      obtain ⟨answer, among, same⟩ := List.mem_map.mp mapped
      exact ⟨answer, same.symm, waits answer among⟩
    · rw [answers]
      decide
  obtain ⟨after, answered, orders, resolved⟩ := settled_in_any_order course free answerable
  refine ⟨past, scene, played, free, answerable, after, fun order among => ?_, ?_⟩
  · have same : order.Perm mixedFrames := by
      rcases List.mem_pair.mp among with rfl | rfl
      · exact .refl _
      · exact List.reverse_perm _
    obtain ⟨moments, plays, _⟩ := orders order same _ (Channel.delivers_socket spawned order)
    exact ⟨moments, plays⟩
  · rw [← answers]
    exact resolved (few ▸ by decide)

end Intercom
