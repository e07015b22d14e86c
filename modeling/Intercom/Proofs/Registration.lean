import Intercom.Proofs.Accounts
import Intercom.Proofs.Answers
import Mathlib.Logic.Function.Basic

/-!
# Registrations under way

A registration has three sections. It enters the request, sets an alarm for it, and ties the alarm
to the request, or takes the alarm away if the request waits no more. Between two sections other
threads may go on with registrations of their own, and whatever settles requests may find this one:
an answer, a failed write, the end of a socket, or its own alarm that goes off as soon as it is set.

`Desk` is a channel with the registrations that its threads have under way. The invariant tells for
each request how far its registration has come, so that an act about one request has to be looked
at for this request only.

Results:
1. `Desk.attach_setAlarm_enter`: the three sections in a row are a registration, so that a thread
   can register a request in one go (`Desk.Reaches.register`).
2. `Stage.alike`: the stage of a request depends on its own entry, thread and alarms only.
3. `Sound.step`: every act keeps every request at a stage.
4. `Accounted.step`: what an act takes out it completes, once.
5. `timed_at_rest`: a request whose registration is over waits exactly as long as its alarm runs.
-/

namespace Intercom

/-! ## Definitions -/

/-- A registration that is under way, with the ticket of its alarm once that is set. -/
structure Registering where
  id : RequestId
  timeout : Duration
  ticket : Option Nat := none

/-- A channel and the registrations that its threads have under way. -/
structure Desk where
  threads : Nat → Option Registering
  channel : Channel
  /-- All alarms that were set, with those that are over. -/
  known : List Alarm

/-- What is done at a desk in one go. -/
inductive Act where
  | enter (thread : Nat) (id : RequestId) (event : String) (generation : Nat) (timeout : Duration)
  | setAlarm (thread : Nat)
  | attach (thread : Nat)
  | settle (response : Response)
  | reject (id : RequestId) (failure : Failure)
  | expire (ticket : Nat) (id : RequestId) (timeout : Duration)
  | rejectThrough (generation : Nat)

namespace Desk

/-- A channel that has done nothing yet, and no registration under way. -/
def start (settings : Settings) (draw : Nat → Nat) : Desk :=
  ⟨fun _ => none, { Channel.start settings with draw }, []⟩

/-- The first section of a registration. -/
def enter (desk : Desk) (thread : Nat) (id : RequestId) (event : String) (generation : Nat)
    (timeout : Duration) : Desk :=
  { desk with
    threads := Function.update desk.threads thread (some { id, timeout })
    channel := desk.channel.enterWaiting id event generation }

/-- The alarm that the next registration sets. -/
def nextAlarm (desk : Desk) (id : RequestId) (timeout : Duration) : Alarm :=
  ⟨desk.channel.nextTicket, desk.channel.now + timeout.millisecondsUp, .expire id timeout⟩

/-- The second section of a registration. -/
def setAlarm (desk : Desk) (thread : Nat) (id : RequestId) (timeout : Duration) : Desk :=
  let alarm := desk.nextAlarm id timeout
  { threads := Function.update desk.threads thread
      (some { id, timeout, ticket := some alarm.ticket })
    channel := (desk.channel.setAlarm alarm.due alarm.purpose).2
    known := desk.known ++ [alarm] }

/-- The third section of a registration. -/
def attach (desk : Desk) (thread : Nat) (id : RequestId) (ticket : Nat) : Desk :=
  { desk with
    threads := Function.update desk.threads thread none
    channel := desk.channel.attachAlarm id ticket }

/-- The desk with a change to its channel. -/
def change (desk : Desk) (channel : Channel) : Desk :=
  { desk with channel }

/-- `desk.Step act after`: the act is possible and leads to `after`. An identifier is given to one
request only. An alarm may go off at any time after it was set, even if it was taken away, since
that may come too late to stop it. -/
inductive Step (desk : Desk) : Act → Desk → Prop where
  | enter {thread : Nat} {id : RequestId} {event : String} {generation : Nat} {timeout : Duration} :
      desk.threads thread = none → desk.channel.fate? id = none →
      Step desk (.enter thread id event generation timeout)
        (desk.enter thread id event generation timeout)
  | setAlarm {thread : Nat} {id : RequestId} {timeout : Duration} :
      desk.threads thread = some { id, timeout } →
      Step desk (.setAlarm thread) (desk.setAlarm thread id timeout)
  | attach {thread : Nat} {id : RequestId} {timeout : Duration} {ticket : Nat} :
      desk.threads thread = some { id, timeout, ticket := some ticket } →
      Step desk (.attach thread) (desk.attach thread id ticket)
  | settle {response : Response} :
      Step desk (.settle response) (desk.change (desk.channel.settle response.id response.result))
  | reject {id : RequestId} {failure : Failure} :
      Step desk (.reject id failure) (desk.change (desk.channel.settle id (.error failure)))
  | expire {alarm : Alarm} {id : RequestId} {timeout : Duration} :
      alarm ∈ desk.known → alarm.purpose = .expire id timeout →
      Step desk (.expire alarm.ticket id timeout)
        (desk.change ((desk.channel.settle id
          (.error (Channel.timeoutFailure id timeout))).cancelAlarm (some alarm.ticket)))
  | rejectThrough {generation : Nat} :
      Step desk (.rejectThrough generation) (desk.change (desk.channel.rejectThrough generation))

/-- `first.Reaches past desk`: the acts of `past`, each on the channel that it found, have led from
`first` to `desk`. -/
inductive Reaches (first : Desk) : List (Channel × Act) → Desk → Prop where
  | start : Reaches first [] first
  | step {past : List (Channel × Act)} {desk after : Desk} {act : Act} :
      Reaches first past desk → desk.Step act after →
      Reaches first (past ++ [(desk.channel, act)]) after

/-- No registration of the request is under way. -/
def Rests (desk : Desk) (id : RequestId) : Prop :=
  ∀ thread registering, desk.threads thread = some registering → registering.id ≠ id

end Desk

namespace Act

/-- The trigger that an act is. -/
def trigger? : Act → Option Trigger
  | .settle response => some (.settle response.id response.result)
  | .reject id failure => some (.settle id (.error failure))
  | .expire _ id timeout => some (.settle id (.error (Channel.timeoutFailure id timeout)))
  | .rejectThrough generation => some (.sweep generation)
  | _ => none

/-- The request that an act enters. -/
def entered? : Act → Option RequestId
  | .enter _ id _ _ _ => some id
  | _ => none

theorem entered?_of_trigger {act : Act} {trigger : Trigger}
    (triggers : act.trigger? = some trigger) : act.entered? = none := by
  cases act with
  | enter => cases triggers
  | _ => rfl

end Act

/-- The requests that a trigger takes out. -/
def Trigger.taken (channel : Channel) : Trigger → List Waiting
  | .settle id _ => (channel.pending.find? fun waiting => waiting.id = id).toList
  | .sweep generation => channel.pending.filter fun waiting => waiting.generation ≤ generation

/-- What a trigger completes a request with, as often as it takes it out. -/
def Trigger.completions (channel : Channel) (trigger : Trigger) (id : RequestId) : List Outcome :=
  ((trigger.taken channel).filter fun waiting => waiting.id = id).map fun _ => trigger.outcome

/-- The requests that were entered. -/
def entries (past : List (Channel × Act)) : List RequestId :=
  past.filterMap fun step => step.2.entered?

/-- What a request was completed with, each time. -/
def completions (past : List (Channel × Act)) (id : RequestId) : List Outcome :=
  past.flatMap fun step =>
    step.2.trigger?.toList.flatMap fun trigger => trigger.completions step.1 id

/-! ## A registration without interruption -/

namespace Desk

variable (desk : Desk)

/-- The three sections in a row are a registration. -/
theorem attach_setAlarm_enter {thread : Nat} (idle : desk.threads thread = none) (id : RequestId)
    (event : String) (generation : Nat) (timeout : Duration) :
    ((desk.enter thread id event generation timeout).setAlarm thread id timeout).attach thread id
        desk.channel.nextTicket =
      { desk with
        channel := desk.channel.register id event generation timeout
        known := desk.known ++ [desk.nextAlarm id timeout] } := by
  have threads : Function.update desk.threads thread none = desk.threads :=
    Function.update_eq_self_iff.mpr idle.symm
  simp only [enter, setAlarm, attach, Function.update_idem, threads]
  rfl

variable {desk}

/-- A thread that has nothing under way can register a request in one go. -/
theorem Reaches.register {first : Desk} {past : List (Channel × Act)}
    (reached : first.Reaches past desk) {thread : Nat} (idle : desk.threads thread = none)
    {id : RequestId} (new : desk.channel.fate? id = none) (event : String) (generation : Nat)
    (timeout : Duration) :
    let entered := desk.enter thread id event generation timeout
    first.Reaches
      (past ++ [(desk.channel, .enter thread id event generation timeout)] ++
        [(entered.channel, .setAlarm thread)] ++
        [((entered.setAlarm thread id timeout).channel, .attach thread)])
      { desk with
        channel := desk.channel.register id event generation timeout
        known := desk.known ++ [desk.nextAlarm id timeout] } := by
  have entered := reached.step (@Step.enter desk thread id event generation timeout idle new)
  have timed := entered.step (.setAlarm (Function.update_self ..))
  have tied := timed.step (.attach (Function.update_self ..))
  rw [← desk.attach_setAlarm_enter idle id event generation timeout]
  exact tied

end Desk

/-! ## The state of one request -/

namespace Channel

variable {channel : Channel} {id : RequestId}

/-- The entries of a request. -/
def waitingOf (channel : Channel) (id : RequestId) : List Waiting :=
  channel.pending.filter fun waiting => waiting.id = id

theorem waitingOf_eq_nil : channel.waitingOf id = [] ↔ channel.isPending id = false := by
  simp [waitingOf, isPending]

theorem waitingOf_settle (channel : Channel) (id other : RequestId) (outcome : Outcome) :
    (channel.settle id outcome).waitingOf other =
      if other = id then [] else channel.waitingOf other := by
  rw [waitingOf, pending_settle, List.filter_filter]
  split
  · next same =>
      subst same
      simp
  · next differs =>
      refine List.filter_congr fun waiting _ => ?_
      by_cases mine : waiting.id = other <;> simp [mine, differs]

theorem alarmsOf_settle (channel : Channel) (id other : RequestId) (outcome : Outcome) :
    (channel.settle id outcome).alarmsOf other =
      (channel.alarmsOf other).filter fun alarm => some alarm.ticket != channel.ticketOf? id := by
  rw [alarmsOf, alarms_settle_eq, List.filter_comm, alarmsOf]

theorem alarmsOf_cancelAlarm (channel : Channel) (ticket : Nat) (id : RequestId) :
    (channel.cancelAlarm (some ticket)).alarmsOf id =
      (channel.alarmsOf id).filter fun alarm => alarm.ticket != ticket := by
  unfold alarmsOf cancelAlarm
  rw [List.filter_comm]

theorem ticketOf?_eq (channel : Channel) (id : RequestId) :
    channel.ticketOf? id = (channel.waitingOf id).head?.bind Waiting.alarm := by
  rw [ticketOf?, waitingOf, List.head?_filter]

theorem fate?_enterWaiting (channel : Channel) (id other : RequestId) (event : String)
    (generation : Nat) :
    (channel.enterWaiting id event generation).fate? other =
      (channel.fate? other).or (if id = other then some none else none) := by
  unfold fate? enterWaiting
  rw [List.find?_append, Option.map_or]
  by_cases same : id = other <;> simp [same]

theorem waitingOf_enterWaiting (channel : Channel) (id other : RequestId) (event : String)
    (generation : Nat) :
    (channel.enterWaiting id event generation).waitingOf other =
      channel.waitingOf other ++ if other = id then [⟨id, event, generation, none⟩] else [] := by
  unfold waitingOf enterWaiting
  rw [List.filter_append]
  by_cases same : other = id
  · simp [same]
  · simp [same, Ne.symm same]

theorem waitingOf_attachAlarm (channel : Channel) (id other : RequestId) (ticket : Nat) :
    (channel.attachAlarm id ticket).waitingOf other =
      if other = id then
        (channel.waitingOf id).map fun waiting => { waiting with alarm := some ticket }
      else channel.waitingOf other := by
  unfold attachAlarm
  split
  · unfold waitingOf
    rw [List.filter_map]
    have named : ((fun waiting => decide (waiting.id = other)) ∘ fun waiting : Waiting =>
        if waiting.id = id then { waiting with alarm := some ticket } else waiting) =
          fun waiting => decide (waiting.id = other) := by
      funext waiting
      simp only [Function.comp_apply]
      split <;> rfl
    rw [named]
    split
    · next same =>
        subst same
        refine List.map_congr_left fun waiting present => if_pos ?_
        simpa using (List.mem_filter.mp present).2
    · next differs =>
        refine (List.map_congr_left fun waiting present => if_neg ?_).trans (List.map_id _)
        intro mine
        have here : waiting.id = other := by simpa using (List.mem_filter.mp present).2
        exact differs (here.symm.trans mine)
  · next absent =>
      rw [Bool.not_eq_true, ← waitingOf_eq_nil] at absent
      split
      · next same =>
          subst same
          rw [absent]
          exact absent
      · rfl

theorem alarmsOf_attachAlarm (channel : Channel) (id other : RequestId) (ticket : Nat) :
    (channel.attachAlarm id ticket).alarmsOf other =
      if channel.isPending id then channel.alarmsOf other
      else (channel.alarmsOf other).filter fun alarm => alarm.ticket != ticket := by
  unfold attachAlarm
  split
  · rfl
  · exact channel.alarmsOf_cancelAlarm ticket other

theorem fate?_attachAlarm (channel : Channel) (id other : RequestId) (ticket : Nat) :
    (channel.attachAlarm id ticket).fate? other = channel.fate? other := by
  unfold attachAlarm
  split <;> rfl

theorem isPending_attachAlarm (channel : Channel) (id other : RequestId) (ticket : Nat) :
    (channel.attachAlarm id ticket).isPending other = channel.isPending other := by
  rw [Bool.eq_iff_iff, ← not_iff_not, Bool.not_eq_true, Bool.not_eq_true, ← waitingOf_eq_nil,
    ← waitingOf_eq_nil, waitingOf_attachAlarm]
  split
  · next same => rw [List.map_eq_nil_iff, same]
  · rfl

theorem alarms_attachAlarm (channel : Channel) (id : RequestId) (ticket : Nat) :
    (channel.attachAlarm id ticket).alarms.Sublist channel.alarms := by
  unfold attachAlarm
  split
  · exact .refl _
  · exact List.filter_sublist

theorem nextTicket_attachAlarm (channel : Channel) (id : RequestId) (ticket : Nat) :
    (channel.attachAlarm id ticket).nextTicket = channel.nextTicket := by
  unfold attachAlarm
  split <;> rfl

end Channel

namespace Desk

/-- The alarms that were set for a request, with those that are over. -/
def knownFor (desk : Desk) (id : RequestId) : List Alarm :=
  desk.known.filter fun alarm => alarm.request? = some id

/-- A registration is under way on this thread, and no other one of its request is. -/
structure OnlyAt (desk : Desk) (thread : Nat) (registering : Registering) : Prop where
  here : desk.threads thread = some registering
  only : ∀ other known, desk.threads other = some known → known.id = registering.id →
    other = thread

end Desk

/-- `Stage desk id`: how far the registration of a request has come, and what waits and what runs
for it. -/
inductive Stage (desk : Desk) (id : RequestId) : Prop where
  /-- Nobody has entered it. -/
  | unknown : desk.channel.fate? id = none → desk.Rests id → desk.channel.waitingOf id = [] →
      desk.knownFor id = [] → Stage desk id
  /-- It is entered, and no alarm is set for it. -/
  | entered {thread : Nat} {timeout : Duration} : desk.channel.fate? id ≠ none →
      desk.OnlyAt thread { id, timeout } → desk.knownFor id = [] →
      (desk.channel.waitingOf id = [] ∨
        ∃ waiting, desk.channel.waitingOf id = [waiting] ∧ waiting.alarm = none) →
      Stage desk id
  /-- An alarm is set for it, but not tied to it. -/
  | timed {thread : Nat} {timeout : Duration} {alarm : Alarm} : desk.channel.fate? id ≠ none →
      desk.OnlyAt thread { id, timeout, ticket := some alarm.ticket } →
      desk.knownFor id = [alarm] →
      (desk.channel.waitingOf id = [] ∨
        ∃ waiting, desk.channel.waitingOf id = [waiting] ∧ waiting.alarm = none ∧
          desk.channel.alarmsOf id = [alarm]) →
      Stage desk id
  /-- Its registration is over. -/
  | registered {alarm : Alarm} : desk.channel.fate? id ≠ none → desk.Rests id →
      desk.knownFor id = [alarm] →
      ((desk.channel.waitingOf id = [] ∧ desk.channel.alarmsOf id = []) ∨
        ∃ waiting, desk.channel.waitingOf id = [waiting] ∧ waiting.alarm = some alarm.ticket ∧
          desk.channel.alarmsOf id = [alarm]) →
      Stage desk id

/-- What is known of the alarms of a desk, and every request at a stage. -/
structure Sound (desk : Desk) : Prop where
  early : ∀ alarm ∈ desk.known, alarm.ticket < desk.channel.nextTicket
  distinct : (desk.known.map Alarm.ticket).Nodup
  alive : desk.channel.alarms.Sublist desk.known
  stage : ∀ id, Stage desk id

/-- `Alike id desk after`: nothing about the request is different. -/
structure Alike (id : RequestId) (desk after : Desk) : Prop where
  fate : after.channel.fate? id = desk.channel.fate? id
  threads : ∀ thread registering, registering.id = id →
    (after.threads thread = some registering ↔ desk.threads thread = some registering)
  waiting : after.channel.waitingOf id = desk.channel.waitingOf id
  alarms : after.channel.alarmsOf id = desk.channel.alarmsOf id
  known : after.knownFor id = desk.knownFor id

/-! ## Acts about another request -/

namespace Alike

variable {id : RequestId} {desk after : Desk}

theorem rests (alike : Alike id desk after) (rests : desk.Rests id) : after.Rests id :=
  fun thread registering here same =>
    rests thread registering ((alike.threads thread registering same).mp here) same

theorem onlyAt (alike : Alike id desk after) {thread : Nat} {registering : Registering}
    (mine : registering.id = id) (only : desk.OnlyAt thread registering) :
    after.OnlyAt thread registering where
  here := (alike.threads thread registering mine).mpr only.here
  only other known here same :=
    only.only other known ((alike.threads other known (same.trans mine)).mp here) same

end Alike

/-- The stage of a request depends on its own entry, thread and alarms only. -/
theorem Stage.alike {id : RequestId} {desk after : Desk} (alike : Alike id desk after)
    (stage : Stage desk id) : Stage after id := by
  cases stage with
  | unknown fresh rests absent unset =>
      exact .unknown (alike.fate ▸ fresh) (alike.rests rests) (alike.waiting ▸ absent)
        (alike.known ▸ unset)
  | entered made only unset waits =>
      exact .entered (alike.fate ▸ made) (alike.onlyAt rfl only) (alike.known ▸ unset)
        (alike.waiting ▸ waits)
  | timed made only set waits =>
      exact .timed (alike.fate ▸ made) (alike.onlyAt rfl only) (alike.known ▸ set)
        (alike.waiting ▸ alike.alarms ▸ waits)
  | registered made rests set waits =>
      exact .registered (alike.fate ▸ made) (alike.rests rests) (alike.known ▸ set)
        (alike.waiting ▸ alike.alarms ▸ waits)

namespace Desk

variable {desk after : Desk} {id : RequestId} {thread : Nat} {registering : Registering}
  {new : Option Registering}

/-- What a thread does about one request is nothing to the others. -/
theorem threads_update
    (before : ∀ registering, desk.threads thread = some registering → registering.id ≠ id)
    (later : ∀ registering, new = some registering → registering.id ≠ id)
    (updated : after.threads = Function.update desk.threads thread new) (other : Nat)
    (registering : Registering) (mine : registering.id = id) :
    after.threads other = some registering ↔ desk.threads other = some registering := by
  rw [updated]
  by_cases same : other = thread
  · subst same
    rw [Function.update_self]
    exact ⟨fun here => absurd mine (later _ here), fun here => absurd mine (before _ here)⟩
  · rw [Function.update_of_ne same]

theorem knownFor_setAlarm (other : RequestId) (timeout : Duration) :
    (desk.setAlarm thread id timeout).knownFor other =
      desk.knownFor other ++ if other = id then [desk.nextAlarm id timeout] else [] := by
  unfold knownFor setAlarm
  rw [List.filter_append]
  by_cases same : other = id
  · simp [same, nextAlarm, Alarm.request?]
  · simp [same, Ne.symm same, nextAlarm, Alarm.request?]

theorem alarmsOf_setAlarm (other : RequestId) (timeout : Duration) :
    (desk.setAlarm thread id timeout).channel.alarmsOf other =
      desk.channel.alarmsOf other ++ if other = id then [desk.nextAlarm id timeout] else [] := by
  unfold Channel.alarmsOf setAlarm Channel.setAlarm
  rw [List.filter_append]
  by_cases same : other = id
  · simp [same, nextAlarm, Alarm.request?]
  · simp [same, Ne.symm same, nextAlarm, Alarm.request?]

theorem onlyAt_update
    (free : ∀ other known, other ≠ thread → desk.threads other = some known →
      known.id ≠ registering.id)
    (updated : after.threads = Function.update desk.threads thread (some registering)) :
    after.OnlyAt thread registering where
  here := by rw [updated, Function.update_self]
  only other known here same := by
    by_contra apart
    rw [updated, Function.update_of_ne apart] at here
    exact free other known apart here same

theorem rests_update (only : desk.OnlyAt thread registering)
    (updated : after.threads = Function.update desk.threads thread none) :
    after.Rests registering.id := by
  intro other known here same
  rw [updated] at here
  by_cases apart : other = thread
  · subst apart
    rw [Function.update_self] at here
    cases here
  · rw [Function.update_of_ne apart] at here
    exact apart (only.only other known here same)

end Desk

/-! ## What each act does to the stages -/

namespace Sound

variable {desk : Desk} {id : RequestId} {thread : Nat} {timeout : Duration}

theorem unknown (sound : Sound desk) (fresh : desk.channel.fate? id = none) :
    desk.Rests id ∧ desk.channel.waitingOf id = [] ∧ desk.knownFor id = [] := by
  cases sound.stage id with
  | unknown _ rests absent unset => exact ⟨rests, absent, unset⟩
  | entered made => exact absurd fresh made
  | timed made => exact absurd fresh made
  | registered made => exact absurd fresh made

theorem alarmsOf_sublist (sound : Sound desk) (id : RequestId) :
    (desk.channel.alarmsOf id).Sublist (desk.knownFor id) :=
  sound.alive.filter _

/-- Alarms of different requests have different tickets. -/
theorem ticket_ne (sound : Sound desk) {other : RequestId} (differs : other ≠ id) {alarm : Alarm}
    (set : desk.knownFor id = [alarm]) :
    ∀ mine ∈ desk.channel.alarmsOf other, mine.ticket ≠ alarm.ticket := by
  intro mine runs same
  have here : alarm ∈ desk.knownFor id := set ▸ List.mem_singleton_self alarm
  have there := (sound.alarmsOf_sublist other).mem runs
  simp only [Desk.knownFor, List.mem_filter, decide_eq_true_eq] at here there
  have equal := List.inj_on_of_nodup_map sound.distinct there.1 here.1 same
  rw [equal, here.2, Option.some_inj] at there
  exact differs there.2.symm

/-- To cancel the ticket of a request takes away its alarm and no other one. -/
theorem alarmsOf_without (sound : Sound desk) {alarm : Alarm} (set : desk.knownFor id = [alarm])
    (other : RequestId) :
    ((desk.channel.alarmsOf other).filter fun mine => mine.ticket != alarm.ticket) =
      if other = id then [] else desk.channel.alarmsOf other := by
  split
  · next same =>
      subst same
      refine List.filter_eq_nil_iff.mpr fun mine present => ?_
      have known := (sound.alarmsOf_sublist other).mem present
      rw [set, List.mem_singleton] at known
      simp [known]
  · next differs =>
      refine List.filter_eq_self.mpr fun mine present => ?_
      simpa using sound.ticket_ne differs set mine present

theorem enter (sound : Sound desk) (idle : desk.threads thread = none)
    (fresh : desk.channel.fate? id = none) (event : String) (generation : Nat) :
    Sound (desk.enter thread id event generation timeout) where
  early := sound.early
  distinct := sound.distinct
  alive := sound.alive
  stage other := by
    by_cases same : other = id
    · subst same
      obtain ⟨rests, absent, unset⟩ := sound.unknown fresh
      have only : (desk.enter thread other event generation timeout).OnlyAt thread
          { id := other, timeout } :=
        Desk.onlyAt_update (fun elsewhere known _ here => rests elsewhere known here) rfl
      refine .entered ?_ only unset (.inr ⟨⟨other, event, generation, none⟩, ?_, rfl⟩)
      · simp [Desk.enter, Channel.fate?_enterWaiting, fresh]
      · simp [Desk.enter, Channel.waitingOf_enterWaiting, absent]
    · refine (sound.stage other).alike ⟨?_, Desk.threads_update ?_ ?_ rfl, ?_, rfl, rfl⟩
      · simp [Desk.enter, Channel.fate?_enterWaiting, Ne.symm same]
      · simp [idle]
      · rintro registering ⟨⟩
        exact Ne.symm same
      · simp [Desk.enter, Channel.waitingOf_enterWaiting, same]

/-- On the thread of a request without an alarm, the request is at this stage. -/
theorem entered (sound : Sound desk) (here : desk.threads thread = some { id, timeout }) :
    desk.channel.fate? id ≠ none ∧ desk.OnlyAt thread { id, timeout } ∧ desk.knownFor id = [] ∧
      (desk.channel.waitingOf id = [] ∨
        ∃ waiting, desk.channel.waitingOf id = [waiting] ∧ waiting.alarm = none) := by
  cases sound.stage id with
  | unknown _ rests => exact absurd rfl (rests thread _ here)
  | entered made only unset waits =>
      cases only.only thread _ here rfl
      cases only.here.symm.trans here
      exact ⟨made, only, unset, waits⟩
  | timed _ only =>
      cases only.only thread _ here rfl
      cases only.here.symm.trans here
  | registered _ rests => exact absurd rfl (rests thread _ here)

theorem setAlarm (sound : Sound desk) (here : desk.threads thread = some { id, timeout }) :
    Sound (desk.setAlarm thread id timeout) where
  early alarm present := by
    show alarm.ticket < desk.channel.nextTicket + 1
    rcases List.mem_append.mp present with old | new
    · exact Nat.lt_succ_of_lt (sound.early alarm old)
    · rw [List.mem_singleton.mp new]
      exact Nat.lt_succ_self _
  distinct := by
    rw [Desk.setAlarm, List.map_append, List.map_singleton]
    refine List.nodup_append'.mpr ⟨sound.distinct, List.nodup_singleton _, ?_⟩
    rw [List.disjoint_singleton]
    intro used
    obtain ⟨alarm, present, same⟩ := List.mem_map.mp used
    exact absurd same (sound.early alarm present).ne
  alive := sound.alive.append_right _
  stage other := by
    obtain ⟨made, only, unset, waits⟩ := sound.entered here
    by_cases same : other = id
    · subst same
      have silent : desk.channel.alarmsOf other = [] :=
        List.sublist_nil.mp (unset ▸ sound.alarmsOf_sublist other)
      have timed : (desk.setAlarm thread other timeout).OnlyAt thread
          { id := other, timeout, ticket := some (desk.nextAlarm other timeout).ticket } :=
        Desk.onlyAt_update (fun elsewhere known apart there mine =>
          apart (only.only elsewhere known there mine)) rfl
      refine .timed made timed ?_ (waits.imp_right fun ⟨waiting, waits, untied⟩ =>
        ⟨waiting, waits, untied, ?_⟩)
      · rw [Desk.knownFor_setAlarm, unset, if_pos rfl, List.nil_append]
      · rw [Desk.alarmsOf_setAlarm, silent, if_pos rfl, List.nil_append]
    · have alike : Alike other desk (desk.setAlarm thread id timeout) := by
        refine ⟨rfl, Desk.threads_update ?_ ?_ rfl, rfl, ?_, ?_⟩
        · rw [here]
          rintro registering ⟨⟩
          exact Ne.symm same
        · rintro registering ⟨⟩
          exact Ne.symm same
        · rw [Desk.alarmsOf_setAlarm, if_neg same, List.append_nil]
        · rw [Desk.knownFor_setAlarm, if_neg same, List.append_nil]
      exact (sound.stage other).alike alike

/-- On the thread of a request with an alarm, the request is at this stage. -/
theorem timed (sound : Sound desk) {ticket : Nat}
    (here : desk.threads thread = some { id, timeout, ticket := some ticket }) :
    ∃ alarm, alarm.ticket = ticket ∧ desk.channel.fate? id ≠ none ∧
      desk.OnlyAt thread { id, timeout, ticket := some ticket } ∧ desk.knownFor id = [alarm] ∧
      (desk.channel.waitingOf id = [] ∨
        ∃ waiting, desk.channel.waitingOf id = [waiting] ∧ waiting.alarm = none ∧
          desk.channel.alarmsOf id = [alarm]) := by
  cases sound.stage id with
  | unknown _ rests => exact absurd rfl (rests thread _ here)
  | entered _ only =>
      cases only.only thread _ here rfl
      cases only.here.symm.trans here
  | timed made only set waits =>
      cases only.only thread _ here rfl
      cases only.here.symm.trans here
      exact ⟨_, rfl, made, only, set, waits⟩
  | registered _ rests => exact absurd rfl (rests thread _ here)

theorem attach (sound : Sound desk) {ticket : Nat}
    (here : desk.threads thread = some { id, timeout, ticket := some ticket }) :
    Sound (desk.attach thread id ticket) where
  early alarm present := by
    rw [Desk.attach, Channel.nextTicket_attachAlarm]
    exact sound.early alarm present
  distinct := sound.distinct
  alive := (desk.channel.alarms_attachAlarm id ticket).trans sound.alive
  stage other := by
    obtain ⟨alarm, rfl, made, only, set, waits⟩ := sound.timed here
    by_cases same : other = id
    · subst same
      have rests : (desk.attach thread other alarm.ticket).Rests other :=
        Desk.rests_update only rfl
      refine .registered ?_ rests set ?_
      · rw [Desk.attach, Channel.fate?_attachAlarm]
        exact made
      · rw [Desk.attach, Channel.waitingOf_attachAlarm, Channel.alarmsOf_attachAlarm, if_pos rfl]
        rcases waits with absent | ⟨waiting, waits, -, runs⟩
        · -- nothing waits, and the alarm is taken away
          left
          rw [Channel.waitingOf_eq_nil.mp absent, absent]
          exact ⟨rfl, (sound.alarmsOf_without set other).trans (if_pos rfl)⟩
        · right
          have present : desk.channel.isPending other = true := by
            by_contra absent
            rw [Bool.not_eq_true, ← Channel.waitingOf_eq_nil, waits] at absent
            cases absent
          rw [present, waits]
          exact ⟨_, rfl, rfl, runs⟩
    · have alike : Alike other desk (desk.attach thread id alarm.ticket) := by
        refine ⟨desk.channel.fate?_attachAlarm id other _, Desk.threads_update ?_ ?_ rfl, ?_, ?_,
          rfl⟩
        · rw [here]
          rintro registering ⟨⟩
          exact Ne.symm same
        · exact nofun
        · rw [Desk.attach, Channel.waitingOf_attachAlarm, if_neg same]
        · rw [Desk.attach, Channel.alarmsOf_attachAlarm]
          split
          · rfl
          · exact (sound.alarmsOf_without set other).trans (if_neg same)
      exact (sound.stage other).alike alike

/-- A settlement takes out one request, with its alarm if that is tied to it. -/
theorem settle (sound : Sound desk) (id : RequestId) (outcome : Outcome) :
    Sound (desk.change (desk.channel.settle id outcome)) where
  early alarm present := by
    obtain ⟨pending, futures, alarms, same⟩ := desk.channel.settle_frame id outcome
    rw [Desk.change, same]
    exact sound.early alarm present
  distinct := sound.distinct
  alive := by
    rw [Desk.change, Channel.alarms_settle_eq]
    exact List.filter_sublist.trans sound.alive
  stage other := by
    have fate := desk.channel.fate?_settle id other outcome
    have alarms := desk.channel.alarmsOf_settle id other outcome
    have waiting := desk.channel.waitingOf_settle id other outcome
    rw [Channel.ticketOf?_eq] at alarms
    by_cases same : other = id
    · subst same
      rw [if_pos rfl] at waiting
      have made (before : desk.channel.fate? other ≠ none) :
          (desk.channel.settle other outcome).fate? other ≠ none := by
        rw [fate]
        split <;> simpa using before
      cases sound.stage other with
      | unknown fresh rests absent unset =>
          refine .unknown ?_ rests waiting unset
          rw [Desk.change, fate, fresh]
          split <;> rfl
      | entered before only unset _ =>
          exact .entered (made before) ⟨only.here, only.only⟩ unset (.inl waiting)
      | timed before only set _ =>
          exact .timed (made before) ⟨only.here, only.only⟩ set (.inl waiting)
      | registered before rests set waits =>
          refine .registered (made before) rests set (.inl ⟨waiting, ?_⟩)
          rw [Desk.change, alarms]
          rcases waits with ⟨-, silent⟩ | ⟨entry, waits, tied, runs⟩
          · rw [silent]
            rfl
          · rw [waits, runs]
            simp [tied]
    · have alike : Alike other desk (desk.change (desk.channel.settle id outcome)) := by
        refine ⟨fate.trans (if_neg fun mine => same mine.1), fun _ _ _ => Iff.rfl,
          waiting.trans (if_neg same), alarms.trans ?_, rfl⟩
        refine List.filter_eq_self.mpr fun mine present => ?_
        -- only an alarm that is tied to the other request is taken away
        cases sound.stage id with
        | unknown _ _ absent => simp [absent]
        | entered _ _ _ waits =>
            rcases waits with absent | ⟨entry, waits, untied⟩
            · simp [absent]
            · simp [waits, untied]
        | timed _ _ _ waits =>
            rcases waits with absent | ⟨entry, waits, untied, -⟩
            · simp [absent]
            · simp [waits, untied]
        | registered _ _ set waits =>
            rcases waits with ⟨absent, -⟩ | ⟨entry, waits, tied, -⟩
            · simp [absent]
            · simpa [waits, tied] using sound.ticket_ne same set mine present
      exact (sound.stage other).alike alike

theorem settleEach (sound : Sound desk) (requests : List Waiting) (outcome : Outcome) :
    Sound (desk.change (desk.channel.settleEach requests outcome)) := by
  induction requests generalizing desk with
  | nil => exact sound
  | cons first rest ih => exact ih (sound.settle first.id outcome)

/-- An alarm that was set for a request is the only one. -/
theorem knownFor_eq (sound : Sound desk) {alarm : Alarm} (present : alarm ∈ desk.known)
    (mine : alarm.request? = some id) : desk.knownFor id = [alarm] := by
  have here : alarm ∈ desk.knownFor id := by simp [Desk.knownFor, present, mine]
  cases sound.stage id with
  | unknown _ _ _ unset =>
      rw [unset] at here
      cases here
  | entered _ _ unset =>
      rw [unset] at here
      cases here
  | timed _ _ set =>
      rw [set, List.mem_singleton] at here
      rw [set, here]
  | registered _ _ set =>
      rw [set, List.mem_singleton] at here
      rw [set, here]

/-- The alarm of a request that does not wait may stop at any time. -/
theorem silence (sound : Sound desk) {alarm : Alarm} (set : desk.knownFor id = [alarm])
    (absent : desk.channel.waitingOf id = []) :
    Sound (desk.change (desk.channel.cancelAlarm (some alarm.ticket))) where
  early := sound.early
  distinct := sound.distinct
  alive := List.filter_sublist.trans sound.alive
  stage other := by
    have alarms := (desk.channel.alarmsOf_cancelAlarm alarm.ticket other).trans
      (sound.alarmsOf_without set other)
    by_cases same : other = id
    · subst same
      cases sound.stage other with
      | unknown _ _ _ unset => cases set.symm.trans unset
      | entered _ _ unset => cases set.symm.trans unset
      | timed made only known _ => exact .timed made ⟨only.here, only.only⟩ known (.inl absent)
      | registered made rests known _ =>
          exact .registered made rests known (.inl ⟨absent, alarms.trans (if_pos rfl)⟩)
    · have alike :
          Alike other desk (desk.change (desk.channel.cancelAlarm (some alarm.ticket))) := by
        exact ⟨rfl, fun _ _ _ => Iff.rfl, rfl, alarms.trans (if_neg same), rfl⟩
      exact (sound.stage other).alike alike

/-- Every act keeps every request at a stage. -/
theorem step {after : Desk} {act : Act} (sound : Sound desk) (acts : desk.Step act after) :
    Sound after := by
  cases acts with
  | enter idle fresh => exact sound.enter idle fresh _ _
  | setAlarm here => exact sound.setAlarm here
  | attach here => exact sound.attach here
  | settle => exact sound.settle _ _
  | reject => exact sound.settle _ _
  | expire present purpose =>
      have set := sound.knownFor_eq present (Alarm.request?_eq_some.mpr ⟨_, purpose⟩)
      refine (sound.settle _ _).silence set ?_
      rw [Desk.change, Channel.waitingOf_settle, if_pos rfl]
  | rejectThrough => exact sound.settleEach _ _

theorem start (settings : Settings) (draw : Nat → Nat) : Sound (.start settings draw) where
  early := nofun
  distinct := List.nodup_nil
  alive := .refl _
  stage _ := .unknown rfl (fun _ _ => nofun) rfl rfl

end Sound

/-! ## What is completed -/

namespace Trigger

variable {channel : Channel} {id : RequestId}

theorem taken_sublist (channel : Channel) (trigger : Trigger) :
    (trigger.taken channel).Sublist channel.pending := by
  cases trigger with
  | settle id outcome =>
      rw [taken, ← List.head?_filter, ← List.take_one]
      exact (List.take_sublist 1 _).trans List.filter_sublist
  | sweep generation => exact List.filter_sublist

/-- A trigger takes out a request that waits and that it is about, and no other one. -/
theorem mem_taken_iff (channel : Channel) (trigger : Trigger) (id : RequestId) :
    (∃ waiting ∈ trigger.taken channel, waiting.id = id) ↔
      channel.isPending id = true ∧ trigger.Hits channel id := by
  rw [Channel.isPending_iff]
  cases trigger with
  | settle other outcome =>
      simp only [taken, Option.mem_toList, Hits]
      constructor
      · rintro ⟨waiting, found, rfl⟩
        exact ⟨⟨waiting, List.mem_of_find?_eq_some found, rfl⟩,
          by simpa using List.find?_some found⟩
      · rintro ⟨⟨waiting, present, same⟩, rfl⟩
        have found : (channel.pending.find? fun waiting => waiting.id = id).isSome = true :=
          List.find?_isSome.mpr ⟨waiting, present, decide_eq_true same⟩
        obtain ⟨first, found⟩ := Option.isSome_iff_exists.mp found
        exact ⟨first, found, by simpa using List.find?_some found⟩
  | sweep generation =>
      simp only [taken, List.mem_filter, decide_eq_true_eq, Hits]
      constructor
      · rintro ⟨waiting, ⟨present, stale⟩, same⟩
        exact ⟨⟨waiting, present, same⟩, waiting, present, same, stale⟩
      · rintro ⟨-, waiting, present, same, stale⟩
        exact ⟨waiting, ⟨present, stale⟩, same⟩

/-- What a trigger takes out it completes, once, if it waits under one entry. -/
theorem completions_eq (trigger : Trigger) (short : (channel.waitingOf id).length ≤ 1) :
    ((channel.isPending id = true ∧ trigger.Hits channel id) →
        trigger.completions channel id = [trigger.outcome]) ∧
      (¬ (channel.isPending id = true ∧ trigger.Hits channel id) →
        trigger.completions channel id = []) := by
  have few : ((trigger.taken channel).filter fun waiting => waiting.id = id).length ≤ 1 :=
    ((trigger.taken_sublist channel).filter _).length_le.trans short
  rw [← mem_taken_iff]
  constructor
  · rintro ⟨waiting, present, same⟩
    have here : waiting ∈ (trigger.taken channel).filter fun waiting => waiting.id = id :=
      List.mem_filter.mpr ⟨present, decide_eq_true same⟩
    obtain ⟨only, single⟩ := List.length_eq_one_iff.mp
      (few.antisymm (List.length_pos_of_mem here))
    rw [completions, single]
    rfl
  · intro spared
    rw [completions, List.map_eq_nil_iff, List.filter_eq_nil_iff]
    exact fun waiting present same => spared ⟨waiting, present, of_decide_eq_true same⟩

end Trigger

/-- `Accounted past channel`: of the requests that were entered, those that do not wait were
completed, each of them once. -/
structure Accounted (past : List (Channel × Act)) (channel : Channel) : Prop where
  made : ∀ id, (channel.fate? id).isSome = true ↔ id ∈ entries past
  open_iff : ∀ id, channel.isPending id = true ↔ channel.fate? id = some none
  completed : ∀ id, completions past id = (channel.fate? id).join.toList

namespace Sound

variable {desk : Desk}

theorem length_waitingOf (sound : Sound desk) (id : RequestId) :
    (desk.channel.waitingOf id).length ≤ 1 := by
  cases sound.stage id with
  | unknown _ _ absent => simp [absent]
  | entered _ _ _ waits => rcases waits with waits | ⟨_, waits, _⟩ <;> simp [waits]
  | timed _ _ _ waits => rcases waits with waits | ⟨_, waits, _⟩ <;> simp [waits]
  | registered _ _ _ waits => rcases waits with ⟨waits, _⟩ | ⟨_, waits, _⟩ <;> simp [waits]

end Sound

namespace Accounted

variable {past : List (Channel × Act)} {channel after : Channel} {desk : Desk} {act : Act}

theorem of_eq (accounted : Accounted past channel) (fate : ∀ id, after.fate? id = channel.fate? id)
    (pending : ∀ id, after.isPending id = channel.isPending id) : Accounted past after where
  made id := by rw [fate, accounted.made]
  open_iff id := by rw [pending, fate, accounted.open_iff]
  completed id := by rw [fate, accounted.completed]

/-- An act that neither enters nor settles a request keeps the accounts. -/
theorem keep (accounted : Accounted past channel) (silent : act.trigger? = none)
    (same : act.entered? = none) (fate : ∀ id, after.fate? id = channel.fate? id)
    (pending : ∀ id, after.isPending id = channel.isPending id) :
    Accounted (past ++ [(channel, act)]) after where
  made id := by
    rw [fate, accounted.made, entries, entries, List.filterMap_append]
    simp [same]
  open_iff id := by rw [pending, fate, accounted.open_iff]
  completed id := by
    rw [fate, ← accounted.completed, completions, completions, List.flatMap_append]
    simp [silent]

theorem enter (accounted : Accounted past channel) {id : RequestId}
    (fresh : channel.fate? id = none) (enters : act.entered? = some id)
    (silent : act.trigger? = none) (event : String) (generation : Nat) :
    Accounted (past ++ [(channel, act)]) (channel.enterWaiting id event generation) where
  made other := by
    rw [Channel.fate?_enterWaiting, Option.isSome_or, Bool.or_eq_true, accounted.made, entries,
      entries, List.filterMap_append]
    by_cases same : id = other <;> simp [enters, same, eq_comm]
  open_iff other := by
    rw [Channel.isPending_enterWaiting, Channel.fate?_enterWaiting, Bool.or_eq_true,
      accounted.open_iff]
    by_cases same : id = other
    · subst same
      simp [fresh]
    · simp [same]
  completed other := by
    have before := accounted.completed other
    rw [completions, List.flatMap_append, ← completions, before, Channel.fate?_enterWaiting]
    by_cases same : id = other
    · subst same
      simp [silent, fresh]
    · simp [silent, same]

/-- What a trigger takes out it completes. -/
theorem apply (accounted : Accounted past channel) {trigger : Trigger}
    (triggers : act.trigger? = some trigger)
    (short : ∀ id, (channel.waitingOf id).length ≤ 1) :
    Accounted (past ++ [(channel, act)]) (trigger.apply channel) where
  made id := by
    rw [trigger.isSome_fate?_apply, accounted.made, entries, entries, List.filterMap_append]
    simp [Act.entered?_of_trigger triggers]
  open_iff id := trigger.isPending_apply_iff channel (accounted.open_iff id)
  completed id := by
    rw [completions, List.flatMap_append, ← completions, accounted.completed]
    simp only [List.flatMap_singleton, triggers, Option.toList_some]
    by_cases hit : channel.isPending id = true ∧ trigger.Hits channel id
    · -- it waited, and so had not been completed before
      rw [(trigger.fate?_apply channel id).1 hit, (trigger.completions_eq (short id)).1 hit,
        (accounted.open_iff id).mp hit.1]
      rfl
    · rw [(trigger.fate?_apply channel id).2 hit, (trigger.completions_eq (short id)).2 hit,
        List.append_nil]

/-- What an act takes out it completes, once. -/
theorem step (accounted : Accounted past desk.channel) (sound : Sound desk) {after : Desk}
    (acts : desk.Step act after) : Accounted (past ++ [(desk.channel, act)]) after.channel := by
  cases acts with
  | enter _ fresh => exact accounted.enter fresh rfl rfl _ _
  | setAlarm => exact accounted.keep rfl rfl (fun _ => rfl) fun _ => rfl
  | attach =>
      exact accounted.keep rfl rfl (desk.channel.fate?_attachAlarm _ · _)
        (desk.channel.isPending_attachAlarm _ · _)
  | @settle response =>
      have triggers : (Act.settle response).trigger? = some (.settle response.id response.result) :=
        rfl
      exact accounted.apply triggers sound.length_waitingOf
  | @reject id failure =>
      have triggers : (Act.reject id failure).trigger? = some (.settle id (.error failure)) := rfl
      exact accounted.apply triggers sound.length_waitingOf
  | @expire alarm id timeout =>
      have triggers : (Act.expire alarm.ticket id timeout).trigger? =
          some (.settle id (.error (Channel.timeoutFailure id timeout))) := rfl
      exact (accounted.apply triggers sound.length_waitingOf).of_eq (fun _ => rfl) fun _ => rfl
  | @rejectThrough generation =>
      have triggers : (Act.rejectThrough generation).trigger? = some (.sweep generation) := rfl
      exact accounted.apply triggers sound.length_waitingOf

theorem start (settings : Settings) (draw : Nat → Nat) :
    Accounted [] (Desk.start settings draw).channel where
  made _ := ⟨nofun, nofun⟩
  open_iff _ := ⟨nofun, nofun⟩
  completed _ := rfl

end Accounted

namespace Desk.Reaches

variable {settings : Settings} {draw : Nat → Nat} {past : List (Channel × Act)} {desk : Desk}

theorem sound (reached : (Desk.start settings draw).Reaches past desk) : Sound desk := by
  induction reached with
  | start => exact .start settings draw
  | step _ acts ih => exact ih.step acts

theorem accounted (reached : (Desk.start settings draw).Reaches past desk) :
    Accounted past desk.channel := by
  induction reached with
  | start => exact .start settings draw
  | step reached acts ih => exact ih.step reached.sound acts

end Desk.Reaches

/-- However registrations, answers, failed writes, alarms and ends of sockets follow on one another:
a request whose registration is not under way waits exactly as long as its alarm runs and is tied to
it. Once it waits no more, it has been completed, once, and none of its alarms runs. -/
theorem timed_at_rest {settings : Settings} {draw : Nat → Nat} {past : List (Channel × Act)}
    {desk : Desk} (reached : (Desk.start settings draw).Reaches past desk) {id : RequestId}
    (rests : desk.Rests id) :
    (desk.channel.isPending id = true ↔
        ∃ waiting alarm, desk.channel.waitingOf id = [waiting] ∧
          desk.channel.alarmsOf id = [alarm] ∧ waiting.alarm = some alarm.ticket) ∧
      (desk.channel.isPending id = true → completions past id = []) ∧
      (desk.channel.isPending id = false → desk.channel.alarmsOf id = []) ∧
      (id ∈ entries past → desk.channel.isPending id = false →
        ∃ outcome, completions past id = [outcome] ∧
          desk.channel.fate? id = some (some outcome)) := by
  have sound := reached.sound
  have accounted := reached.accounted
  have present {waiting : Waiting} (waits : desk.channel.waitingOf id = [waiting]) :
      desk.channel.isPending id = true := by
    by_contra absent
    rw [Bool.not_eq_true, ← Channel.waitingOf_eq_nil, waits] at absent
    cases absent
  have ended : (desk.channel.waitingOf id = [] ∧ desk.channel.alarmsOf id = []) ∨
      ∃ waiting alarm, desk.channel.waitingOf id = [waiting] ∧
        desk.channel.alarmsOf id = [alarm] ∧ waiting.alarm = some alarm.ticket := by
    cases sound.stage id with
    | unknown _ _ absent unset =>
        exact .inl ⟨absent, List.sublist_nil.mp (unset ▸ sound.alarmsOf_sublist id)⟩
    | entered _ only => exact absurd rfl (rests _ _ only.here)
    | timed _ only => exact absurd rfl (rests _ _ only.here)
    | registered _ _ _ waits =>
        exact waits.imp_right fun ⟨waiting, waits, tied, runs⟩ => ⟨waiting, _, waits, runs, tied⟩
  refine ⟨⟨fun waits => ?_, fun ⟨_, _, waits, _⟩ => present waits⟩, fun waits => ?_,
    fun absent => ?_, fun entered absent => ?_⟩
  · refine ended.resolve_left fun ⟨absent, _⟩ => ?_
    rw [Channel.waitingOf_eq_nil, waits] at absent
    cases absent
  · rw [accounted.completed, (accounted.open_iff id).mp waits]
    rfl
  · rcases ended with ⟨-, silent⟩ | ⟨_, _, waits, _⟩
    · exact silent
    · cases absent.symm.trans (present waits)
  · obtain ⟨fate, made⟩ := Option.isSome_iff_exists.mp ((accounted.made id).mpr entered)
    have settled : fate ≠ none := by
      rintro rfl
      cases absent.symm.trans ((accounted.open_iff id).mpr made)
    obtain ⟨outcome, rfl⟩ := Option.ne_none_iff_exists'.mp settled
    rw [accounted.completed, made]
    exact ⟨outcome, rfl, rfl⟩

/-- Three registrations. The alarm of the first goes off before it is tied to its request, and the
second is answered before its alarm is set. -/
def rushed : List Act :=
  let term := Duration.ofMilliseconds 1
  [.enter 0 ⟨1⟩ "list" 1 term, .enter 1 ⟨2⟩ "list" 1 term, .setAlarm 0, .expire 0 ⟨1⟩ term,
    .attach 0, .settle ⟨⟨2⟩, some true, none, none, none, none⟩, .setAlarm 1, .attach 1,
    .enter 0 ⟨3⟩ "list" 1 term, .setAlarm 0, .attach 0]

/-- These acts are possible, and no registration is under way after them. -/
theorem reaches_rushed : ∃ past desk, (Desk.start default fun _ => 0).Reaches past desk ∧
    past.map Prod.snd = rushed ∧ (∀ thread, desk.threads thread = none) ∧
      entries past = [⟨1⟩, ⟨2⟩, ⟨3⟩] ∧
      completions past ⟨1⟩ = [.error (Channel.timeoutFailure ⟨1⟩ (.ofMilliseconds 1))] ∧
      desk.channel.isPending ⟨1⟩ = false ∧ desk.channel.isPending ⟨2⟩ = false ∧
      desk.channel.isPending ⟨3⟩ = true := by
  have reached : (Desk.start default fun _ => 0).Reaches [] _ := .start
  have reached := reached.step
    (.enter rfl rfl : Desk.Step _ (.enter 0 ⟨1⟩ "list" 1 (.ofMilliseconds 1)) _)
  have reached := reached.step
    (.enter rfl rfl : Desk.Step _ (.enter 1 ⟨2⟩ "list" 1 (.ofMilliseconds 1)) _)
  have reached := reached.step (.setAlarm rfl : Desk.Step _ (.setAlarm 0) _)
  have reached := reached.step (.expire (List.mem_singleton_self _) rfl)
  have reached := reached.step (.attach rfl : Desk.Step _ (.attach 0) _)
  have reached := reached.step
    (.settle : Desk.Step _ (.settle ⟨⟨2⟩, some true, none, none, none, none⟩) _)
  have reached := reached.step (.setAlarm rfl : Desk.Step _ (.setAlarm 1) _)
  have reached := reached.step (.attach rfl : Desk.Step _ (.attach 1) _)
  -- the third registration is not interrupted
  have reached := @Desk.Reaches.register _ _ _ reached 0 rfl ⟨3⟩ rfl "list" 1 (.ofMilliseconds 1)
  refine ⟨_, _, reached, rfl, fun thread => ?_, rfl, rfl, rfl, rfl, rfl⟩
  match thread with
  | 0 => rfl
  | 1 => rfl
  | _ + 2 => rfl

/-- The first request timed out, the second was answered, and the third waits with its alarm. -/
theorem timed_at_rest_rushed : ∃ past desk,
    (Desk.start default fun _ => 0).Reaches past desk ∧ past.map Prod.snd = rushed ∧
      (∀ id, desk.Rests id) ∧
      (∃ waiting alarm, desk.channel.waitingOf ⟨3⟩ = [waiting] ∧
        desk.channel.alarmsOf ⟨3⟩ = [alarm] ∧ waiting.alarm = some alarm.ticket) ∧
      completions past ⟨1⟩ = [.error (Channel.timeoutFailure ⟨1⟩ (.ofMilliseconds 1))] ∧
      desk.channel.alarmsOf ⟨1⟩ = [] ∧ desk.channel.alarmsOf ⟨2⟩ = [] ∧
      ∃ outcome, completions past ⟨2⟩ = [outcome] ∧
        desk.channel.fate? ⟨2⟩ = some (some outcome) := by
  obtain ⟨past, desk, reached, same, idle, entered, timedOut, first, second, third⟩ :=
    reaches_rushed
  have rests (id : RequestId) : desk.Rests id := fun thread registering here => by
    rw [idle] at here
    cases here
  refine ⟨past, desk, reached, same, rests, (timed_at_rest reached (rests _)).1.mp third, timedOut,
    (timed_at_rest reached (rests _)).2.2.1 first, (timed_at_rest reached (rests _)).2.2.1 second,
    (timed_at_rest reached (rests _)).2.2.2 ?_ second⟩
  simp [entered]

end Intercom
