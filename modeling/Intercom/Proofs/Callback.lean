import Intercom.Proofs.Run

/-!
# Callbacks in a run

A callback starts in one moment and then runs until its actions are done or it breaks off. Meanwhile
it and others may use the channel, and whatever they start stands above it on the agenda, so that
the tasks below wait until it has ended.

Results: in a run that finds a callback running, the callback runs to the end of the run, or up to
the moment in which it ends (`Run.turn`).
-/

namespace Intercom

/-! ## Definitions -/

/-- A callback that starts, with what it is told. -/
inductive Invocation where
  | connect (hook : Hook)
  | deliver (listener : Listener Hook) (push : Push)
  | disconnect (hook : Hook) (closing : Closing)

namespace Invocation

/-- The callback that starts. -/
def hook : Invocation → Hook
  | .connect hook => hook
  | .deliver listener _ => listener.handler
  | .disconnect hook _ => hook

/-- The registration of a listener. -/
def own : Invocation → Option SubscriptionId
  | .deliver listener _ => some listener.id
  | _ => none

end Invocation

/-- The callback that the moment starts. -/
def Moment.invocation? (moment : Moment) : Option Invocation :=
  match moment.task? with
  | some (.announceReady _) => moment.scene.channel.onConnect.map .connect
  | some (.deliver push none (listener :: _) _) => some (.deliver listener push)
  | some (.announceClose closing) =>
      moment.scene.channel.onDisconnect.map fun hook => .disconnect hook closing
  | _ => none

/-- `moment.Does task below`: the task is carried out, and `below` waits under it. -/
structure Moment.Does (moment : Moment) (task : Task) (below : Agenda) : Prop where
  work : moment.event = .work
  agenda : moment.scene.agenda = task :: below

/-- What a callback that is running is part of. -/
inductive Slot where
  | plain
  | listener (push : Push) (listeners : List (Listener Hook)) (completed : Nat)

namespace Slot

/-- The task that a running callback is. -/
def task : Slot → Running → Task
  | .plain, running => .callback running
  | .listener push listeners completed, running =>
      .deliver push (some running) listeners completed

/-- What takes the place of a callback that has ended. -/
inductive Leaves : Slot → Agenda → Prop where
  | plain : Leaves .plain []
  | listener (push : Push) (listeners : List (Listener Hook)) (before after : Nat) :
      Leaves (.listener push listeners before) [.deliver push none listeners after]

end Slot

/-- How a callback ends: its actions are done, or it breaks off. -/
inductive Ending where
  | returned
  | panicked
deriving DecidableEq

/-- What takes the place of a callback that has ended so. -/
def Slot.left : Slot → Ending → Agenda
  | .plain, _ => []
  | .listener push listeners completed, .returned =>
      [.deliver push none listeners (completed + 1)]
  | .listener push listeners completed, .panicked => [.deliver push none listeners completed]

/-- `slot.Ends below moment ending`: in this moment the callback in the slot ends so. -/
inductive Slot.Ends (slot : Slot) (below : Agenda) (moment : Moment) : Ending → Prop where
  | returned {label : String} {own : Option SubscriptionId} :
      moment.Does (slot.task ⟨label, own, []⟩) below → slot.Ends below moment .returned
  | panicked {label : String} {own : Option SubscriptionId} {actions : List Action} :
      moment.Does (slot.task ⟨label, own, .panic :: actions⟩) below →
      slot.Ends below moment .panicked

/-- `scene.Busy invocation slot below`: the callback that was invoked is running in the slot, above
`below`. -/
def Scene.Busy (scene : Scene) (invocation : Invocation) (slot : Slot) (below : Agenda) : Prop :=
  ∃ upper running, scene.agenda = upper ++ slot.task running :: below ∧
    running.label = invocation.hook.script.label ∧ running.own = invocation.own

/-- `Turn invocation slot below moment inside`: the moment invokes the callback, which leaves the
waiting requests alone, and then the callback runs all through `inside`. -/
structure Turn (invocation : Invocation) (slot : Slot) (below : Agenda) (moment : Moment)
    (inside : List Moment) : Prop where
  starts : moment.invocation? = some invocation
  pending : moment.after.channel.pending = moment.scene.channel.pending
  begins : moment.after.Busy invocation slot below
  runs : ∀ other ∈ inside, other.scene.Busy invocation slot below

/-! ## From one scene to the next -/

namespace Moment.Does

variable {moment : Moment} {task : Task} {below : Agenda}

theorem task?_eq (does : moment.Does task below) : moment.task? = some task := by
  simp only [Moment.task?, does.work, does.agenda, List.head?_cons]

theorem after_eq (does : moment.Does task below) :
    moment.after = ⟨(task.run moment.scene.channel).1 ++ below,
      (task.run moment.scene.channel).2⟩ := by
  simp only [Moment.after, Scene.after, Scene.perform, Scene.rest, does.work, does.agenda,
    List.tail_cons]

end Moment.Does

namespace Turn

variable {moment : Moment} {below : Agenda}

/-- The next listener of a push starts. -/
theorem of_deliver {push : Push} {listener : Listener Hook} {listeners : List (Listener Hook)}
    {completed : Nat}
    (does : moment.Does (.deliver push none (listener :: listeners) completed) below) :
    Turn (.deliver listener push) (.listener push listeners completed) below moment [] where
  starts := by simp only [Moment.invocation?, does.task?_eq]
  pending := by
    rw [does.after_eq]
    rfl
  begins := by
    rw [does.after_eq]
    exact ⟨[], _, rfl, rfl, rfl⟩
  runs := fun _ absent => absurd absent List.not_mem_nil

/-- The connect callback starts, if there is one. -/
theorem of_announce {generation : Nat} {hook : Hook}
    (does : moment.Does (.announceReady generation) below)
    (there : moment.scene.channel.onConnect = some hook) :
    Turn (.connect hook) .plain below moment [] := by
  have after := does.after_eq
  simp only [Task.run, there] at after
  refine ⟨?_, ?_, ?_, fun _ absent => absurd absent List.not_mem_nil⟩
  · simp only [Moment.invocation?, does.task?_eq, there, Option.map_some]
  · rw [after]
    rfl
  · rw [after]
    exact ⟨[], _, rfl, rfl, rfl⟩

/-- A callback that has started goes on. -/
theorem goes {invocation : Invocation} {slot : Slot} {inside : List Moment}
    (turn : Turn invocation slot below moment [])
    (runs : ∀ other ∈ inside, other.scene.Busy invocation slot below) :
    Turn invocation slot below moment inside :=
  ⟨turn.starts, turn.pending, turn.begins, runs⟩

end Turn

namespace Slot

variable {slot : Slot} {below : Agenda} {moment : Moment} {ending : Ending}

theorem leaves_left (slot : Slot) (ending : Ending) : slot.Leaves (slot.left ending) := by
  cases slot with
  | plain => exact .plain
  | listener push listeners completed => cases ending <;> exact .listener push listeners _ _

/-- A callback that ends leaves the channel as it is. -/
theorem Ends.after_eq (ends : slot.Ends below moment ending) :
    moment.after = ⟨slot.left ending ++ below, moment.scene.channel⟩ := by
  cases ends with
  | returned does =>
      rw [does.after_eq]
      cases slot <;> rfl
  | panicked does =>
      rw [does.after_eq]
      cases slot <;> rfl

/-- A callback that makes a call goes on in its slot. -/
theorem run_call (slot : Slot) (label : String) (own : Option SubscriptionId) (call : Call)
    (actions : List Action) (channel : Channel) :
    ∃ tasks after, (slot.task ⟨label, own, .call call :: actions⟩).run channel =
      (tasks ++ [slot.task ⟨label, own, actions⟩], after) := by
  cases slot with
  | plain => exact ⟨_, _, rfl⟩
  | listener => exact ⟨_, _, rfl⟩

end Slot

namespace Scene

variable {scene : Scene} {invocation : Invocation} {slot : Slot} {below : Agenda}

/-- After an event the callback is still running, or it ends with the event. -/
theorem Busy.after (busy : scene.Busy invocation slot below) (event : Event) :
    (scene.after event).Busy invocation slot below ∨
      ∃ ending, slot.Ends below ⟨scene, event⟩ ending := by
  obtain ⟨upper, running, agenda, label, own⟩ := busy
  have waits (same : scene.rest event = scene.agenda) :
      (scene.after event).Busy invocation slot below := by
    refine ⟨(scene.perform event).1 ++ upper, running, ?_, label, own⟩
    rw [List.append_assoc, ← agenda, ← same]
    rfl
  cases event with
  | work =>
      cases upper with
      | nil =>
          have does : Moment.Does ⟨scene, .work⟩ (slot.task running) below := ⟨rfl, agenda⟩
          obtain ⟨name, registration, actions⟩ := running
          cases actions with
          | nil => exact .inr ⟨.returned, .returned does⟩
          | cons action actions =>
              cases action with
              | panic => exact .inr ⟨.panicked, .panicked does⟩
              | call call =>
                  obtain ⟨tasks, channel, goes⟩ :=
                    slot.run_call name registration call actions scene.channel
                  refine .inl ⟨tasks, ⟨name, registration, actions⟩, ?_, label, own⟩
                  have after := congrArg Scene.agenda does.after_eq
                  rw [goes, List.append_assoc, List.singleton_append] at after
                  exact after
      | cons task upper =>
          refine .inl ⟨(task.run scene.channel).1 ++ upper, running, ?_, label, own⟩
          simp only [Scene.after, perform, rest, agenda, List.cons_append, List.tail_cons,
            List.append_assoc]
  | _ => exact .inl (waits rfl)

end Scene

/-! ## Runs -/

namespace Run

variable {first last scene : Scene} {moments earlier later : List Moment} {moment : Moment}

/-- From the scene after a moment, the run goes on with the later moments. -/
theorem onward (run : Run first (earlier ++ moment :: later) last) :
    Run moment.after later last := by
  induction later using List.reverseRecOn generalizing last with
  | nil =>
      obtain ⟨_, _, rfl⟩ := run.last
      exact .start
  | append_singleton later final ih =>
      rw [← List.cons_append, ← List.append_assoc] at run
      obtain ⟨before, allowed, rfl⟩ := run.last
      exact (ih before).step allowed

/-- Where nobody has a turn, the next task is carried out. -/
theorem does_of_busy {task : Task} {below : Agenda} (run : Run first moments last)
    (agenda : first.agenda = task :: below) (waits : task.isCallback = false)
    (free : last.free = true) :
    ∃ moment later, moments = moment :: later ∧ moment.scene = first ∧ moment.Does task below ∧
      Run moment.after later last := by
  have busy : first.free = false := by
    simp [Scene.free, agenda, waits]
  cases moments with
  | nil =>
      rw [run.nothing, busy] at free
      cases free
  | cons moment later =>
      rw [← List.nil_append (moment :: later)] at run
      obtain ⟨starts, allowed⟩ := run.at_moment
      have same := starts.nothing
      rw [same] at allowed
      refine ⟨moment, later, rfl, same, ⟨?_, same ▸ agenda⟩, run.onward⟩
      cases event : moment.event with
      | work => rfl
      | _ => simp [event, Scene.allows, busy] at allowed

/-- A callback that is running runs to the end of the run, or up to the moment in which it ends. -/
theorem turn {invocation : Invocation} {slot : Slot} {below : Agenda}
    (run : Run first moments last) (begins : first.Busy invocation slot below) :
    (∀ moment ∈ moments, moment.scene.Busy invocation slot below) ∧
        last.Busy invocation slot below ∨
      ∃ inside final others ending, moments = inside ++ final :: others ∧
        (∀ moment ∈ inside ++ [final], moment.scene.Busy invocation slot below) ∧
        slot.Ends below final ending ∧ Run final.after others last := by
  induction run with
  | start => exact .inl ⟨fun _ absent => absurd absent List.not_mem_nil, begins⟩
  | @step past scene event _ allowed ih =>
      rcases ih with ⟨runs, still⟩ | ⟨inside, final, others, ending, rfl, runs, ends, onward⟩
      · have all : ∀ moment ∈ past ++ [⟨scene, event⟩],
            moment.scene.Busy invocation slot below := by
          intro moment present
          rcases List.mem_append.mp present with old | new
          · exact runs moment old
          · rw [List.mem_singleton.mp new]
            exact still
        rcases still.after event with goes | ⟨ending, ends⟩
        · exact .inl ⟨all, goes⟩
        · exact .inr ⟨past, _, [], ending, rfl, all, ends, .start⟩
      · refine .inr ⟨inside, final, others ++ [⟨scene, event⟩], ending, ?_, runs, ends,
          onward.step allowed⟩
        rw [List.append_assoc, List.cons_append]

/-- A callback that is running runs to the end of the run, or up to a scene in which it has
ended. -/
theorem busy {invocation : Invocation} {slot : Slot} {below : Agenda}
    (run : Run first moments last) (begins : first.Busy invocation slot below) :
    (∀ moment ∈ moments, moment.scene.Busy invocation slot below) ∧
        last.Busy invocation slot below ∨
      ∃ inside others middle left, moments = inside ++ others ∧
        (∀ moment ∈ inside, moment.scene.Busy invocation slot below) ∧
        slot.Leaves left ∧ middle.agenda = left ++ below ∧ Run middle others last := by
  rcases run.turn begins with still | ⟨inside, final, others, ending, rfl, runs, ends, onward⟩
  · exact .inl still
  · refine .inr ⟨inside ++ [final], others, final.after, slot.left ending, ?_, runs,
      slot.leaves_left ending, ?_, onward⟩
    · rw [List.append_assoc, List.singleton_append]
    · rw [ends.after_eq]

end Run

end Intercom
