import Intercom.Channel.Task
import Mathlib.Data.List.Induction

/-!
# Runs of a channel

A run is any finite order in which a channel can be used: calls of the client, what sockets tell,
alarms that go off and time that passes. A call or a notice is worked off to its end before the next
one, except that a callback that is running may call the channel again, and that other sockets and
alarms may have their turn meanwhile.

`Scene.perform` says what one event leads to, `Run` collects the moments that have passed. A
`Course` follows the channel alone through a list of moments.

Results: what every moment preserves holds all along a course (`Course.preserves`). An event can
lead to one prompt task at most, so that prompt tasks never wait (`Run.tail_calm`) and each is
carried out directly after the moment that led to it (`Run.cause`).
-/

namespace Intercom

/-! ## Events -/

/-- What happens next to a channel. -/
inductive Event where
  /-- The client makes a call, from outside or out of the callback that is running. -/
  | call (own : Option SubscriptionId) (call : Call)
  /-- The socket of a generation tells something. -/
  | socket (generation : Nat) (notice : Notice)
  /-- An alarm goes off. -/
  | alarm (alarm : Alarm)
  /-- Time passes. -/
  | wait (milliseconds : Nat)
  /-- The client takes the outcomes that are there. -/
  | collect
  /-- The next task is carried out. -/
  | work

/-- A channel and the tasks that are still to be done. -/
structure Scene where
  agenda : Agenda
  channel : Channel

namespace Task

/-- Whether a task is a callback that is running. -/
def isCallback : Task → Bool
  | .callback _ => true
  | .deliver _ (some _) _ _ => true
  | _ => false

/-- Whether a task is carried out as soon as it arises. The other tasks may wait for callbacks. -/
def isPrompt : Task → Bool
  | .broadcast _ => false
  | .deliver _ _ _ _ => false
  | .announceClose _ => false
  | .callback _ => false
  | .report _ => false
  | _ => true

/-- The call that a task is about to make. -/
def call? : Task → Option Call
  | .callback ⟨_, _, .call call :: _⟩ => some call
  | .deliver _ (some ⟨_, _, .call call :: _⟩) _ _ => some call
  | _ => none

end Task

namespace Channel

/-- The open flag of a socket, which goes with what the socket tells: it is set when the socket has
opened and cleared together with its close. -/
def reflect (channel : Channel) (generation : Nat) : Notice → Channel
  | .opened => channel.setOpen generation true
  | .closed _ => channel.setOpen generation false
  | .message _ => channel
  | .sendFailed _ _ => channel

end Channel

namespace Scene

/-- A channel that has done nothing yet, with what will be drawn for its reconnections. -/
def start (settings : Settings) (draw : Nat → Nat) : Scene :=
  ⟨[], { Channel.start settings with draw }⟩

/-- Whether the client, the sockets and the alarms have their turn: nothing is to be done, or a
callback is running. -/
def free (scene : Scene) : Bool :=
  scene.agenda.head?.all Task.isCallback

/-- Whether an event may happen. Only a socket that was spawned tells anything, and an alarm goes
off once, when its time has come. -/
def allows (scene : Scene) : Event → Bool
  | .call _ _ => scene.free
  | .socket generation _ => scene.free && (scene.channel.handle? generation).isSome
  | .alarm alarm =>
      scene.free && decide (alarm ∈ scene.channel.alarms) && alarm.due ≤ scene.channel.now
  | .wait _ => scene.free
  | .collect => scene.free
  | .work => !scene.agenda.isEmpty

/-- The tasks that an event leads to, and the channel after it. -/
def perform (scene : Scene) : Event → Agenda × Channel
  | .call own call => (call.begin own scene.channel).2
  | .socket generation notice =>
      (Task.receive generation notice).run (scene.channel.reflect generation notice)
  | .alarm alarm => ([alarm.purpose.task], scene.channel.cancelAlarm (some alarm.ticket))
  | .wait milliseconds => ([], { scene.channel with now := scene.channel.now + milliseconds })
  | .collect => ([], scene.channel.takeSettled.2)
  | .work =>
      match scene.agenda with
      | [] => ([], scene.channel)
      | task :: _ => task.run scene.channel

/-- The tasks that an event leaves as they were. -/
def rest (scene : Scene) : Event → Agenda
  | .work => scene.agenda.tail
  | _ => scene.agenda

/-- The scene after an event. -/
def after (scene : Scene) (event : Event) : Scene :=
  ⟨(scene.perform event).1 ++ scene.rest event, (scene.perform event).2⟩

end Scene

/-! ## Moments -/

/-- One event of a run, and the scene in which it happened. -/
structure Moment where
  scene : Scene
  event : Event

namespace Moment

/-- The scene that follows. -/
def after (moment : Moment) : Scene :=
  moment.scene.after moment.event

/-- The tasks that the moment leads to. -/
def leads (moment : Moment) : Agenda :=
  (moment.scene.perform moment.event).1

/-- The task that is carried out. -/
def task? (moment : Moment) : Option Task :=
  match moment.event with
  | .work => moment.scene.agenda.head?
  | _ => none

/-- The call that is begun, by the client or by a script. -/
def call? (moment : Moment) : Option Call :=
  match moment.event with
  | .call _ call => some call
  | .work => moment.scene.agenda.head?.bind Task.call?
  | _ => none

/-- What is taken in from a socket, or from a call in its place. -/
def notice? (moment : Moment) : Option (Nat × Notice) :=
  match moment.event with
  | .socket generation notice => some (generation, notice)
  | .work =>
      match moment.scene.agenda.head? with
      | some (.receive generation notice) => some (generation, notice)
      | _ => none
  | _ => none

/-- A task at hand is the first of the agenda, and the scene that follows is what it leads to. -/
theorem work_of_task {moment : Moment} {task : Task} (carried : moment.task? = some task) :
    moment.event = .work ∧
      moment.after.channel = (task.run moment.scene.channel).2 ∧
      ∃ rest, moment.scene.agenda = task :: rest := by
  obtain ⟨⟨agenda, channel⟩, event⟩ := moment
  cases event with
  | work =>
      cases agenda with
      | nil => cases carried
      | cons head tail =>
          cases carried
          exact ⟨rfl, rfl, tail, rfl⟩
  | _ => cases carried

/-- The task that is carried out was waiting. -/
theorem mem_of_task {moment : Moment} {task : Task} (carried : moment.task? = some task) :
    task ∈ moment.scene.agenda := by
  obtain ⟨_, _, rest, agenda⟩ := work_of_task carried
  rw [agenda]
  exact List.mem_cons_self

/-- A call is made by the client or by a callback, in its turn. -/
theorem free_of_call {moment : Moment} {call : Call}
    (allowed : moment.scene.allows moment.event = true) (calls : moment.call? = some call) :
    moment.scene.free = true := by
  obtain ⟨⟨agenda, channel⟩, event⟩ := moment
  cases event with
  | call => exact allowed
  | work =>
      cases agenda with
      | nil => cases calls
      | cons task rest =>
          cases task with
          | callback => rfl
          | deliver push current =>
              cases current with
              | none => cases calls
              | some => rfl
          | _ => cases calls
  | _ => cases calls

/-- A moment leads to what its task leads to. -/
theorem leads_of_task {moment : Moment} {task : Task} (carried : moment.task? = some task) :
    moment.leads = (task.run moment.scene.channel).1 := by
  obtain ⟨⟨agenda, channel⟩, event⟩ := moment
  cases event with
  | work =>
      cases agenda with
      | nil => cases carried
      | cons head tail =>
          cases carried
          rfl
  | _ => cases carried

end Moment

/-- `Run first past scene`: from `first` on, the moments `past` have led to `scene`. -/
inductive Run (first : Scene) : List Moment → Scene → Prop where
  | start : Run first [] first
  | step {past : List Moment} {scene : Scene} {event : Event} :
      Run first past scene → scene.allows event = true →
      Run first (past ++ [⟨scene, event⟩]) (scene.after event)

/-- `Course first past last`: the moments `past`, whoever has them, lead from one channel to the
other. What depends on the channel alone is proved of courses. -/
inductive Course (first : Channel) : List Moment → Channel → Prop where
  | start : Course first [] first
  | step {past : List Moment} {moment : Moment} :
      Course first past moment.scene.channel → moment.scene.allows moment.event = true →
      Course first (past ++ [moment]) moment.after.channel

namespace Course

variable {first last middle : Channel} {past earlier later : List Moment} {moment : Moment}

/-- A course may be taken up where another one has led. -/
theorem trans (reached : Course first past middle) (onward : Course middle later last) :
    Course first (past ++ later) last := by
  induction onward with
  | start => simpa using reached
  | step _ allowed ih =>
      rw [← List.append_assoc]
      exact ih.step allowed

/-- Every moment of a course was possible, and what follows it goes on from the channel after it. -/
theorem at_moment (course : Course first (earlier ++ moment :: later) last) :
    Course first earlier moment.scene.channel ∧ moment.scene.allows moment.event = true ∧
      Course moment.after.channel later last := by
  generalize joined : earlier ++ moment :: later = past at course
  induction course generalizing later with
  | start => simp at joined
  | step reached allowed ih =>
      rcases List.eq_nil_or_concat later with rfl | ⟨others, final, rfl⟩
      · obtain ⟨rfl, single⟩ := List.append_inj' joined rfl
        cases single
        exact ⟨reached, allowed, .start⟩
      · rw [List.concat_eq_append, ← List.cons_append, ← List.append_assoc] at joined
        obtain ⟨same, single⟩ := List.append_inj' joined rfl
        cases single
        obtain ⟨before, possible, onward⟩ := ih same
        rw [List.concat_eq_append]
        exact ⟨before, possible, onward.step allowed⟩

/-- What every moment preserves holds all along a course. -/
theorem preserves (holds : Channel → Prop)
    (step : ∀ moment : Moment, holds moment.scene.channel → holds moment.after.channel)
    (course : Course first past last) (begins : holds first) :
    holds last ∧ ∀ moment ∈ past, holds moment.scene.channel := by
  induction course with
  | start => exact ⟨begins, fun _ absent => absurd absent List.not_mem_nil⟩
  | @step past moment _ _ ih =>
      obtain ⟨now, before⟩ := ih
      refine ⟨step moment now, fun other present => ?_⟩
      rcases List.mem_append.mp present with old | new
      · exact before other old
      · rw [List.mem_singleton.mp new]
        exact now

end Course

/-- A run makes a course of its channel. -/
theorem Run.course {first scene : Scene} {past : List Moment} (run : Run first past scene) :
    Course first.channel past scene.channel := by
  induction run with
  | start => exact .start
  | step _ allowed ih => exact Course.step ih allowed

namespace Scene

/-- The run that a list of events makes, if each of them may happen when its turn comes. -/
def play (past : List Moment) (scene : Scene) : List Event → Option (List Moment × Scene)
  | [] => some (past, scene)
  | event :: events =>
      if scene.allows event then play (past ++ [⟨scene, event⟩]) (scene.after event) events
      else none

theorem run_of_play {first scene last : Scene} {past all : List Moment} {events : List Event}
    (run : Run first past scene) (played : scene.play past events = some (all, last)) :
    Run first all last := by
  induction events generalizing past scene with
  | nil =>
      simp only [play, Option.some.injEq, Prod.mk.injEq] at played
      obtain ⟨rfl, rfl⟩ := played
      exact run
  | cons event events ih =>
      unfold play at played
      split at played
      · next allowed => exact ih (run.step allowed) played
      · cases played

/-- A run that events make has these events. -/
theorem events_of_play {scene last : Scene} {past all : List Moment} {events : List Event}
    (played : scene.play past events = some (all, last)) :
    all.map Moment.event = past.map Moment.event ++ events := by
  induction events generalizing past scene with
  | nil =>
      simp only [play, Option.some.injEq, Prod.mk.injEq] at played
      rw [played.1, List.append_nil]
  | cons event events ih =>
      unfold play at played
      split at played
      · rw [ih played, List.map_append, List.append_assoc]
        rfl
      · cases played

end Scene

/-! ## The past of a run -/

namespace Run

variable {first scene : Scene} {past earlier later : List Moment} {moment : Moment}

theorem nothing (run : Run first [] scene) : scene = first := by
  generalize empty : [] = past at run
  cases run with
  | start => rfl
  | step => simp at empty

/-- A run may be taken up where another one has led. -/
theorem trans {middle last : Scene} (reached : Run first earlier middle)
    (onward : Run middle later last) : Run first (earlier ++ later) last := by
  induction onward with
  | start => simpa using reached
  | step _ allowed ih =>
      rw [← List.append_assoc]
      exact ih.step allowed

/-- The last moment of a run was possible, and the run has led there. -/
theorem last (run : Run first (earlier ++ [moment]) scene) :
    Run first earlier moment.scene ∧ moment.scene.allows moment.event = true ∧
      scene = moment.after := by
  generalize joined : earlier ++ [moment] = past at run
  cases run with
  | start => simp at joined
  | step run allowed =>
      obtain ⟨rfl, same⟩ := List.append_inj' joined rfl
      cases same
      exact ⟨run, allowed, rfl⟩

/-- Every moment of a run was possible, and the run has led there. -/
theorem at_moment (run : Run first (earlier ++ moment :: later) scene) :
    Run first earlier moment.scene ∧ moment.scene.allows moment.event = true := by
  induction later using List.reverseRecOn generalizing scene with
  | nil => exact ⟨run.last.1, run.last.2.1⟩
  | append_singleton later final ih =>
      rw [← List.cons_append, ← List.append_assoc] at run
      exact ih run.last.1

/-- A moment is followed by the scene that it leads to. -/
theorem next_scene {next : Moment} (run : Run first (earlier ++ moment :: next :: later) scene) :
    next.scene = moment.after := by
  have before : Run first (earlier ++ [moment] ++ next :: later) scene := by simpa using run
  exact before.at_moment.1.last.2.2

end Run

/-! ## Prompt tasks -/

namespace Call

/-- A call leads to one task at most. -/
theorem begin_tail (own : Option SubscriptionId) (call : Call) (channel : Channel) :
    (call.begin own channel).2.1.tail = [] := by
  cases call with
  | disconnect =>
      simp only [begin, Channel.releaseSocket]
      cases channel.link.socket <;> rfl
  | _ => rfl

end Call

namespace Task

/-- The task that a call leads to comes first; its report may wait. -/
theorem perform_tail {running : Running} {call : Call} {channel : Channel} {task : Task}
    (later : task ∈ (perform running call channel).1.tail) : task.isPrompt = false := by
  have single := Call.begin_tail running.own call channel
  unfold perform at later
  dsimp only at later
  cases leads : (call.begin running.own channel).2.1 with
  | nil => simp [leads] at later
  | cons head tail =>
      rw [leads] at single later
      simp only [List.tail_cons] at single
      subst single
      simp only [List.cons_append, List.nil_append, List.tail_cons, List.mem_singleton] at later
      subst later
      rfl

/-- Of what a task leads to, only the first may be prompt. -/
theorem run_tail {task later : Task} {channel : Channel}
    (waits : later ∈ (task.run channel).1.tail) : later.isPrompt = false := by
  cases task with
  | connect => simp [run] at waits
  | shutDown => simp [run] at waits
  | send socket request =>
      simp only [run] at waits
      split at waits
      · split at waits <;> simp at waits
      · simp at waits
  | receive generation notice =>
      cases notice with
      | opened => simp [run] at waits
      | message text =>
          simp only [run] at waits
          split at waits
          · split at waits <;> simp at waits
          · simp at waits
      | sendFailed => simp [run] at waits
      | closed closing =>
          simp only [run] at waits
          split at waits
          · split at waits
            · simp only [List.tail_cons, List.mem_singleton] at waits
              subst waits
              rfl
            · simp at waits
          · simp at waits
  | route generation message =>
      simp only [run] at waits
      split at waits
      · split at waits
        · simp at waits
        · split at waits <;> simp at waits
      · simp at waits
  | dispatch generation push =>
      simp only [run, Channel.greet] at waits
      split at waits
      · cases ready : channel.link.ready with
        | false =>
            simp only [ready, Bool.not_false, if_true, List.tail_cons, List.mem_singleton] at waits
            subst waits
            rfl
        | true => simp [ready] at waits
      · simp at waits
  | announceReady =>
      simp only [run] at waits
      split at waits <;> simp at waits
  | broadcast => simp [run] at waits
  | deliver push current listeners completed =>
      simp only [run] at waits
      split at waits
      · split at waits <;> simp at waits
      · split at waits
        · simp at waits
        · simp at waits
        · rename_i running _ call actions _
          -- the callback itself waits until its call is done
          cases leads : (perform running call channel).1 with
          | nil => simp [leads] at waits
          | cons head tail =>
              simp only [leads, List.cons_append, List.tail_cons, List.mem_append,
                List.mem_singleton] at waits
              rcases waits with fromCall | own
              · exact perform_tail (by rw [leads]; exact fromCall)
              · subst own
                rfl
  | sweep => simp [run] at waits
  | announceClose closing =>
      simp only [run] at waits
      split at waits <;> simp at waits
  | callback running =>
      simp only [run] at waits
      split at waits
      · simp at waits
      · simp at waits
      · rename_i call actions _
        cases leads : (perform running call channel).1 with
        | nil => simp [leads] at waits
        | cons head tail =>
            simp only [leads, List.cons_append, List.tail_cons, List.mem_append,
              List.mem_singleton] at waits
            rcases waits with fromCall | own
            · exact perform_tail (by rw [leads]; exact fromCall)
            · subst own
              rfl
  | report => simp [run] at waits
  | expire => simp [run] at waits
  | reconnect =>
      simp only [run, Channel.checkReconnect] at waits
      cases wanted : !channel.link.manual && channel.link.socket.isNone <;> simp [wanted] at waits

end Task

namespace Scene

/-- Of what an event leads to, only the first may be prompt. -/
theorem perform_tail {scene : Scene} {event : Event} {later : Task}
    (waits : later ∈ (scene.perform event).1.tail) : later.isPrompt = false := by
  cases event with
  | call own call =>
      rw [perform, Call.begin_tail] at waits
      exact absurd waits List.not_mem_nil
  | socket generation notice => exact Task.run_tail waits
  | alarm alarm => exact absurd waits List.not_mem_nil
  | wait milliseconds => exact absurd waits List.not_mem_nil
  | collect => exact absurd waits List.not_mem_nil
  | work =>
      unfold perform at waits
      dsimp only at waits
      split at waits
      · exact absurd waits List.not_mem_nil
      · exact Task.run_tail waits

/-- A callback is not prompt, so whoever has a turn finds no prompt task. -/
theorem calm_of_free {scene : Scene} {task : Task} (free : scene.free = true)
    (calm : ∀ later ∈ scene.agenda.tail, later.isPrompt = false) (present : task ∈ scene.agenda) :
    task.isPrompt = false := by
  cases agenda : scene.agenda with
  | nil =>
      rw [agenda] at present
      exact absurd present List.not_mem_nil
  | cons head tail =>
      rw [agenda] at present calm
      rcases List.mem_cons.mp present with first | waits
      · subst first
        have running : task.isCallback = true := by
          simpa [Scene.free, agenda] using free
        cases task with
        | callback => rfl
        | deliver => rfl
        | _ => cases running
      · exact calm task waits

end Scene

/-- A prompt task that a moment leads to comes first. -/
theorem Moment.head_of_leads {moment : Moment} {task : Task} (present : task ∈ moment.leads)
    (prompt : task.isPrompt = true) : moment.leads.head? = some task := by
  have single := @Scene.perform_tail moment.scene moment.event
  unfold leads at present ⊢
  cases leads : (moment.scene.perform moment.event).1 with
  | nil =>
      rw [leads] at present
      cases present
  | cons head tail =>
      rw [leads] at present single
      rcases List.mem_cons.mp present with first | waits
      · rw [first]
        rfl
      · cases (single waits).symm.trans prompt

namespace Run

variable {first scene : Scene} {past : List Moment}

/-- What an event leaves of the agenda holds no prompt task. -/
theorem rest_calm {event : Event} {task : Task}
    (calm : ∀ later ∈ scene.agenda.tail, later.isPrompt = false)
    (allowed : scene.allows event = true) (left : task ∈ scene.rest event) :
    task.isPrompt = false := by
  cases event with
  | work => exact calm task left
  | call own call => exact Scene.calm_of_free allowed calm left
  | socket generation notice =>
      simp only [Scene.allows, Bool.and_eq_true] at allowed
      exact Scene.calm_of_free allowed.1 calm left
  | alarm alarm =>
      simp only [Scene.allows, Bool.and_eq_true] at allowed
      exact Scene.calm_of_free allowed.1.1 calm left
  | wait milliseconds => exact Scene.calm_of_free allowed calm left
  | collect => exact Scene.calm_of_free allowed calm left

/-- If only the next task was prompt, it is so after an event as well. -/
theorem calm_after {event : Event} (calm : ∀ later ∈ scene.agenda.tail, later.isPrompt = false)
    (allowed : scene.allows event = true) :
    ∀ later ∈ (scene.after event).agenda.tail, later.isPrompt = false := by
  intro later waits
  change later ∈ ((scene.perform event).1 ++ scene.rest event).tail at waits
  cases leads : (scene.perform event).1 with
  | nil =>
      rw [leads, List.nil_append] at waits
      exact rest_calm calm allowed (List.mem_of_mem_tail waits)
  | cons head tail =>
      rw [leads, List.cons_append, List.tail_cons] at waits
      rcases List.mem_append.mp waits with new | old
      · exact Scene.perform_tail (by rw [leads]; exact new)
      · exact rest_calm calm allowed old

/-- Only the next task may be prompt. -/
theorem tail_calm (run : Run first past scene) (idle : first.agenda = []) :
    ∀ later ∈ scene.agenda.tail, later.isPrompt = false := by
  induction run with
  | start => simp [idle]
  | step _ allowed ih => exact calm_after ih allowed

/-- A prompt task is carried out directly after the moment that led to it. -/
theorem cause (run : Run first past scene) (idle : first.agenda = []) {task : Task} {rest : Agenda}
    (next : scene.agenda = task :: rest) (prompt : task.isPrompt = true) :
    ∃ earlier moment, past = earlier ++ [moment] ∧ Run first earlier moment.scene ∧
      moment.scene.allows moment.event = true ∧ scene = moment.after ∧
      moment.leads.head? = some task := by
  cases run with
  | start =>
      rw [idle] at next
      cases next
  | @step past scene event run allowed =>
      refine ⟨past, ⟨scene, event⟩, rfl, run, allowed, rfl, ?_⟩
      -- the task would otherwise have waited, and a task that waits is not prompt
      change (scene.perform event).1 ++ scene.rest event = task :: rest at next
      show (scene.perform event).1.head? = some task
      cases leads : (scene.perform event).1 with
      | nil =>
          rw [leads, List.nil_append] at next
          have calm := rest_calm (run.tail_calm idle) allowed (next ▸ List.mem_cons_self)
          rw [prompt] at calm
          cases calm
      | cons head tail =>
          rw [leads, List.cons_append] at next
          exact congrArg some (List.cons.inj next).1

/-- By the time someone has a turn again, a prompt task that arose has been carried out, in the
moment after the one that led to it. -/
theorem follows {earlier later : List Moment} {moment : Moment} {task : Task}
    (run : Run first (earlier ++ moment :: later) scene) (leads : moment.leads.head? = some task)
    (prompt : task.isPrompt = true) (free : scene.free = true) :
    ∃ next others, later = next :: others ∧ next.scene = moment.after ∧ next.task? = some task := by
  have waits : moment.after.agenda.head? = some task := by
    show (moment.leads ++ moment.scene.rest moment.event).head? = some task
    rw [List.head?_append, leads]
    rfl
  have busy : moment.after.free = false := by
    rw [Scene.free, waits]
    cases task <;> first | rfl | cases prompt
  cases later with
  | nil =>
      rw [run.last.2.2, busy] at free
      cases free
  | cons next others =>
      have same := run.next_scene
      rw [← List.singleton_append, ← List.append_assoc] at run
      have allowed := run.at_moment.2
      rw [← same] at waits busy
      refine ⟨next, others, rfl, same, ?_⟩
      unfold Moment.task?
      cases event : next.event with
      | work => exact waits
      | _ => simp [event, Scene.allows, busy] at allowed

end Run

end Intercom
