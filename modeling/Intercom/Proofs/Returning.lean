import Intercom.Proofs.Effect
import Intercom.Proofs.Uncorrelated

/-!
# Callbacks that return instead

For each script there is the one that returns where it panics. A channel on which all scripts are
replaced so goes through the same: the same events may happen, the same callbacks start in the same
order, and whatever else the channel holds is the same. Only the count of listeners that have ended
normally differs, and nothing depends on it.

Results:
1. `Call.begin_returning`, `Task.run_returning`: calls and tasks do the same on both channels.
2. `Scene.Agrees.allows`, `Scene.Agrees.after`: where two scenes agree up to panics, the same may
   happen, and they agree again after it.
3. `Scene.Agrees.shown`: whatever happens, they show the same, and in the second of them no callback
   breaks off (`Scene.Agrees.unbroken`).
-/

namespace Intercom

/-! ## Definitions -/

mutual

/-- The call with a script that returns where the script of this one panics. -/
def Call.returning : Call → Call
  | .on event script => .on event script.returning
  | .onConnect script => .onConnect script.returning
  | .onDisconnect script => .onDisconnect script.returning
  | .connect => .connect
  | .disconnect => .disconnect
  | .request event data timeout => .request event data timeout
  | .forget id => .forget id
  | .off event selection => .off event selection
  | .count event => .count event
  | .notify generation notice => .notify generation notice

/-- The actions before the first panic. -/
def Action.returning : List Action → List Action
  | [] => []
  | .panic :: _ => []
  | .call call :: actions => .call call.returning :: Action.returning actions

/-- The script that returns where this one panics, and so do all that it registers. -/
def Script.returning : Script → Script
  | .make label actions limit => .make label (Action.returning actions) limit

end

def Hook.returning (hook : Hook) : Hook :=
  { hook with script := hook.script.returning }

/-- The listener with another handler. -/
def Listener.map {α : Type} (change : α → α) (listener : Listener α) : Listener α :=
  { listener with handler := change listener.handler }

/-- The registry with other handlers. -/
def Listeners.map {α : Type} (change : α → α) (registry : Listeners α) : Listeners α :=
  { registry with
    byEvent := registry.byEvent.map fun entry => (entry.1, entry.2.map (Listener.map change)) }

def Entry.returning : Entry → Entry
  | .did label call reply => .did label call.returning reply
  | entry => entry

def Callbacks.returning (callbacks : Callbacks) : Callbacks :=
  { callbacks with
    listeners := callbacks.listeners.map Hook.returning
    onConnect := callbacks.onConnect.map Hook.returning
    onDisconnect := callbacks.onDisconnect.map Hook.returning
    journal := callbacks.journal.map Entry.returning }

/-- The channel on which each callback returns where it would panic. -/
def Channel.returning (channel : Channel) : Channel :=
  channel.withCallbacks channel.callbacks.returning

def Running.returning (running : Running) : Running :=
  { running with actions := Action.returning running.actions }

def Task.returning : Task → Task
  | .deliver push current listeners completed =>
      .deliver push (current.map Running.returning) (listeners.map (Listener.map Hook.returning))
        completed
  | .callback running => .callback running.returning
  | .report entry => .report entry.returning
  | task => task

def Event.returning : Event → Event
  | .call own made => .call own made.returning
  | event => event

def Invocation.returning : Invocation → Invocation
  | .connect hook => .connect hook.returning
  | .deliver listener push => .deliver (listener.map Hook.returning) push
  | .disconnect hook closing => .disconnect hook.returning closing

/-- `one.Agrees two`: the tasks are the same, but that callbacks return in the second where they
panic in the first. How many listeners have ended normally does not matter. -/
inductive Task.Agrees : Task → Task → Prop where
  | same (task : Task) : Task.Agrees task task.returning
  | counted (push : Push) (current : Option Running) (listeners : List (Listener Hook))
      (before after : Nat) :
      Task.Agrees (.deliver push current listeners before)
        (.deliver push (current.map Running.returning)
          (listeners.map (Listener.map Hook.returning)) after)

/-- Whether the task is a callback that is about to break off. -/
def Task.breaks : Task → Bool
  | .callback ⟨_, _, .panic :: _⟩ => true
  | .deliver _ (some ⟨_, _, .panic :: _⟩) _ _ => true
  | _ => false

namespace Scene

/-- The scene in which each callback returns where it would panic. -/
def returning (scene : Scene) : Scene :=
  ⟨scene.agenda.map Task.returning, scene.channel.returning⟩

/-- Task by task the agendas agree, and the channels do. -/
structure Agrees (one two : Scene) : Prop where
  agenda : List.Forall₂ Task.Agrees one.agenda two.agenda
  channel : two.channel = one.channel.returning

end Scene

/-! ## Scripts -/

theorem Script.label_returning (script : Script) : script.returning.label = script.label := by
  cases script
  rfl

theorem Script.actionsOnRun_returning (script : Script) (run : Nat) :
    script.returning.actionsOnRun run = Action.returning (script.actionsOnRun run) := by
  obtain ⟨label, actions, limit⟩ := script
  simp only [Script.returning, actionsOnRun, Script.limit, Script.actions]
  exact (apply_ite Action.returning _ actions []).symm

/-! ## Registries -/

namespace Table

variable {α : Type} {change : α → α}

theorem find?_mapped (name : String) (table : List (String × α)) :
    find? name (table.map fun entry => (entry.1, change entry.2)) =
      (find? name table).map change := by
  induction table with
  | nil => rfl
  | cons head rest ih =>
      simp only [List.map_cons, find?, ih]
      split <;> rfl

theorem insert_mapped (name : String) (value : α) (table : List (String × α)) :
    insert name (change value) (table.map fun entry => (entry.1, change entry.2)) =
      (insert name value table).map fun entry => (entry.1, change entry.2) := by
  induction table with
  | nil => rfl
  | cons head rest ih =>
      simp only [List.map_cons, insert, ih]
      split
      · rfl
      · split <;> rfl

theorem erase_mapped (name : String) (table : List (String × α)) :
    erase name (table.map fun entry => (entry.1, change entry.2)) =
      (erase name table).map fun entry => (entry.1, change entry.2) := by
  unfold erase
  rw [List.filter_map]
  rfl

end Table

namespace Listeners

variable {α : Type} (change : α → α) (registry : Listeners α)

theorem ofEvent_map (event : String) :
    (registry.map change).ofEvent event = (registry.ofEvent event).map (Listener.map change) := by
  unfold ofEvent map
  rw [Table.find?_mapped]
  cases Table.find? event registry.byEvent <;> rfl

theorem count_map (event : String) : (registry.map change).count event = registry.count event := by
  rw [count, ofEvent_map, List.length_map, count]

theorem store_map (event : String) (list : List (Listener α)) :
    (registry.map change).store event (list.map (Listener.map change)) =
      (registry.store event list).map change := by
  unfold store map
  rw [Table.insert_mapped, Table.erase_mapped, List.isEmpty_map]
  split <;> rfl

theorem add_map (event : String) (handler : α) :
    (registry.map change).add event (change handler) =
      ((registry.add event handler).1, (registry.add event handler).2.map change) := by
  have stored := registry.store_map change event
    (registry.ofEvent event ++ [⟨⟨registry.last.value + 1⟩, handler⟩])
  rw [List.map_append, ← ofEvent_map] at stored
  exact congrArg (fun stored : Listeners α =>
    ((⟨registry.last.value + 1⟩ : SubscriptionId),
      { stored with last := ⟨registry.last.value + 1⟩ })) stored

theorem remove_map (event : String) (which : Option SubscriptionId) :
    (registry.map change).remove event which =
      ((registry.remove event which).1, (registry.remove event which).2.map change) := by
  cases which with
  | none => exact Prod.ext (registry.count_map change event) (registry.store_map change event [])
  | some id =>
      have named : (fun listener : Listener α => decide (listener.id = id)) ∘ Listener.map change =
          fun listener => decide (listener.id = id) :=
        rfl
      rw [remove, remove, removeOne, removeOne, ofEvent_map, List.any_map, List.eraseP_map, named,
        store_map]
      split <;> rfl

end Listeners

/-! ## Operations -/

@[simp] theorem Channel.link_returning (channel : Channel) :
    channel.returning.link = channel.link :=
  rfl

/-- An operation that is not about callbacks does the same whether they return or panic. -/
theorem Effect.apply_returning {effect : Effect} (apart : effect.callbacks? = none)
    (channel : Channel) : effect.apply channel.returning = (effect.apply channel).returning := by
  have same := effect.callbacks_apply channel
  rw [apart, Option.getD_none] at same
  rw [Channel.returning, Channel.returning, apply_withCallbacks apart, same]

namespace Call

/-- A call has the same answer and leads to the same. -/
theorem begin_returning (own : Option SubscriptionId) (call : Call) (channel : Channel) :
    call.returning.begin own channel.returning =
      ((call.begin own channel).1, (call.begin own channel).2.1.map Task.returning,
        (call.begin own channel).2.2.returning) := by
  -- calls that are not about callbacks have an effect that takes no notice of these
  have apart (same : call.returning = call)
      (about : (call.effect own channel).callbacks? = none)
      (effect : call.effect own channel.returning = call.effect own channel) :
      (call.returning.begin own channel.returning).2.2 =
        (call.begin own channel).2.2.returning := by
    rw [same, begin_effect, begin_effect, effect]
    exact Effect.apply_returning about channel
  cases call with
  | connect => exact Prod.ext rfl (Prod.ext rfl (apart rfl rfl rfl))
  | disconnect =>
      refine Prod.ext rfl (Prod.ext ?_ (apart rfl rfl rfl))
      cases socket : channel.link.socket <;>
        simp [returning, begin, Channel.releaseSocket, socket, Task.returning]
  | request event data timeout => exact Prod.ext rfl (Prod.ext rfl (apart rfl rfl rfl))
  | forget id => exact Prod.ext rfl (Prod.ext rfl (apart rfl rfl rfl))
  | notify generation notice => exact Prod.ext rfl (Prod.ext rfl (apart rfl rfl rfl))
  | count event =>
      exact Prod.ext (congrArg Reply.number (channel.listeners.count_map Hook.returning event)) rfl
  | on event script =>
      have added := channel.listeners.add_map Hook.returning event ⟨channel.runs.length, script⟩
      exact congrArg (fun added : SubscriptionId × Listeners Hook =>
        (Reply.subscription added.1, ([] : Agenda),
          { channel.returning with runs := channel.runs ++ [0], listeners := added.2 })) added
  | off event selection =>
      have removed (which : Option SubscriptionId) :=
        congrArg (fun removed : Nat × Listeners Hook =>
          (Reply.number removed.1, ([] : Agenda),
            { channel.returning with listeners := removed.2 }))
          (channel.listeners.remove_map Hook.returning event which)
      cases selection with
      | all => exact removed none
      | one id => exact removed (some id)
      | own => exact removed own
  | onConnect script => rfl
  | onDisconnect script => rfl

end Call

/-! ## Tasks -/

namespace Channel

theorem record_returning (channel : Channel) (entry : Entry) :
    channel.returning.record entry.returning = (channel.record entry).returning := by
  have lines : (channel.journal ++ [entry]).map Entry.returning =
      channel.journal.map Entry.returning ++ [entry.returning] :=
    List.map_append
  unfold record returning withCallbacks Callbacks.returning callbacks
  rw [lines]

theorem countRun_returning (channel : Channel) (hook : Hook) :
    channel.returning.countRun hook.returning =
      (Action.returning (channel.countRun hook).1, (channel.countRun hook).2.returning) :=
  Prod.ext (hook.script.actionsOnRun_returning _) rfl

end Channel

/-- A hook starts to run with the actions before its first panic, and leaves the same line. -/
theorem Running.start_returning (hook : Hook) (own : Option SubscriptionId) (line : String → Entry)
    (plain : ∀ label, (line label).returning = line label) (channel : Channel) :
    Running.start hook.returning own (line hook.returning.script.label) channel.returning =
      ((Running.start hook own (line hook.script.label) channel).1.returning,
        (Running.start hook own (line hook.script.label) channel).2.returning) := by
  have label : hook.returning.script.label = hook.script.label := hook.script.label_returning
  rw [label]
  unfold Running.start
  rw [← plain, Channel.record_returning, Channel.countRun_returning, plain]
  exact Prod.ext (congrArg (Running.mk · own _) label) rfl

namespace Task

theorem perform_returning (running : Running) (call : Call) (channel : Channel) :
    perform running.returning call.returning channel.returning =
      ((perform running call channel).1.map returning,
        (perform running call channel).2.returning) := by
  have begins := call.begin_returning running.own channel
  have own : running.returning.own = running.own := rfl
  unfold perform
  rw [own, begins, List.map_append]
  rfl

/-- Tasks whose callbacks return where they panic agree. -/
theorem agrees_map {tasks others : Agenda} (same : others = tasks.map returning) :
    List.Forall₂ Task.Agrees tasks others := by
  subst same
  exact List.forall₂_map_right_iff.mpr (List.forall₂_same.mpr fun task _ => .same task)

/-- A call that a callback makes leads to the same, before the callback goes on. -/
theorem perform_agrees (running : Running) (call : Call) {next other : Task}
    (agrees : next.Agrees other) (channel : Channel) :
    List.Forall₂ Task.Agrees ((perform running call channel).1 ++ [next])
        ((perform running.returning call.returning channel.returning).1 ++ [other]) ∧
      (perform running.returning call.returning channel.returning).2 =
        (perform running call channel).2.returning := by
  rw [perform_returning]
  exact ⟨List.rel_append (agrees_map rfl) (.cons agrees .nil), rfl⟩

/-- Listeners of a push run the same, however many have ended normally. -/
theorem deliver_returning (push : Push) (current : Option Running)
    (listeners : List (Listener Hook)) (before after : Nat) (channel : Channel) :
    List.Forall₂ Task.Agrees ((deliver push current listeners before).run channel).1
        ((deliver push (current.map Running.returning)
          (listeners.map (Listener.map Hook.returning)) after).run channel.returning).1 ∧
      ((deliver push (current.map Running.returning)
          (listeners.map (Listener.map Hook.returning)) after).run channel.returning).2 =
        ((deliver push current listeners before).run channel).2.returning := by
  cases current with
  | none =>
      cases listeners with
      | nil => exact ⟨.nil, rfl⟩
      | cons listener rest =>
          have starts := Running.start_returning listener.handler (some listener.id)
            (.push · push.event push.dataOrNull push.source) (fun _ => rfl) channel
          have same : (deliver push none (Listener.map Hook.returning listener ::
              rest.map (Listener.map Hook.returning)) after).run channel.returning = _ :=
            congrArg (fun started : Running × Channel =>
              ([deliver push (some started.1) (rest.map (Listener.map Hook.returning)) after],
                started.2)) starts
          rw [List.map_cons, Option.map_none, same]
          exact ⟨.cons (.counted push _ rest _ _) .nil, rfl⟩
  | some running =>
      obtain ⟨label, own, actions⟩ := running
      cases actions with
      | nil => exact ⟨.cons (.counted push none listeners _ _) .nil, rfl⟩
      | cons action actions =>
          cases action with
          | panic => exact ⟨.cons (.counted push none listeners _ _) .nil, rfl⟩
          | call call =>
              exact perform_agrees ⟨label, own, .call call :: actions⟩ call
                (.counted push (some ⟨label, own, actions⟩) listeners before after) channel

/-- A task that is not about callbacks has the same effect. -/
theorem after_returning {task : Task} {channel : Channel}
    (about : (task.effect channel).callbacks? = none)
    (effect : task.effect channel.returning = task.effect channel) :
    (task.run channel.returning).2 = (task.run channel).2.returning := by
  rw [run_effect, run_effect, effect]
  exact Effect.apply_returning about channel

/-- The end of a socket leads to the same. -/
theorem closed_returning (generation : Nat) (closing : Closing) (channel : Channel) :
    (receive generation (.closed closing)).run channel.returning =
      (((receive generation (.closed closing)).run channel).1.map returning,
        ((receive generation (.closed closing)).run channel).2.returning) := by
  refine Prod.ext ?_ (after_returning (callbacks?_effect rfl channel) rfl)
  have closes : channel.returning.closeLink? = channel.closeLink?.map fun after =>
      after.withCallbacks channel.callbacks.returning :=
    channel.closeLink?_withCallbacks channel.callbacks.returning
  by_cases current : channel.link.generation = generation
  · cases closed : channel.closeLink? <;> simp [returning, run, current, closes, closed]
  · simp [returning, run, current]

/-- A frame is read the same. -/
theorem message_returning (generation : Nat) (text : String) (channel : Channel) :
    (receive generation (.message text)).run channel.returning =
      (((receive generation (.message text)).run channel).1.map returning,
        ((receive generation (.message text)).run channel).2.returning) := by
  by_cases current : channel.link.generation = generation
  · rcases decoded : Message.decode text.toList with fault | ⟨⟩ | message
    all_goals simp [run, current, decoded, returning]
  · simp [run, current]

/-- A greeting is taken note of in the same way. -/
theorem dispatch_returning (generation : Nat) (push : Push) (channel : Channel) :
    (dispatch generation push).run channel.returning =
      (((dispatch generation push).run channel).1.map returning,
        ((dispatch generation push).run channel).2.returning) := by
  simp only [run]
  rw [Channel.link_returning]
  generalize (push.isHello && decide (channel.link.generation = generation)) = greeting
  cases greeting with
  | false => rfl
  | true =>
      refine Prod.ext ?_ rfl
      show (if (channel.greet push).1 then [announceReady generation, broadcast push]
          else [broadcast push]) =
        (if (channel.greet push).1 then [announceReady generation, broadcast push]
          else [broadcast push]).map returning
      cases (channel.greet push).1 <;> rfl

/-- Task by task the same is led to, and the channel after it is the same. -/
theorem run_returning (task : Task) (channel : Channel) :
    List.Forall₂ Task.Agrees (task.run channel).1 (task.returning.run channel.returning).1 ∧
      (task.returning.run channel.returning).2 = (task.run channel).2.returning := by
  have equal (same : task.returning.run channel.returning =
      ((task.run channel).1.map returning, (task.run channel).2.returning)) :
      List.Forall₂ Task.Agrees (task.run channel).1 (task.returning.run channel.returning).1 ∧
        (task.returning.run channel.returning).2 = (task.run channel).2.returning := by
    rw [same]
    exact ⟨agrees_map rfl, rfl⟩
  cases task with
  | connect => exact ⟨agrees_map rfl, after_returning rfl rfl⟩
  | shutDown => exact ⟨agrees_map rfl, after_returning rfl rfl⟩
  | sweep => exact ⟨agrees_map rfl, after_returning rfl rfl⟩
  | expire => exact ⟨agrees_map rfl, after_returning rfl rfl⟩
  | reconnect =>
      refine ⟨agrees_map ?_, after_returning rfl rfl⟩
      show (if channel.checkReconnect.1 then [connect] else []) =
        (if channel.checkReconnect.1 then [connect] else []).map returning
      cases channel.checkReconnect.1 <;> rfl
  | send socket request =>
      cases socket with
      | none => exact equal rfl
      | some generation =>
          have isOpen : channel.returning.isOpen generation = channel.isOpen generation := rfl
          refine equal ?_
          simp only [returning, run, isOpen]
          split <;> rfl
  | receive generation notice =>
      cases notice with
      | opened => exact equal rfl
      | sendFailed => exact ⟨agrees_map rfl, after_returning rfl rfl⟩
      | message text => exact equal (message_returning generation text channel)
      | closed closing => exact equal (closed_returning generation closing channel)
  | route generation message =>
      cases message with
      | push => exact equal rfl
      | response answer =>
          have waits : channel.returning.isPending answer.id = channel.isPending answer.id := rfl
          refine ⟨agrees_map ?_, after_returning rfl rfl⟩
          simp only [returning, run, waits]
          split
          · rfl
          · split <;> rfl
  | dispatch generation push => exact equal (dispatch_returning generation push channel)
  | announceReady generation =>
      have hook : channel.returning.onConnect = channel.onConnect.map Hook.returning := rfl
      refine equal ?_
      simp only [returning, run, hook]
      cases channel.onConnect with
      | none => rfl
      | some hook =>
          have starts := Running.start_returning hook none (.connect · channel.connected)
            (fun _ => rfl) channel
          exact congrArg (fun started : Running × Channel => ([callback started.1], started.2))
            starts
  | broadcast push =>
      have found := channel.listeners.ofEvent_map Hook.returning push.event
      exact equal (Prod.ext (congrArg (fun listeners => [deliver push none listeners 0]) found) rfl)
  | deliver push current listeners completed =>
      exact deliver_returning push current listeners completed completed channel
  | announceClose closing =>
      have hook : channel.returning.onDisconnect = channel.onDisconnect.map Hook.returning := rfl
      refine equal ?_
      simp only [returning, run, hook]
      cases channel.onDisconnect with
      | none => rfl
      | some hook =>
          have starts := Running.start_returning hook none (.disconnect · closing)
            (fun _ => rfl) channel
          exact congrArg (fun started : Running × Channel => ([callback started.1], started.2))
            starts
  | callback running =>
      obtain ⟨label, own, actions⟩ := running
      cases actions with
      | nil => exact equal rfl
      | cons action actions =>
          cases action with
          | panic => exact equal rfl
          | call call =>
              exact perform_agrees ⟨label, own, .call call :: actions⟩ call
                (.same (callback ⟨label, own, actions⟩)) channel
  | report entry => exact equal (Prod.ext rfl (channel.record_returning entry))

theorem Agrees.run {one two : Task} (agrees : one.Agrees two) (channel : Channel) :
    List.Forall₂ Task.Agrees (one.run channel).1 (two.run channel.returning).1 ∧
      (two.run channel.returning).2 = (one.run channel).2.returning := by
  cases agrees with
  | same => exact one.run_returning channel
  | counted push current listeners before after =>
      exact deliver_returning push current listeners before after channel

theorem Agrees.isCallback {one two : Task} (agrees : one.Agrees two) :
    two.isCallback = one.isCallback := by
  cases agrees with
  | same =>
      cases one with
      | deliver push current => cases current <;> rfl
      | _ => rfl
  | counted push current => cases current <;> rfl

theorem breaks_callback (running : Running) : (callback running.returning).breaks = false := by
  obtain ⟨label, own, actions⟩ := running
  cases actions with
  | nil => rfl
  | cons action => cases action <;> rfl

theorem breaks_deliver (push : Push) (current : Option Running) (listeners : List (Listener Hook))
    (completed : Nat) :
    (deliver push (current.map Running.returning) listeners completed).breaks = false := by
  cases current with
  | none => rfl
  | some running =>
      obtain ⟨label, own, actions⟩ := running
      cases actions with
      | nil => rfl
      | cons action => cases action <;> rfl

/-- The second of two tasks that agree does not break off. -/
theorem Agrees.breaks {one two : Task} (agrees : one.Agrees two) : two.breaks = false := by
  cases agrees with
  | same =>
      cases one with
      | deliver push current listeners completed => exact breaks_deliver push current _ completed
      | callback running => exact breaks_callback running
      | _ => rfl
  | counted push current listeners before after => exact breaks_deliver push current _ after

end Task

/-! ## Scenes -/

namespace Channel

theorem reflect_returning (channel : Channel) (generation : Nat) (notice : Notice) :
    channel.returning.reflect generation notice =
      (channel.reflect generation notice).returning := by
  cases notice <;> rfl

end Channel

namespace Scene

theorem agrees_returning (scene : Scene) : scene.Agrees scene.returning :=
  ⟨Task.agrees_map rfl, rfl⟩

namespace Agrees

variable {one two : Scene}

theorem free (agrees : one.Agrees two) : two.free = one.free := by
  obtain ⟨agenda, channel⟩ := one
  obtain ⟨others, other⟩ := two
  obtain ⟨tasks, same⟩ := agrees
  cases tasks with
  | nil => rfl
  | cons head => exact head.isCallback

/-- The same events may happen. -/
theorem allows (agrees : one.Agrees two) (event : Event) :
    two.allows event.returning = one.allows event := by
  have free := agrees.free
  obtain ⟨agenda, channel⟩ := one
  obtain ⟨others, other⟩ := two
  obtain ⟨tasks, same⟩ := agrees
  dsimp only at tasks same
  subst same
  cases event with
  | call => exact free
  | socket generation notice => exact congrArg (· && (channel.handle? generation).isSome) free
  | alarm alarm =>
      exact congrArg (· && decide (alarm ∈ channel.alarms) && decide (alarm.due ≤ channel.now)) free
  | wait => exact free
  | collect => exact free
  | work => cases tasks <;> rfl

/-- After an event the scenes agree again. -/
theorem after (agrees : one.Agrees two) (event : Event) :
    (one.after event).Agrees (two.after event.returning) := by
  obtain ⟨agenda, channel⟩ := one
  obtain ⟨others, other⟩ := two
  obtain ⟨tasks, same⟩ := agrees
  dsimp only at tasks same
  subst same
  cases event with
  | call own call =>
      have begins := call.begin_returning own channel
      exact ⟨List.rel_append (Task.agrees_map (congrArg (fun begun => begun.2.1) begins)) tasks,
        congrArg (fun begun => begun.2.2) begins⟩
  | socket generation notice =>
      have runs :=
        (Task.receive generation notice).run_returning (channel.reflect generation notice)
      rw [← Channel.reflect_returning] at runs
      exact ⟨List.rel_append runs.1 tasks, runs.2⟩
  | alarm alarm =>
      have leads : alarm.purpose.task.Agrees alarm.purpose.task := by
        cases alarm.purpose <;> exact .same _
      exact ⟨.cons leads tasks, rfl⟩
  | wait => exact ⟨tasks, rfl⟩
  | collect => exact ⟨tasks, rfl⟩
  | work =>
      cases tasks with
      | nil => exact ⟨.nil, rfl⟩
      | cons head tail => exact ⟨List.rel_append (head.run channel).1 tail, (head.run channel).2⟩

/-- The same callback starts. -/
theorem invocation? (agrees : one.Agrees two) (event : Event) :
    (Moment.mk two event.returning).invocation? =
      (Moment.mk one event).invocation?.map Invocation.returning := by
  obtain ⟨agenda, channel⟩ := one
  obtain ⟨others, other⟩ := two
  obtain ⟨tasks, same⟩ := agrees
  dsimp only at tasks same
  subst same
  cases event with
  | work =>
      cases tasks with
      | nil => rfl
      | @cons one two _ _ head tail =>
          cases head with
          | counted push current listeners before after =>
              cases current <;> cases listeners <;> rfl
          | same =>
              cases one with
              | deliver push current listeners completed =>
                  cases current <;> cases listeners <;> rfl
              | announceReady generation =>
                  show (channel.onConnect.map Hook.returning).map Invocation.connect =
                    (channel.onConnect.map Invocation.connect).map Invocation.returning
                  cases channel.onConnect <;> rfl
              | announceClose closing =>
                  show (channel.onDisconnect.map Hook.returning).map
                      (Invocation.disconnect · closing) =
                    (channel.onDisconnect.map (Invocation.disconnect · closing)).map
                      Invocation.returning
                  cases channel.onDisconnect <;> rfl
              | _ => rfl
  | _ => rfl

theorem not_panicked (agrees : one.Agrees two) (event : Event) (slot : Slot) (below : Agenda) :
    ¬ slot.Ends below ⟨two, event⟩ .panicked := by
  intro ends
  cases ends with
  | @panicked label own actions does =>
      have agenda : two.agenda = slot.task ⟨label, own, .panic :: actions⟩ :: below := does.agenda
      have tasks := agrees.agenda
      rw [agenda] at tasks
      obtain ⟨_, _, head, _⟩ := List.forall₂_cons_right_iff.mp tasks
      have breaks : (slot.task ⟨label, own, .panic :: actions⟩).breaks = true := by
        cases slot <;> rfl
      cases breaks.symm.trans head.breaks

/-- Whatever happens in the second scene, no callback breaks off. -/
theorem unbroken {past all : List Moment} {last : Scene} {events : List Event}
    (agrees : one.Agrees two)
    (before : ∀ moment ∈ past, ∀ slot below, ¬ Slot.Ends slot below moment .panicked)
    (played : two.play past (events.map Event.returning) = some (all, last)) :
    ∀ moment ∈ all, ∀ slot below, ¬ Slot.Ends slot below moment .panicked := by
  induction events generalizing one two past with
  | nil =>
      cases played
      exact before
  | cons event events ih =>
      rw [List.map_cons, play] at played
      split at played
      · refine ih (agrees.after event) (fun moment present => ?_) played
        rcases List.mem_append.mp present with old | new
        · exact before moment old
        · rw [List.mem_singleton.mp new]
          exact agrees.not_panicked event.returning
      · cases played

/-- Whatever happens, the scenes show the same. -/
theorem shown (agrees : one.Agrees two) (events : List Event) :
    two.shown (events.map Event.returning) =
      (one.shown events).map fun (invocations, channel) =>
        (invocations.map Invocation.returning, channel.returning) := by
  induction events generalizing one two with
  | nil => simp [Scene.shown, play, agrees.channel]
  | cons event events ih =>
      rw [List.map_cons, shown_cons, shown_cons, agrees.allows, agrees.invocation?,
        ih (agrees.after event)]
      split
      · simp only [Option.map_map]
        refine congrArg (Option.map · _) (funext fun shown => ?_)
        cases (Moment.mk one event).invocation? <;> rfl
      · rfl

end Agrees

end Scene

end Intercom
