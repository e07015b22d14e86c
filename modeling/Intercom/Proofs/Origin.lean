import Intercom.Proofs.Run

/-!
# Where prompt tasks come from

A prompt task is carried out directly after the moment that led to it. `Origin` says which moments
lead to which prompt task, and under which condition, so that from a task at hand one can go back to
the call, the notice or the alarm that it answers.

Results: `Moment.origin` for one moment, `Run.origin` for the task at hand in a run, and for
greetings the way back to the frame (`Run.delivery_of_dispatch`).
-/

namespace Intercom

/-! ## Tasks that make a call -/

namespace Task

/-- A task that makes a call does what the call does, and reports it after that. -/
theorem run_of_call {task : Task} {call : Call} (calls : task.call? = some call)
    (channel : Channel) :
    ∃ own entry later,
      task.run channel =
        ((call.begin own channel).2.1 ++ .report entry :: later, (call.begin own channel).2.2) := by
  unfold call? at calls
  split at calls
  · next label own call' actions =>
      cases calls
      refine ⟨own, .did label call (call.begin own channel).1,
        [.callback ⟨label, own, actions⟩], ?_⟩
      simp [run, perform]
  · next push label own call' actions listeners completed =>
      cases calls
      refine ⟨own, .did label call (call.begin own channel).1,
        [.deliver push (some ⟨label, own, actions⟩) listeners completed], ?_⟩
      simp [run, perform]
  · cases calls

end Task

namespace Call

/-- The task that a call leads to. -/
theorem begin_head {own : Option SubscriptionId} {call : Call} {channel : Channel} {task : Task}
    (leads : (call.begin own channel).2.1.head? = some task) :
    (call = .disconnect ∧ ∃ generation, channel.link.socket = some generation ∧
        task = .shutDown generation) ∨
      (∃ event data timeout, call = .request event data timeout ∧
        task = .send channel.link.socket (.make channel.ids.peek event data)) ∨
      (∃ generation notice, call = .notify generation notice ∧
        task = .receive generation notice) := by
  cases call with
  | disconnect =>
      simp only [begin, Channel.releaseSocket] at leads
      cases socket : channel.link.socket with
      | none => simp [socket] at leads
      | some generation =>
          simp only [socket, Option.toList_some, List.map_cons, List.map_nil, List.head?_cons,
            Option.some.injEq] at leads
          exact Or.inl ⟨rfl, generation, rfl, leads.symm⟩
  | request event data timeout =>
      have same : Task.send channel.link.socket (.make channel.ids.peek event data) = task :=
        Option.some.inj leads
      exact Or.inr (Or.inl ⟨event, data, timeout, rfl, same.symm⟩)
  | notify generation notice =>
      have same : Task.receive generation notice = task := Option.some.inj leads
      exact Or.inr (Or.inr ⟨generation, notice, rfl, same.symm⟩)
  | connect => cases leads
  | forget => cases leads
  | on => cases leads
  | off => cases leads
  | count => cases leads
  | onConnect => cases leads
  | onDisconnect => cases leads

end Call

/-! ## Origins -/

/-- `Origin moment task`: the moment leads to the prompt task. -/
inductive Origin (moment : Moment) : Task → Prop where
  | connect : moment.task? = some .reconnect → Origin moment .connect
  | shutDown {generation : Nat} : moment.call? = some .disconnect →
      moment.scene.channel.link.socket = some generation → Origin moment (.shutDown generation)
  | send {event : String} {data : Option Json} {timeout : Option Duration} :
      moment.call? = some (.request event data timeout) →
      Origin moment (.send moment.scene.channel.link.socket
        (.make moment.scene.channel.ids.peek event data))
  | receive {generation : Nat} {notice : Notice} :
      moment.call? = some (.notify generation notice) → Origin moment (.receive generation notice)
  | route {generation : Nat} {text : String} {message : Message} :
      moment.notice? = some (generation, .message text) →
      moment.scene.channel.link.generation = generation →
      Message.decode text.toList = .ok (some message) →
      moment.after.channel = moment.scene.channel →
      Origin moment (.route generation message)
  | answered {generation : Nat} {answer : Response} {push : Push} :
      moment.task? = some (.route generation (.response answer)) →
      moment.scene.channel.isPending answer.id = false → answer.toPush? = some push →
      moment.after.channel = moment.scene.channel → Origin moment (.dispatch generation push)
  | pushed {generation : Nat} {push : Push} :
      moment.task? = some (.route generation (.push push)) →
      moment.after.channel = moment.scene.channel → Origin moment (.dispatch generation push)
  | announceReady {generation : Nat} {push : Push} :
      moment.task? = some (.dispatch generation push) → push.isHello = true →
      moment.scene.channel.link.generation = generation →
      moment.scene.channel.link.ready = false → Origin moment (.announceReady generation)
  | sweep {generation : Nat} {closing : Closing} :
      moment.notice? = some (generation, .closed closing) → Origin moment (.sweep generation)
  | expire {alarm : Alarm} {id : RequestId} {timeout : Duration} :
      moment.event = .alarm alarm → alarm.purpose = .expire id timeout →
      Origin moment (.expire id timeout)
  | reconnect {alarm : Alarm} : moment.event = .alarm alarm → alarm.purpose = .reconnect →
      Origin moment .reconnect

namespace Origin

theorem of_call {own : Option SubscriptionId} {call : Call} {moment : Moment} {task : Task}
    (calls : moment.call? = some call)
    (leads : (call.begin own moment.scene.channel).2.1.head? = some task) : Origin moment task := by
  rcases Call.begin_head leads with ⟨rfl, generation, socket, rfl⟩ |
    ⟨event, data, timeout, rfl, rfl⟩ | ⟨generation, notice, rfl, rfl⟩
  · exact .shutDown calls socket
  · exact .send calls
  · exact .receive calls

/-- What taking in a notice leads to. The notice comes from a socket or from a call. -/
theorem of_notice {generation : Nat} {notice : Notice} {moment : Moment} {channel : Channel}
    {task : Task} (taken : moment.notice? = some (generation, notice))
    (reflected : channel = moment.scene.channel.reflect generation notice ∨
      channel = moment.scene.channel)
    (after : moment.after.channel = ((Task.receive generation notice).run channel).2)
    (leads : ((Task.receive generation notice).run channel).1.head? = some task) :
    Origin moment task := by
  cases notice with
  | opened => cases leads
  | message text =>
      have same : channel = moment.scene.channel := by
        rcases reflected with same | same <;> exact same
      subst same
      simp only [Task.run] at leads after
      split at leads
      · next current =>
          simp only [current, if_true] at after
          split at leads
          · next message decoded =>
              simp only [decoded] at after
              cases leads
              exact .route taken current decoded after
          · cases leads
          · cases leads
      · cases leads
  | sendFailed => cases leads
  | closed closing =>
      simp only [Task.run] at leads
      split at leads
      · split at leads
        · cases leads
          exact .sweep taken
        · cases leads
      · cases leads
        exact .sweep taken

/-- What a task leads to, unless it makes a call. -/
theorem of_task {moment : Moment} {task next : Task} (work : moment.event = .work)
    (first : moment.scene.agenda.head? = some task) (silent : task.call? = none)
    (leads : (task.run moment.scene.channel).1.head? = some next) (prompt : next.isPrompt = true) :
    Origin moment next := by
  have carried : moment.task? = some task := by simp only [Moment.task?, work, first]
  have after : moment.after.channel = (task.run moment.scene.channel).2 := by
    obtain ⟨scene, event⟩ := moment
    obtain ⟨agenda, channel⟩ := scene
    cases agenda with
    | nil => cases first
    | cons head tail =>
        cases first
        cases work
        rfl
  cases task with
  | connect => cases leads
  | shutDown => cases leads
  | send socket request =>
      simp only [Task.run] at leads
      split at leads
      · split at leads <;> cases leads
      · cases leads
  | receive generation notice =>
      have taken : moment.notice? = some (generation, notice) := by
        simp only [Moment.notice?, work, first]
      exact of_notice taken (Or.inr rfl) after leads
  | route generation message =>
      cases message with
      | response answer =>
          simp only [Task.run] at leads after
          split at leads
          · cases leads
          · next waiting =>
              have absent : moment.scene.channel.isPending answer.id = false := by
                simpa using waiting
              simp only [absent, Bool.false_eq_true, if_false] at after
              split at leads
              · next push named =>
                  simp only [named] at after
                  cases leads
                  exact .answered carried absent named after
              · cases leads
      | push message =>
          cases leads
          exact .pushed carried after
  | dispatch generation push =>
      simp only [Task.run] at leads
      split at leads
      · next accepted =>
          simp only [Bool.and_eq_true, decide_eq_true_eq] at accepted
          cases ready : moment.scene.channel.link.ready with
          | false =>
              simp only [Channel.greet, ready, Bool.not_false, if_true, List.head?_cons,
                Option.some.injEq] at leads
              subst leads
              exact .announceReady carried accepted.1 accepted.2 ready
          | true =>
              simp only [Channel.greet, ready, Bool.not_true, Bool.false_eq_true, if_false,
                List.head?_cons, Option.some.injEq] at leads
              subst leads
              cases prompt
      · cases leads
        cases prompt
  | announceReady =>
      simp only [Task.run] at leads
      split at leads <;> cases leads
      cases prompt
  | broadcast =>
      cases leads
      cases prompt
  | deliver push current listeners completed =>
      cases current with
      | none =>
          cases listeners with
          | nil => cases leads
          | cons =>
              cases leads
              cases prompt
      | some running =>
          obtain ⟨label, own, actions⟩ := running
          cases actions with
          | nil =>
              cases leads
              cases prompt
          | cons action =>
              cases action with
              | call => cases silent
              | panic =>
                  cases leads
                  cases prompt
  | sweep => cases leads
  | announceClose =>
      simp only [Task.run] at leads
      split at leads <;> cases leads
      cases prompt
  | callback running =>
      obtain ⟨label, own, actions⟩ := running
      cases actions with
      | nil => cases leads
      | cons action =>
          cases action with
          | call => cases silent
          | panic => cases leads
  | report => cases leads
  | expire => cases leads
  | reconnect =>
      simp only [Task.run, Channel.checkReconnect] at leads
      cases wanted :
          !moment.scene.channel.link.manual && moment.scene.channel.link.socket.isNone with
      | false => simp [wanted] at leads
      | true =>
          simp only [wanted, if_true, List.head?_cons, Option.some.injEq] at leads
          subst leads
          exact .connect carried

end Origin

/-- Every prompt task that a moment leads to has one of the origins. -/
theorem Moment.origin {moment : Moment} {task : Task} (leads : moment.leads.head? = some task)
    (prompt : task.isPrompt = true) : Origin moment task := by
  obtain ⟨scene, event⟩ := moment
  cases event with
  | call own call => exact .of_call rfl leads
  | socket generation notice => exact .of_notice rfl (Or.inl rfl) rfl leads
  | alarm alarm =>
      have same : alarm.purpose.task = task := Option.some.inj leads
      subst same
      cases purpose : alarm.purpose with
      | expire id timeout => exact .expire rfl purpose
      | reconnect => exact .reconnect rfl purpose
  | wait => cases leads
  | collect => cases leads
  | work =>
      obtain ⟨agenda, channel⟩ := scene
      cases agenda with
      | nil => cases leads
      | cons head tail =>
          change (head.run channel).1.head? = some task at leads
          cases silent : head.call? with
          | none => exact .of_task rfl rfl silent leads prompt
          | some call =>
              -- if the call leads to nothing, its report comes first, which is not prompt
              obtain ⟨own, entry, later, same⟩ := Task.run_of_call silent channel
              rw [same] at leads
              cases begun : (call.begin own channel).2.1 with
              | nil =>
                  simp only [begun, List.nil_append, List.head?_cons, Option.some.injEq] at leads
                  subst leads
                  cases prompt
              | cons next rest =>
                  simp only [begun, List.cons_append, List.head?_cons] at leads
                  have first : (call.begin own channel).2.1.head? = some task := by
                    rw [begun]
                    exact leads
                  exact .of_call silent first

namespace Run

variable {first scene : Scene} {past : List Moment} {rest : Agenda}

/-- The prompt task at hand has its origin in the last moment. -/
theorem origin (run : Run first past scene) (idle : first.agenda = []) {task : Task}
    (next : scene.agenda = task :: rest) (prompt : task.isPrompt = true) :
    ∃ earlier moment, past = earlier ++ [moment] ∧ Run first earlier moment.scene ∧
      scene = moment.after ∧ Origin moment task := by
  obtain ⟨earlier, moment, same, before, _, after, leads⟩ := run.cause idle next prompt
  exact ⟨earlier, moment, same, before, after, Moment.origin leads prompt⟩

/-- A message that is routed was read from a frame of the current socket just before. -/
theorem delivery_of_route (run : Run first past scene) (idle : first.agenda = [])
    {generation : Nat} {message : Message}
    (next : scene.agenda = .route generation message :: rest) :
    ∃ earlier delivery text, past = earlier ++ [delivery] ∧ Run first earlier delivery.scene ∧
      delivery.notice? = some (generation, .message text) ∧
      delivery.scene.channel.link.generation = generation ∧
      Message.decode text.toList = .ok (some message) ∧
      scene.channel = delivery.scene.channel := by
  obtain ⟨earlier, delivery, same, before, after, cause⟩ := run.origin idle next rfl
  cases cause with
  | route taken current decoded kept =>
      exact ⟨earlier, delivery, _, same, before, taken, current, decoded, after ▸ kept⟩

end Run

/-! ## From a push back to its frame -/

namespace Channel

/-- The push that a text is for the channel: a response counts if no request waits for it. -/
def pushIn? (channel : Channel) (text : String) : Option Push :=
  match Message.decode text.toList with
  | .ok (some (.push push)) => some push
  | .ok (some (.response answer)) =>
      if channel.isPending answer.id then none else answer.toPush?
  | _ => none

/-- A text that is a push for the channel is read and routed to the listeners. -/
theorem run_route_of_pushIn? {channel : Channel} {text : String} {push : Push}
    (meant : channel.pushIn? text = some push) (generation : Nat) :
    ∃ message, Message.decode text.toList = .ok (some message) ∧
      (Task.route generation message).run channel = ([.dispatch generation push], channel) := by
  unfold pushIn? at meant
  cases decoded : Message.decode text.toList with
  | error => simp [decoded] at meant
  | ok read =>
      cases read with
      | none => simp [decoded] at meant
      | some message =>
          simp only [decoded] at meant
          refine ⟨message, rfl, ?_⟩
          cases message with
          | push other =>
              cases meant
              rfl
          | response answer =>
              dsimp only at meant
              split at meant
              · cases meant
              · next absent => simp [Task.run, absent, meant]

end Channel

namespace Run

variable {first scene : Scene} {past : List Moment} {rest : Agenda}

/-- A push that is acted on came in a frame of the current socket, which was delivered and routed in
the two moments before. -/
theorem delivery_of_dispatch (run : Run first past scene) (idle : first.agenda = [])
    {generation : Nat} {push : Push} (next : scene.agenda = .dispatch generation push :: rest) :
    ∃ earlier delivery routing text, past = earlier ++ [delivery, routing] ∧
      Run first earlier delivery.scene ∧
      delivery.notice? = some (generation, .message text) ∧
      delivery.scene.channel.link.generation = generation ∧
      delivery.scene.channel.pushIn? text = some push ∧
      (∃ message, routing.task? = some (.route generation message)) ∧
      scene.channel = delivery.scene.channel := by
  obtain ⟨earlier, routing, same, before, after, cause⟩ := run.origin idle next rfl
  have found : ∃ message, routing.task? = some (.route generation message) ∧
      routing.after.channel = routing.scene.channel ∧
      (message = .push push ∨ ∃ answer, message = .response answer ∧
        routing.scene.channel.isPending answer.id = false ∧ answer.toPush? = some push) := by
    cases cause with
    | answered carried absent named kept =>
        exact ⟨_, carried, kept, Or.inr ⟨_, rfl, absent, named⟩⟩
    | pushed carried kept => exact ⟨_, carried, kept, Or.inl rfl⟩
  obtain ⟨message, carried, kept, kind⟩ := found
  obtain ⟨_, _, agenda, at_hand⟩ := Moment.work_of_task carried
  obtain ⟨earliest, delivery, text, joined, reached, taken, current, decoded, unchanged⟩ :=
    before.delivery_of_route idle at_hand
  refine ⟨earliest, delivery, routing, text, by rw [same, joined, List.append_assoc]; rfl, reached,
    taken, current, ?_, ⟨message, carried⟩, by rw [after, kept, unchanged]⟩
  unfold Channel.pushIn?
  rw [decoded]
  rcases kind with rfl | ⟨answer, rfl, absent, named⟩
  · rfl
  · rw [unchanged] at absent
    simp only [absent, Bool.false_eq_true, if_false, named]

/-- A push in a frame of the current socket is acted on two moments after its delivery, by the time
someone has a turn again. -/
theorem dispatch_of_delivery {earlier later : List Moment} {moment : Moment} {generation : Nat}
    {text : String} {push : Push} (run : Run first (earlier ++ moment :: later) scene)
    (told : moment.event = .socket generation (.message text))
    (current : moment.scene.channel.link.generation = generation)
    (meant : moment.scene.channel.pushIn? text = some push) (free : scene.free = true) :
    ∃ routing acting others, later = routing :: acting :: others ∧
      acting.task? = some (.dispatch generation push) ∧
      acting.scene.channel = moment.scene.channel := by
  obtain ⟨⟨agenda, channel⟩, event⟩ := moment
  subst told
  obtain ⟨message, decoded, routes⟩ := Channel.run_route_of_pushIn? meant generation
  have ran : (Task.receive generation (.message text)).run channel =
      ([.route generation message], channel) := by
    dsimp only at current
    simp only [Task.run, current, if_true, decoded]
  -- the frame is routed in the next moment, and its push dispatched in the one after
  obtain ⟨routing, others, rfl, next, carried⟩ :=
    run.follows (congrArg (fun led : Agenda × Channel => led.1.head?) ran) rfl free
  have unchanged : routing.scene.channel = channel := by
    rw [next]
    exact congrArg Prod.snd ran
  rw [← List.singleton_append, ← List.append_assoc] at run
  obtain ⟨_, after, _⟩ := Moment.work_of_task carried
  have leads := Moment.leads_of_task carried
  dsimp only at routes
  rw [unchanged, routes] at leads after
  obtain ⟨acting, rest, rfl, last, acts⟩ :=
    run.follows (congrArg List.head? leads) rfl free
  exact ⟨routing, acting, rest, rfl, acts, last ▸ after⟩

end Run

end Intercom
