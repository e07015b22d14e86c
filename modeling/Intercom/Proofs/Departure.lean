import Intercom.Proofs.Rejection

/-!
# The callback for a lost socket

When the latest socket closes, the channel first sees to its successor, then rejects the requests
that wait, and only then runs the callback. Nothing can come in between, so the callback finds a
channel that has settled everything about the socket.

Results:
1. `Moment.after_departs`: the channel after the close of the latest socket, in full, as long as the
   next attempt to connect can be counted.
2. `Run.leaving`: the callback is due only directly after a close and its sweep.
3. `Run.manual_iff`: the link remembers whether the client disconnected after it last connected.
4. `Run.announced_of_departs`, `Run.counted_of_announced`: the callback has its turn after a close
   exactly if the next attempt can be counted.
5. `departed_once`: when the callback runs, how often, and what it finds.
-/

namespace Intercom

open AccountsLemmas

/-! ## Definitions -/

/-- The moment takes in the close of the latest socket. -/
def Moment.Departs (moment : Moment) (closing : Closing) : Prop :=
  moment.notice? = some (moment.scene.channel.link.generation, .closed closing)

/-- There is a number for the next attempt to connect, or none is needed because the client has
disconnected. -/
def Link.CanCount (link : Link) : Prop :=
  link.manual = true ∨ link.attempts.toNat + 1 < UInt32.size

/-- The latest generation, if the moment starts the callback for a lost socket. -/
def Moment.lost? (moment : Moment) : Option Nat :=
  match moment.invocation? with
  | some (.disconnect _ _) => some moment.scene.channel.link.generation
  | _ => none

/-- The moment connects the channel, by a call or by a reconnection, unless a socket is owned. -/
def Moment.Connects (moment : Moment) : Prop :=
  moment.call? = some .connect ∨ moment.task? = some .connect

/-- The client has disconnected after the channel was connected last. -/
def Disconnected (past : List Moment) : Prop :=
  ∃ earlier release later, past = earlier ++ release :: later ∧
    release.call? = some .disconnect ∧ ∀ moment ∈ later, ¬ moment.Connects

/-- What the callback for a lost socket finds when it starts, after the moments `before` and the
close of the socket. -/
structure Departure (before : List Moment) (close : Moment) (closing : Closing) (start : Moment) :
    Prop where
  departs : close.Departs closing
  counted : close.scene.channel.link.CanCount
  generation : start.scene.channel.link.generation = close.scene.channel.link.generation
  status : start.scene.channel.status = .disconnected
  pending : start.scene.channel.pending = []
  /-- The requests that waited at the close have ended, and no other future has changed. -/
  futures : start.scene.channel.futures = close.scene.channel.futures.map
    (Future.endWith close.scene.channel.pending (.error .connectionClosed))
  ended : ∀ waiting ∈ close.scene.channel.pending, ∃ future ∈ start.scene.channel.futures,
    future.id = waiting.id ∧ future.outcome = some (.error .connectionClosed)
  silenced : (issues before).length < UInt64.size → ∀ waiting ∈ close.scene.channel.pending,
    start.scene.channel.Resolved waiting.id (.error .connectionClosed) ∧
      start.scene.channel.alarmsOf waiting.id = []
  retrying : start.scene.channel.retries ≠ [] ↔ ¬ Disconnected before ∧
    start.scene.channel.settings.backoff.allows (close.scene.channel.link.attempts + 1) = true

/-- The moments directly after the close are its sweep and the turn of the callback, which starts if
there is one. -/
def Moment.Announced (close : Moment) (closing : Closing) (later : List Moment) : Prop :=
  ∃ sweep turn others, later = sweep :: turn :: others ∧
    sweep.task? = some (.sweep close.scene.channel.link.generation) ∧
    turn.task? = some (.announceClose closing) ∧
    turn.scene.channel.link.generation = close.scene.channel.link.generation ∧
    turn.invocation? = close.scene.channel.onDisconnect.map (.disconnect · closing)

/-- `Leaving past scene`: no callback for a lost socket is due, or the moments before were the close
of the socket, and its sweep if it has been. -/
inductive Leaving (past : List Moment) (scene : Scene) : Prop where
  | idle : (∀ closing, .announceClose closing ∉ scene.agenda) → Leaving past scene
  | sweeping {before : List Moment} {close : Moment} {closing : Closing} {rest : Agenda} :
      past = before ++ [close] → close.Departs closing → close.scene.channel.link.CanCount →
      scene = close.after →
      scene.agenda =
        .sweep close.scene.channel.link.generation :: .announceClose closing :: rest →
      (∀ other, .announceClose other ∉ rest) → Leaving past scene
  | starting {before : List Moment} {close sweep : Moment} {closing : Closing} {rest : Agenda} :
      past = before ++ [close, sweep] → close.Departs closing →
      close.scene.channel.link.CanCount → sweep.scene = close.after →
      sweep.task? = some (.sweep close.scene.channel.link.generation) → scene = sweep.after →
      scene.agenda = .announceClose closing :: rest →
      (∀ other, .announceClose other ∉ rest) → Leaving past scene

/-! ## The close of the latest socket -/

namespace Moment

variable {moment : Moment} {closing : Closing}

/-- A socket is lost from the channel of the scene, whatever open flags the moment has changed. -/
theorem loseSocket_found (moment : Moment) :
    ∃ handles, moment.found.loseSocket = moment.scene.channel.bereft handles ∧
      moment.found.retryDue = moment.scene.channel.retryDue ∧
      moment.found.settings = moment.scene.channel.settings := by
  obtain ⟨handles, lost⟩ := moment.found.loseSocket_frame
  obtain ⟨flags, found⟩ := moment.found_frame
  rw [found] at lost ⊢
  exact ⟨handles, lost, rfl, rfl⟩

/-- After the close of the latest socket the requests are swept, and then the callback runs, if the
next attempt can be counted. No socket is owned, and an alarm is set for the next attempt to connect
if there is to be one. -/
theorem after_departs (departs : moment.Departs closing)
    (counted : moment.scene.channel.link.CanCount) :
    moment.after.agenda = .sweep moment.scene.channel.link.generation :: .announceClose closing ::
        moment.scene.rest moment.event ∧
      ∃ handles, moment.after.channel =
        if moment.scene.channel.link.manual = false ∧ moment.scene.channel.settings.backoff.allows
            (moment.scene.channel.link.attempts + 1) = true then
          (moment.scene.channel.bereft handles).retryAt moment.scene.channel.retryDue
            (moment.scene.channel.link.attempts + 1)
        else moment.scene.channel.bereft handles := by
  obtain ⟨handles, lost, due, settings⟩ := moment.loseSocket_found
  have closed := moment.found.closeLink?_eq
  rw [lost, due, settings, moment.link_found] at closed
  obtain ⟨leads, after⟩ := after_of_notice departs
  simp only [Task.run, moment.link_found, if_true] at leads after
  cases manual : moment.scene.channel.link.manual with
  | true =>
      rw [manual, if_pos rfl] at closed
      rw [closed] at leads after
      rw [after, leads]
      exact ⟨rfl, handles, by simp⟩
  | false =>
      have counted := counted.resolve_left (by simp [manual])
      simp only [manual, Bool.false_eq_true, if_false, counted, if_true, ← apply_ite] at closed
      rw [closed] at leads after
      rw [after, leads]
      exact ⟨rfl, handles, by simp⟩

end Moment

/-! ## When the callback is due -/

namespace Call

theorem announceClose_not_mem (own : Option SubscriptionId) (call : Call) (channel : Channel)
    (closing : Closing) : .announceClose closing ∉ (call.begin own channel).2.1 := by
  cases call with
  | disconnect =>
      simp only [begin, Channel.releaseSocket]
      cases channel.link.socket <;> simp
  | _ => simp [begin]

end Call

namespace Task

theorem announceClose_not_mem (running : Running) (call : Call) (channel : Channel)
    (closing : Closing) : .announceClose closing ∉ (perform running call channel).1 := by
  unfold perform
  simp [Call.announceClose_not_mem]

/-- Only a close of the latest socket leads to the callback. -/
theorem closed_of_announceClose {task : Task} {channel : Channel} {closing : Closing}
    (leads : .announceClose closing ∈ (task.run channel).1) :
    task = .receive channel.link.generation (.closed closing) ∧
      channel.closeLink?.isSome = true := by
  cases task with
  | receive generation notice =>
      cases notice with
      | closed other =>
          simp only [run] at leads
          split at leads
          · next current =>
              split at leads
              · next after closed =>
                  simp only [List.mem_cons, reduceCtorEq, announceClose.injEq, List.not_mem_nil,
                    or_false, false_or] at leads
                  exact ⟨by rw [current, leads], by rw [closed]; rfl⟩
              · cases leads
          · simp at leads
      | message text =>
          simp only [run] at leads
          split at leads
          · split at leads <;> simp at leads
          · cases leads
      | _ => cases leads
  | send socket request =>
      simp only [run] at leads
      split at leads
      · split at leads <;> cases leads
      · cases leads
  | route generation message =>
      simp only [run] at leads
      split at leads
      · split at leads
        · cases leads
        · split at leads <;> simp at leads
      · simp at leads
  | dispatch generation push =>
      simp only [run, Channel.greet] at leads
      split at leads
      · cases ready : channel.link.ready <;> simp [ready] at leads
      · simp at leads
  | announceReady =>
      simp only [run] at leads
      split at leads <;> simp at leads
  | deliver push current listeners completed =>
      cases current with
      | none => cases listeners <;> simp [run] at leads
      | some running =>
          obtain ⟨label, own, actions⟩ := running
          cases actions with
          | nil => simp [run] at leads
          | cons action =>
              cases action with
              | panic => simp [run] at leads
              | call call => simp [run, announceClose_not_mem] at leads
  | announceClose =>
      simp only [run] at leads
      split at leads <;> simp at leads
  | callback running =>
      obtain ⟨label, own, actions⟩ := running
      cases actions with
      | nil => cases leads
      | cons action =>
          cases action with
          | panic => cases leads
          | call call => simp [run, announceClose_not_mem] at leads
  | reconnect =>
      simp only [run, Channel.checkReconnect] at leads
      cases wanted : !channel.link.manual && channel.link.socket.isNone <;> simp [wanted] at leads
  | _ => simp [run] at leads

end Task

/-- A close is carried out in full only while attempts can be counted. -/
theorem Channel.counted_of_closeLink {channel : Channel}
    (closes : channel.closeLink?.isSome = true) : channel.link.CanCount := by
  rw [closeLink?_eq] at closes
  split at closes
  · next manual => exact .inl manual
  · split at closes
    · next counted => exact .inr counted
    · cases closes

/-- Only a close of the latest socket leads to the callback, and only if the next attempt can be
counted. -/
theorem Moment.departs_of_announceClose {moment : Moment} {closing : Closing}
    (leads : .announceClose closing ∈ moment.leads) :
    moment.Departs closing ∧ moment.scene.channel.link.CanCount := by
  obtain ⟨⟨agenda, channel⟩, event⟩ := moment
  cases event with
  | call own call => exact absurd leads (call.announceClose_not_mem own channel closing)
  | socket generation notice =>
      obtain ⟨same, closes⟩ := Task.closed_of_announceClose leads
      have link := channel.link_reflect generation notice
      rw [link] at same
      have counted := Channel.counted_of_closeLink closes
      rw [link] at counted
      cases same
      exact ⟨rfl, counted⟩
  | alarm alarm =>
      have same := List.mem_singleton.mp leads
      cases purpose : alarm.purpose <;> simp [Purpose.task, purpose] at same
  | wait => cases leads
  | collect => cases leads
  | work =>
      cases agenda with
      | nil => cases leads
      | cons task rest =>
          have led : _ ∈ (task.run channel).1 := leads
          obtain ⟨rfl, closes⟩ := Task.closed_of_announceClose led
          exact ⟨rfl, Channel.counted_of_closeLink closes⟩

/-- The callback for a lost socket is due only directly after the close and its sweep. -/
theorem Run.leaving {first scene : Scene} {past : List Moment} (run : Run first past scene)
    (idle : first.agenda = []) : Leaving past scene := by
  induction run with
  | start => exact .idle fun closing => by simp [idle]
  | @step past scene event _ allowed ih =>
      cases ih with
      | idle silent =>
          have rests (closing : Closing) : .announceClose closing ∉ scene.rest event := by
            intro left
            refine silent closing ?_
            cases event with
            | work => exact List.mem_of_mem_tail left
            | _ => exact left
          by_cases leads : ∃ closing, .announceClose closing ∈ Moment.leads ⟨scene, event⟩
          · obtain ⟨closing, leads⟩ := leads
            obtain ⟨departs, counted⟩ := Moment.departs_of_announceClose leads
            exact .sweeping rfl departs counted rfl (Moment.after_departs departs counted).1 rests
          · refine .idle fun closing present => ?_
            rcases List.mem_append.mp present with new | old
            · exact leads ⟨closing, new⟩
            · exact rests closing old
      | @sweeping before close closing rest same departs counted after agenda silent =>
          obtain rfl := Scene.work_of_busy (by rw [Scene.free, agenda]; rfl) allowed
          have sweeps : Moment.task? ⟨scene, .work⟩ =
              some (.sweep close.scene.channel.link.generation) := by
            simp only [Moment.task?, agenda, List.head?_cons]
          have joined : past ++ [⟨scene, .work⟩] = before ++ [close, ⟨scene, .work⟩] := by
            rw [same, List.append_assoc]
            rfl
          refine .starting joined departs counted after sweeps rfl ?_ silent
          · simp only [Scene.after, Scene.perform, Scene.rest, agenda]
            rfl
      | @starting before close sweep closing rest same departs counted follows sweeps after agenda
          silent =>
          obtain rfl := Scene.work_of_busy (by rw [Scene.free, agenda]; rfl) allowed
          refine .idle fun other present => ?_
          simp only [Scene.after, Scene.perform, Scene.rest, agenda] at present
          rcases List.mem_append.mp present with new | old
          · obtain ⟨same, _⟩ := Task.closed_of_announceClose new
            cases same
          · exact silent other old

/-! ## Whether the client has disconnected -/

namespace Moment

variable {moment : Moment}

theorem connects_iff : moment.Connects ↔ moment.effect = .openSocket := by
  constructor
  · rintro (calls | carried)
    · obtain ⟨own, opens⟩ := effect_of_call calls
      exact opens
    · exact effect_of_task carried
  · intro opens
    have cause := moment.cause
    rw [opens] at cause
    cases cause with
    | connect calls => exact .inl calls
    | reconnect carried => exact .inr carried

theorem disconnects_iff : moment.call? = some .disconnect ↔ moment.effect = .releaseSocket := by
  constructor
  · intro calls
    obtain ⟨own, releases⟩ := effect_of_call calls
    exact releases
  · intro releases
    have cause := moment.cause
    rw [releases] at cause
    cases cause with
    | disconnect calls => exact calls

end Moment

/-- Only to connect and to disconnect changes whether the client has disconnected. -/
theorem Effect.manual_apply {effect : Effect} (stays : effect ≠ .openSocket)
    (keeps : effect ≠ .releaseSocket) (channel : Channel) :
    (effect.apply channel).link.manual = channel.link.manual := by
  rcases effect.spares_or channel with spares | rfl | rfl | rfl | rfl
  · exact spares.manual
  · exact absurd rfl stays
  · exact absurd rfl keeps
  · obtain ⟨_, link⟩ := channel.loseSocket_eq
    rcases channel.closeLink_cases with same | ⟨_, _, due, attempts, same⟩
    · rw [Effect.apply, same, link]
    · rw [Effect.apply, same]
      show channel.loseSocket.link.manual = channel.link.manual
      rw [link]
  · rfl

theorem disconnected_append (past : List Moment) (moment : Moment) :
    Disconnected (past ++ [moment]) ↔
      moment.call? = some .disconnect ∨ ¬ moment.Connects ∧ Disconnected past := by
  constructor
  · rintro ⟨earlier, release, later, joined, calls, silent⟩
    rcases List.eq_nil_or_concat later with rfl | ⟨others, final, rfl⟩
    · obtain ⟨_, single⟩ := List.append_inj' joined rfl
      cases single
      exact .inl calls
    · rw [List.concat_eq_append, ← List.cons_append, ← List.append_assoc] at joined
      obtain ⟨same, single⟩ := List.append_inj' joined rfl
      cases single
      refine .inr ⟨silent moment (by simp), earlier, release, others, same, calls, ?_⟩
      exact fun other present => silent other (by simp [present])
  · rintro (calls | ⟨silent, earlier, release, later, rfl, calls, quiet⟩)
    · exact ⟨past, moment, [], rfl, calls, fun _ absent => absurd absent List.not_mem_nil⟩
    · refine ⟨earlier, release, later ++ [moment], by simp, calls, fun other present => ?_⟩
      rcases List.mem_append.mp present with old | new
      · exact quiet other old
      · rw [List.mem_singleton.mp new]
        exact silent

/-- The link remembers whether the client has disconnected after the channel was connected last. -/
theorem Course.manual_iff {settings : Settings} {draw : Nat → Nat} {past : List Moment}
    {channel : Channel} (course : Course (Scene.start settings draw).channel past channel) :
    channel.link.manual = true ↔ Disconnected past := by
  induction course with
  | start =>
      refine ⟨nofun, ?_⟩
      rintro ⟨earlier, release, later, joined, _⟩
      simp at joined
  | @step past moment reached _ ih =>
      rw [disconnected_append, Moment.connects_iff, Moment.disconnects_iff, moment.after_eq, ← ih,
        ← moment.link_found]
      by_cases opens : moment.effect = .openSocket
      · have wanted (owned : moment.found.link.socket.isSome = true) :
            moment.found.link.manual = false := by
          rw [moment.link_found] at owned ⊢
          exact reached.wanted owned
        rw [opens, Effect.apply, Channel.openSocket]
        split
        · next owned => simp [wanted owned]
        · simp
      · by_cases releases : moment.effect = .releaseSocket
        · rw [releases]
          exact ⟨fun _ => .inl rfl, fun _ => rfl⟩
        · rw [Effect.manual_apply opens releases]
          simp [opens, releases]

/-! ## What the callback finds -/

namespace Moment

variable {moment : Moment} {closing : Closing}

/-- After the close of the latest socket no socket is owned; requests wait as before. -/
theorem lost_of_departs (departs : moment.Departs closing)
    (counted : moment.scene.channel.link.CanCount) :
    moment.after.channel.link.socket = none ∧
      moment.after.channel.link.generation = moment.scene.channel.link.generation ∧
      moment.after.channel.settings = moment.scene.channel.settings ∧
      moment.after.channel.pending = moment.scene.channel.pending ∧
      moment.after.channel.futures = moment.scene.channel.futures ∧
      moment.after.channel.onDisconnect = moment.scene.channel.onDisconnect := by
  obtain ⟨_, handles, after⟩ := after_departs departs counted
  rw [after]
  split <;> exact ⟨rfl, rfl, rfl, rfl, rfl, rfl⟩

/-- A reconnection is to come after the close if the client has not disconnected and the policy
allows it. -/
theorem retries_of_departs (departs : moment.Departs closing)
    (counted : moment.scene.channel.link.CanCount)
    (quiet : moment.scene.channel.retries = []) :
    moment.after.channel.retries ≠ [] ↔
      moment.scene.channel.link.manual = false ∧ moment.scene.channel.settings.backoff.allows
        (moment.scene.channel.link.attempts + 1) = true := by
  obtain ⟨_, handles, after⟩ := after_departs departs counted
  rw [after]
  split
  · next wanted => simp [wanted, Channel.retries_retryAt]
  · next unwanted =>
      have none : (moment.scene.channel.bereft handles).retries = [] := quiet
      simp only [none, ne_eq, not_true_eq_false, false_iff]
      exact unwanted

end Moment

/-- The close and its sweep bring about all that the callback finds. -/
theorem Run.departure {settings : Settings} {draw : Nat → Nat} {before : List Moment}
    {close sweep start : Moment} {closing : Closing}
    (run : Run (.start settings draw) (before ++ [close, sweep]) start.scene)
    (once : ClosesOnce (before ++ [close])) (departs : close.Departs closing)
    (counted : close.scene.channel.link.CanCount)
    (sweeps : sweep.task? = some (.sweep close.scene.channel.link.generation)) :
    Departure before close closing start := by
  rw [← List.singleton_append, ← List.append_assoc] at run
  obtain ⟨reached, _, arrived⟩ := run.last
  obtain ⟨begins, allowed, follows⟩ := reached.last
  obtain ⟨socket, generation, sameSettings, pending, futures, _⟩ :=
    Moment.lost_of_departs departs counted
  obtain ⟨rejection, exact⟩ := reached.rejection sweeps
  rw [follows, ← arrived] at rejection exact
  obtain ⟨rest, others, alarms, frame⟩ := rejection.frame
  -- no request waits on a later generation than the latest
  have stale : close.after.channel.waitingThrough close.scene.channel.link.generation =
      close.scene.channel.pending := by
    rw [Channel.waitingThrough, pending]
    refine List.filter_eq_self.mpr fun waiting present => ?_
    exact decide_eq_true (begins.course.waiting_le waiting present)
  have ended := rejection.futures
  rw [stale, futures] at ended
  refine ⟨departs, counted, ?_, ?_, ?_, ended, ?_, ?_, ?_⟩
  · rw [frame]
    exact generation
  · have free : start.scene.channel.link.socket = none := by
      rw [frame]
      exact socket
    rw [Channel.status, free]
  · refine List.eq_nil_iff_forall_not_mem.mpr fun waiting present => ?_
    obtain ⟨waits, late⟩ := rejection.left waiting present
    rw [pending] at waits
    exact absurd late (Nat.not_lt.mpr (begins.course.waiting_le waiting waits))
  · intro waiting present
    have promised := begins.course.promised (fun _ absent => absurd absent List.not_mem_nil)
    obtain ⟨future, made, same, unresolved⟩ := promised waiting present
    rw [ended]
    refine ⟨_, List.mem_map_of_mem made, ?_⟩
    rw [Future.endWith_of_mem present same unresolved]
    exact ⟨same, rfl⟩
  · intro few waiting present
    rw [issues_append, Moment.issue?_of_notice departs, Option.toList_none,
      List.append_nil] at exact
    exact (exact few).resolved waiting (stale ▸ present)
  · have closes := Moment.closed?_eq_some.mpr ⟨_, departs⟩
    have quiet := (begins.tended once.past_of_append).1.quiet_of_unclosed (once.unclosed closes)
    rw [rejection.retries, Moment.retries_of_departs departs counted quiet,
      ← begins.course.manual_iff, Bool.not_eq_true, frame, sameSettings]

/-! ## When the callback runs -/

namespace Moment

variable {moment : Moment}

theorem announceClose_of_invocation {hook : Hook} {closing : Closing}
    (starts : moment.invocation? = some (.disconnect hook closing)) :
    moment.task? = some (.announceClose closing) := by
  unfold invocation? at starts
  split at starts
  · obtain ⟨_, _, other⟩ := Option.map_eq_some_iff.mp starts
    cases other
  · cases starts
  · next told carried =>
      obtain ⟨_, _, same⟩ := Option.map_eq_some_iff.mp starts
      cases same
      exact carried
  · cases starts

theorem lost?_eq_some {generation : Nat} :
    moment.lost? = some generation ↔
      moment.scene.channel.link.generation = generation ∧
        ∃ hook closing, moment.invocation? = some (.disconnect hook closing) := by
  unfold lost?
  constructor
  · intro starts
    split at starts
    · next hook closing invoked => exact ⟨Option.some.inj starts, hook, closing, invoked⟩
    · cases starts
  · rintro ⟨rfl, hook, closing, invoked⟩
    rw [invoked]

/-- Only its own task starts the callback. -/
theorem lost?_of_silent (silent : ∀ closing, moment.task? ≠ some (.announceClose closing)) :
    moment.lost? = none := by
  refine Option.eq_none_iff_forall_not_mem.mpr fun generation starts => ?_
  obtain ⟨_, hook, closing, invoked⟩ := lost?_eq_some.mp starts
  exact silent closing (announceClose_of_invocation invoked)

/-- A task that takes nothing in is no close. -/
theorem closed?_of_task {task : Task} (carried : moment.task? = some task)
    (other : ∀ generation notice, task ≠ .receive generation notice) : moment.closed? = none := by
  obtain ⟨work, _, rest, agenda⟩ := work_of_task carried
  unfold closed? notice?
  rw [work]
  dsimp only
  rw [agenda, List.head?_cons]
  cases task with
  | receive generation notice => exact absurd rfl (other generation notice)
  | _ => rfl

/-- A close starts no callback at once. -/
theorem lost?_of_closed {generation : Nat} (closes : moment.closed? = some generation) :
    moment.lost? = none := by
  refine lost?_of_silent fun closing carried => ?_
  cases (closed?_of_task carried fun _ _ => Task.noConfusion).symm.trans closes

end Moment

namespace Run

variable {settings : Settings} {draw : Nat → Nat} {past earlier later : List Moment}
  {close start : Moment} {scene : Scene} {closing : Closing}

/-- Before the callback starts there were the close and its sweep. -/
theorem departure_of_start (run : Run (.start settings draw) past start.scene)
    (once : ClosesOnce past) (starts : start.task? = some (.announceClose closing)) :
    ∃ before close sweep, past = before ++ [close, sweep] ∧
      sweep.task? = some (.sweep close.scene.channel.link.generation) ∧
      Departure before close closing start := by
  obtain ⟨_, _, rest, agenda⟩ := Moment.work_of_task starts
  cases run.leaving rfl with
  | idle silent =>
      refine absurd ?_ (silent closing)
      rw [agenda]
      exact List.mem_cons_self
  | sweeping _ _ _ _ head =>
      rw [agenda] at head
      cases head
  | @starting before close sweep other below same departs counted _ sweeps _ head _ =>
      rw [agenda] at head
      cases head
      subst same
      rw [← List.singleton_append, ← List.append_assoc] at once
      exact ⟨before, close, sweep, rfl, sweeps,
        departure run once.past_of_append departs counted sweeps⟩

/-- Each start of the callback has a close of its own. -/
theorem lost_sublist (run : Run (.start settings draw) past scene) (once : ClosesOnce past) :
    (past.filterMap Moment.lost?).Sublist (past.filterMap Moment.closed?) := by
  generalize size : past.length = n
  induction n using Nat.strongRecOn generalizing past scene with
  | ind n ih =>
      rcases List.eq_nil_or_concat past with rfl | ⟨earlier, moment, rfl⟩
      · exact .slnil
      rw [List.concat_eq_append] at run once size ⊢
      have reached := run.last.1
      have before := once.past_of_append
      cases lost : moment.lost? with
      | none =>
          rw [List.filterMap_append, List.filterMap_append]
          have shorter := ih earlier.length (by simp [← size]) reached before rfl
          simpa [lost] using shorter.trans (List.sublist_append_left _ _)
      | some generation =>
          obtain ⟨rfl, hook, closing, invoked⟩ := Moment.lost?_eq_some.mp lost
          obtain ⟨first, close, sweep, rfl, sweeps, departure⟩ :=
            reached.departure_of_start before (Moment.announceClose_of_invocation invoked)
          have closes := Moment.closed?_eq_some.mpr ⟨_, departure.departs⟩
          have quiet : sweep.lost? = none := Moment.lost?_of_silent fun _ => by simp [sweeps]
          rw [List.filterMap_append, List.filterMap_append, List.filterMap_append,
            List.filterMap_append]
          -- neither the close nor the sweep starts the callback, so the close counts for this start
          have shorter : (first.filterMap Moment.lost?).Sublist _ :=
            ih first.length (by simp [← size]) reached.at_moment.1 before.past_of_append rfl
          simpa [lost, closes, quiet, Moment.lost?_of_closed closes, departure.generation,
            Moment.closed?_of_task sweeps (fun _ _ => Task.noConfusion),
            Moment.closed?_of_task (Moment.announceClose_of_invocation invoked)
              (fun _ _ => Task.noConfusion)] using shorter

/-- After a close the callback has its turn only if the next attempt can be counted. -/
theorem counted_of_announced (run : Run (.start settings draw) (earlier ++ close :: later) scene)
    (once : ClosesOnce (earlier ++ close :: later)) (announced : close.Announced closing later) :
    close.scene.channel.link.CanCount := by
  obtain ⟨sweep, turn, others, rfl, _, takes, _⟩ := announced
  have joined : earlier ++ close :: sweep :: turn :: others =
      earlier ++ [close, sweep] ++ turn :: others := by
    rw [List.append_assoc]
    rfl
  rw [joined] at run once
  obtain ⟨before, other, _, below, _, departure⟩ :=
    run.at_moment.1.departure_of_start once.past_of_append takes
  -- the close that is meant is the last moment but one before the turn
  obtain ⟨rfl, _⟩ := List.cons.inj (List.append_inj' below rfl).2
  exact departure.counted

/-- After a close the callback has its turn, before anyone else, if the next attempt can be
counted. -/
theorem announced_of_departs (run : Run (.start settings draw) (earlier ++ close :: later) scene)
    (free : scene.free = true) (departs : close.Departs closing)
    (counted : close.scene.channel.link.CanCount) : close.Announced closing later := by
  obtain ⟨agenda, _⟩ := Moment.after_departs departs counted
  obtain ⟨_, generation, _, _, _, hook⟩ := Moment.lost_of_departs departs counted
  obtain ⟨sweep, others, rfl, follows, does, onward⟩ := run.onward.does_of_busy agenda rfl free
  obtain ⟨turn, rest, rfl, next, takes, _⟩ :=
    onward.does_of_busy (by rw [does.after_eq]; rfl) rfl free
  have swept : turn.scene.channel =
      close.after.channel.rejectThrough close.scene.channel.link.generation := by
    rw [next, SweepLemmas.after_sweep does.task?_eq, follows]
  rw [Channel.rejectThrough_eq] at swept
  obtain ⟨_, _, _, frame⟩ := close.after.channel.settleEach_frame _ _
  rw [frame] at swept
  refine ⟨sweep, turn, rest, rfl, does.task?_eq, takes.task?_eq, ?_, ?_⟩
  · rw [swept]
    exact generation
  · simp only [Moment.invocation?, takes.task?_eq]
    rw [swept, ← hook]

end Run

/-- The callback for a lost socket starts for a generation once at most, and only after the close of
a socket that was the latest. When it starts, the channel is disconnected, no request waits, those
that waited at the close have ended, and a reconnection is to come if and only if the client has not
disconnected since the channel was connected last and the policy allows it. After such a close the
callback has its turn, before anyone else, if and only if the client has disconnected or there is a
number for the next attempt to connect. -/
theorem departed_once {settings : Settings} {draw : Nat → Nat} {past : List Moment} {scene : Scene}
    (run : Run (.start settings draw) past scene) (once : ClosesOnce past) :
    (past.filterMap Moment.lost?).Nodup ∧
      (∀ earlier start later hook closing, past = earlier ++ start :: later →
        start.invocation? = some (.disconnect hook closing) →
        ∃ before close sweep, earlier = before ++ [close, sweep] ∧
          Departure before close closing start) ∧
      (scene.free = true → ∀ earlier close later closing, past = earlier ++ close :: later →
        close.Departs closing →
        (close.Announced closing later ↔ close.scene.channel.link.manual = true ∨
          close.scene.channel.link.attempts.toNat + 1 < UInt32.size)) := by
  refine ⟨(run.lost_sublist once).nodup once, ?_, ?_⟩
  · rintro earlier start later hook closing rfl invoked
    obtain ⟨before, close, sweep, same, _, departure⟩ :=
      run.at_moment.1.departure_of_start once.past_of_append
        (Moment.announceClose_of_invocation invoked)
    exact ⟨before, close, sweep, same, departure⟩
  · rintro free earlier close later closing rfl departs
    exact ⟨run.counted_of_announced once, run.announced_of_departs free departs⟩

/-- A request waits when the socket closes; the callback connects again at once, and the second
socket is closed by the client. -/
def lostTwice : List Event :=
  [.call none (.onDisconnect (.make "lost" [.call .connect] (some 1))), .call none .connect,
    .call none (.request "status" none none), .work,
    .socket 1 (.closed (.abnormal "stream ended")), .work, .work, .work, .work, .work,
    .call none .disconnect, .work, .socket 2 (.closed (.coded 1000 "closed by client")), .work,
    .work, .work]

/-- The callback finds a reconnection the first time, and none the second time. -/
theorem departed_once_lostTwice : ∃ past scene,
    (Scene.start persistent fun _ => 0).play [] lostTwice = some (past, scene) ∧
      ClosesOnce past ∧ scene.free = true ∧
      (past.filterMap fun moment => moment.lost?.map fun generation =>
        (generation, moment.scene.channel.retries.length)) = [(1, 1), (2, 0)] ∧
      (past.filterMap Moment.lost?).Nodup ∧
      (∀ earlier start later hook closing, past = earlier ++ start :: later →
        start.invocation? = some (.disconnect hook closing) →
        ∃ before close sweep, earlier = before ++ [close, sweep] ∧
          Departure before close closing start) ∧
      ∀ earlier close later closing, past = earlier ++ close :: later →
        close.Departs closing →
        (close.Announced closing later ↔ close.scene.channel.link.manual = true ∨
          close.scene.channel.link.attempts.toNat + 1 < UInt32.size) := by
  have seen : (((Scene.start persistent fun _ => 0).play [] lostTwice).map fun played =>
      (played.1.filterMap Moment.closed?, played.2.free,
        played.1.filterMap fun moment => moment.lost?.map fun generation =>
          (generation, moment.scene.channel.retries.length))) =
        some ([1, 2], true, [(1, 1), (2, 0)]) := by
    cbv
  obtain ⟨⟨past, scene⟩, played, views⟩ := Option.map_eq_some_iff.mp seen
  obtain ⟨closes, free, starts⟩ := Prod.mk.inj views |>.imp_right Prod.mk.inj
  have once : ClosesOnce past := by
    rw [ClosesOnce, closes]
    decide
  obtain ⟨single, finds, follows⟩ := departed_once (Scene.run_of_play .start played) once
  exact ⟨past, scene, played, once, free, starts, single, finds, follows free⟩

end Intercom
