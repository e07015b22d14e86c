import Intercom.Proofs.Attempts
import Mathlib.Data.List.DropRight

/-!
# The end of the count of attempts

When the latest socket closes by itself, the channel asks for the number of the next attempt to
connect, which has to be a word of 32 bits. Only greetings take the count back, and only the limit
of the policy keeps it from growing. As long as there is a next number, the close goes on to the
sweep of the requests and to the callback; without one it leads to nothing. The close of a replaced
socket counts nothing, and is followed by the sweep alone.

Results:
1. `Run.attempts_eq`: the count is the number of alarms for reconnections since the last greeting.
2. `Run.counted_of_refuses`: the count never ends under a policy that refuses the largest number.
3. `Moment.workedOff_iff`: a close is worked off exactly if it can be counted or need not be.
4. `Stranded.cycle`: a socket that is lost is replaced by one that says nothing, with one more
   attempt.
5. `ends_of_allows`: so a policy that allows every attempt lets the count come to its end.
6. `worked_off_iff`: the policies under which every close is worked off.
-/

namespace Intercom

/-! ## Definitions -/

/-- The moments since the last greeting that was taken note of. -/
def sinceGreeting (past : List Moment) : List Moment :=
  past.rtakeWhile fun moment => !moment.greets

/-- `WorkedOff close generation closing`: the close goes on to the sweep of the requests that were
made on the socket or before. If the socket is the latest one, the callback for a lost socket
follows. -/
structure WorkedOff (close : Moment) (generation : Nat) (closing : Closing) : Prop where
  leads : close.leads =
    if close.scene.channel.link.generation = generation then
      [.sweep generation, .announceClose closing]
    else [.sweep generation]
  /-- After the next task the requests are swept. -/
  swept : ∀ waiting ∈ (close.after.after .work).channel.pending, generation < waiting.generation
  /-- With the task after that, the callback starts. -/
  announced : close.scene.channel.link.generation = generation →
    ∀ hook, (close.after.after .work).channel.onDisconnect = some hook →
      Moment.invocation? ⟨close.after.after .work, .work⟩ = some (.disconnect hook closing)

/-! ## The count of a run -/

theorem sinceGreeting_of_greets (past : List Moment) {moment : Moment}
    (greets : moment.greets = true) : sinceGreeting (past ++ [moment]) = [] :=
  List.rtakeWhile_concat_neg (fun moment : Moment => !moment.greets) past moment (by simp [greets])

theorem sinceGreeting_of_cool (past : List Moment) {moment : Moment}
    (cool : moment.greets = false) :
    sinceGreeting (past ++ [moment]) = sinceGreeting past ++ [moment] :=
  List.rtakeWhile_concat_pos (fun moment : Moment => !moment.greets) past moment (by simp [cool])

namespace Run

variable {settings : Settings} {draw : Nat → Nat} {past : List Moment} {scene : Scene}

/-- Alarms for reconnections have tickets that are used up. -/
theorem fresh (run : Run (.start settings draw) past scene) :
    ∀ alarm ∈ scene.channel.retries, alarm.ticket < scene.channel.nextTicket :=
  fun alarm present => run.course.ticketed.known alarm (List.mem_filter.mp present).1

/-- In every run the count of attempts is the number of alarms for reconnections since the last
greeting. -/
theorem attempts_eq (run : Run (.start settings draw) past scene) :
    scene.channel.link.attempts.toNat = (schedules (sinceGreeting past)).length := by
  induction run with
  | start => rfl
  | @step past scene event run _ ih =>
      show (Moment.mk scene event).after.channel.link.attempts.toNat = _
      cases greets : (Moment.mk scene event).greets with
      | true =>
          rw [Moment.attempts_of_greets greets, sinceGreeting_of_greets past greets]
          rfl
      | false =>
          rw [Moment.attempts_after (fun _ => run.fresh) greets, sinceGreeting_of_cool past greets,
            schedules_append, List.length_append, ← ih]

/-- Every attempt that is counted was allowed by the policy. -/
theorem allows_attempts (run : Run (.start settings draw) past scene) :
    scene.channel.link.attempts = 0 ∨
      settings.backoff.allows scene.channel.link.attempts = true := by
  induction run with
  | start => exact .inl rfl
  | @step past scene event run _ ih =>
      show (Moment.mk scene event).after.channel.link.attempts = 0 ∨
        settings.backoff.allows (Moment.mk scene event).after.channel.link.attempts = true
      cases greets : (Moment.mk scene event).greets with
      | true => exact .inl (Moment.attempts_of_greets greets)
      | false =>
          rcases @Moment.scheduled_or ⟨scene, event⟩ fun _ => run.fresh with
            ⟨_, attempts⟩ | ⟨_, _, _, attempts, _, allowed⟩
          · rw [attempts greets]
            exact ih
          · rw [attempts]
            exact .inr (run.policy.1 ▸ allowed)

/-- A policy that refuses the largest number never has the count at its end. -/
theorem counted_of_refuses (run : Run (.start settings draw) past scene)
    (refuses : settings.backoff.allows (.ofNat (UInt32.size - 1)) = false) :
    scene.channel.link.attempts.toNat + 1 < UInt32.size := by
  have word := scene.channel.link.attempts.toNat_lt
  have words : UInt32.size = 2 ^ 32 := rfl
  by_contra ended
  have last : scene.channel.link.attempts = .ofNat (UInt32.size - 1) := by
    rw [← UInt32.toNat_inj, UInt32.toNat_ofNat_of_lt' (by decide)]
    omega
  rcases run.allows_attempts with none | allowed
  · rw [none] at ended
    exact ended (by decide)
  · rw [last, refuses] at allowed
    cases allowed

end Run

/-! ## Closes -/

/-- After the sweep the requests up to the generation wait no more, and what waited under it is
next. -/
theorem Scene.after_sweep {scene : Scene} {generation : Nat} {rest : Agenda}
    (sweeps : scene.agenda = .sweep generation :: rest) :
    scene.after .work = ⟨rest, scene.channel.rejectThrough generation⟩ := by
  obtain ⟨agenda, channel⟩ := scene
  cases sweeps
  rfl

namespace Moment

variable {close : Moment} {generation : Nat} {closing : Closing}

/-- A close that leads to the sweep, and to the callback if the socket is the latest one, is worked
off in full. -/
theorem workedOff (leads : close.leads =
      if close.scene.channel.link.generation = generation then
        [.sweep generation, .announceClose closing]
      else [.sweep generation]) : WorkedOff close generation closing := by
  have agenda : close.after.agenda = close.leads ++ close.scene.rest close.event := rfl
  refine ⟨leads, ?_, fun latest hook registered => ?_⟩
  · obtain ⟨rest, sweeps⟩ : ∃ rest, close.after.agenda = .sweep generation :: rest := by
      rw [agenda, leads]
      split <;> exact ⟨_, rfl⟩
    rw [Scene.after_sweep sweeps]
    exact fun waiting => Channel.lt_of_mem_rejectThrough
  · rw [leads, if_pos latest] at agenda
    rw [Scene.after_sweep agenda] at registered ⊢
    dsimp only at registered
    simp [invocation?, task?, registered]

/-- The close of the latest socket leads to the sweep and to the callback if the attempts can be
counted or need not be. The close of a replaced socket leads to the sweep. -/
theorem leads_of_close (told : close.notice? = some (generation, .closed closing))
    (counted : close.scene.channel.link.generation = generation →
      close.scene.channel.link.CanCount) :
    close.leads =
      if close.scene.channel.link.generation = generation then
        [.sweep generation, .announceClose closing]
      else [.sweep generation] := by
  split
  · next latest =>
      subst latest
      refine (List.append_left_inj (close.scene.rest close.event)).mp ?_
      exact (after_departs told (counted rfl)).1
  · next replaced =>
      rw [(after_of_notice told).1]
      simp only [Task.run, close.link_found, if_neg replaced]

/-- With the count at its end, the close of the latest socket leads to nothing. -/
theorem leads_of_ended (departs : close.Departs closing)
    (ended : ¬ close.scene.channel.link.CanCount) :
    close.leads = [] ∧ close.after.channel.pending = close.scene.channel.pending := by
  obtain ⟨unasked, last⟩ := not_or.mp ended
  obtain ⟨leads, after⟩ := after_of_notice departs
  have closed := close.found.closeLink?_eq
  rw [close.link_found, if_neg unasked, if_neg last] at closed
  simp only [Task.run, close.link_found, if_true, closed] at leads after
  refine ⟨leads, ?_⟩
  obtain ⟨handles, lost, _, _⟩ := close.loseSocket_found
  rw [after, lost]
  rfl

/-- A close is worked off in full if and only if the next attempt can be counted or the socket was
replaced. -/
theorem workedOff_iff (told : close.notice? = some (generation, .closed closing)) :
    WorkedOff close generation closing ↔
      (close.scene.channel.link.generation = generation → close.scene.channel.link.CanCount) := by
  refine ⟨fun done latest => ?_, fun counted => workedOff (leads_of_close told counted)⟩
  subst latest
  by_contra ended
  have leads := done.leads
  rw [if_pos rfl, (leads_of_ended told ended).1] at leads
  cases leads

end Moment

/-- How a socket closes that is lost. -/
def streamEnded : Closing :=
  .abnormal "stream ended"

/-! ## The end of the count -/

/-- `Stranded settings n scene`: the channel owns a socket that has said nothing, after `n` attempts
to connect again. No request waits, and nothing is to be done. -/
structure Stranded (settings : Settings) (n : Nat) (scene : Scene) : Prop where
  idle : scene.agenda = []
  settings : scene.channel.settings = settings
  link : scene.channel.link =
    { socket := some (n + 1), generation := n + 1, attempts := .ofNat n }
  alarms : scene.channel.alarms = []
  pending : scene.channel.pending = []
  unheard : scene.channel.onDisconnect = none
  spawned : (scene.channel.handle? (n + 1)).isSome = true

/-- A socket that was spawned may tell something whenever nothing is to be done. -/
theorem Scene.allows_socket {scene : Scene} {generation : Nat} {notice : Notice}
    (idle : scene.agenda = []) (spawned : (scene.channel.handle? generation).isSome = true) :
    scene.allows (.socket generation notice) = true := by
  simp [allows, free, idle, spawned]

/-- A channel without a socket and without an alarm for a reconnection owns the next socket after it
is connected. -/
theorem Channel.openSocket_of_free {channel : Channel} (free : channel.link.socket = none)
    (quiet : channel.link.alarm = none) :
    channel.openSocket =
      { channel with
        nextTicket := channel.nextTicket + 1
        link :=
          { channel.link with
            socket := some (channel.link.generation + 1)
            generation := channel.link.generation + 1
            ready := false
            hello := none
            manual := false
            alarm := none }
        handles := channel.handles ++
          [⟨channel.link.generation + 1, channel.nextTicket, channel.now, false, []⟩] } := by
  simp [openSocket, cancelReconnect, cancelAlarm, free, quiet]

/-- The channel after the alarm for its reconnection went off, as late as it was due. -/
def Channel.afterAlarm (channel : Channel) (due : Nat) : Channel :=
  { channel with
    now := channel.now + (due - channel.now)
    alarms := []
    link := { channel.link with alarm := none } }

/-- An alarm for a reconnection goes off in its time, and the channel owns the next socket. -/
theorem Channel.reconnects {channel : Channel} {alarm : Alarm} (alarms : channel.alarms = [alarm])
    (purpose : alarm.purpose = .reconnect) (free : channel.link.socket = none)
    (wanted : channel.link.manual = false) :
    ∃ past, past.filterMap Moment.closed? = [] ∧
      Run ⟨[], channel⟩ past ⟨[], (channel.afterAlarm alarm.due).openSocket⟩ := by
  obtain ⟨ticket, due, _⟩ := alarm
  cases purpose
  let late : Channel := { channel with now := channel.now + (due - channel.now) }
  have waits : Run ⟨[], channel⟩ [⟨⟨[], channel⟩, .wait (due - channel.now)⟩] ⟨[], late⟩ :=
    .step .start rfl
  have rings : Run ⟨[], channel⟩ _ ⟨[.reconnect], late.cancelAlarm (some ticket)⟩ :=
    waits.step (show Scene.allows ⟨[], late⟩ (.alarm ⟨ticket, due, .reconnect⟩) = true by
      simp only [Scene.allows, late, alarms]
      simp [Scene.free]
      omega)
  have silenced : late.cancelAlarm (some ticket) = { late with alarms := [] } := by
    simp [late, Channel.cancelAlarm, alarms]
  rw [silenced] at rings
  have checks := rings.step (show Scene.allows _ .work = true from rfl)
  have connects : Scene.after ⟨[.reconnect], { late with alarms := [] }⟩ .work =
      ⟨[.connect], channel.afterAlarm due⟩ := by
    simp [Scene.after, Scene.perform, Scene.rest, Task.run, Channel.checkReconnect, late, free,
      wanted, Channel.afterAlarm]
  rw [connects] at checks
  have opens := checks.step (show Scene.allows _ .work = true from rfl)
  exact ⟨_, rfl, opens⟩

/-- Without a callback, nothing follows a sweep. -/
theorem Scene.after_announceClose {scene : Scene} {closing : Closing} {rest : Agenda}
    (announces : scene.agenda = .announceClose closing :: rest)
    (unheard : scene.channel.onDisconnect = none) :
    scene.after .work = ⟨rest, scene.channel⟩ := by
  obtain ⟨agenda, channel⟩ := scene
  cases announces
  simp only [Scene.after, Scene.perform, Task.run]
  rw [unheard]
  rfl

theorem Channel.rejectThrough_of_quiet {channel : Channel} (quiet : channel.pending = [])
    (generation : Nat) : channel.rejectThrough generation = channel := by
  rw [rejectThrough, quiet]
  rfl

/-- A frame that is handed to a socket is noted at its handle, or nowhere. -/
theorem Task.run_send (socket : Option Nat) (request : Request) (channel : Channel) :
    ∃ handles, (Task.send socket request).run channel = ([], { channel with handles }) ∧
      ∀ generation, (Channel.handle? { channel with handles } generation).isSome =
        (channel.handle? generation).isSome := by
  simp only [run]
  split
  · next own =>
      split
      · refine ⟨_, rfl, fun generation => ?_⟩
        show ((channel.enqueue own (.send request.id request.text)).handle? generation).isSome = _
        unfold Channel.enqueue
        rw [Channel.handle?_updateHandle, Option.isSome_map]
        exact fun _ => rfl
      · exact ⟨_, rfl, fun _ => rfl⟩
  · exact ⟨_, rfl, fun _ => rfl⟩

/-- A policy that allows an attempt allows those before. -/
theorem Backoff.allows_of_le {policy : Backoff} {attempt earlier : UInt32}
    (allowed : policy.allows attempt = true) (before : earlier ≤ attempt) :
    policy.allows earlier = true := by
  unfold allows at allowed ⊢
  rw [Bool.and_eq_true] at allowed ⊢
  refine ⟨allowed.1, ?_⟩
  cases limited : policy.limit with
  | none => rfl
  | some limit =>
      rw [limited] at allowed
      simp only [Option.all_some, decide_eq_true_eq] at allowed ⊢
      exact UInt32.le_trans before allowed.2

namespace Stranded

variable {settings : Settings} {n : Nat} {scene : Scene}

/-- The socket closes, and an alarm is set for the next attempt. -/
theorem closes (stranded : Stranded settings n scene) (counted : n + 1 < UInt32.size)
    (allows : settings.backoff.allows (.ofNat (n + 1)) = true) :
    ∃ past handles due, past.filterMap Moment.closed? = [n + 1] ∧
      Run scene past ⟨[], (scene.channel.bereft handles).retryAt due (.ofNat (n + 1))⟩ := by
  obtain ⟨agenda, channel⟩ := scene
  obtain ⟨idle, same, link, alarms, pending, unheard, spawned⟩ := stranded
  cases idle
  have number : channel.link.attempts + 1 = .ofNat (n + 1) := by
    rw [link, UInt32.ofNat_add]
    rfl
  have departs : (Moment.mk ⟨[], channel⟩ (.socket (n + 1) (.closed streamEnded))).Departs
      streamEnded := by
    show some (n + 1, Notice.closed streamEnded) = some (channel.link.generation, _)
    rw [link]
  have room : channel.link.CanCount := by
    refine .inr ?_
    rw [link, UInt32.toNat_ofNat_of_lt' (Nat.lt_of_succ_lt counted)]
    exact counted
  obtain ⟨agenda, handles, after⟩ := Moment.after_departs departs room
  dsimp only at agenda after
  rw [same, number, if_pos ⟨by rw [link], allows⟩] at after
  let left := (channel.bereft handles).retryAt channel.retryDue (.ofNat (n + 1))
  have told : Run ⟨[], channel⟩ _
      (Scene.after ⟨[], channel⟩ (.socket (n + 1) (.closed streamEnded))) :=
    .step .start (Scene.allows_socket rfl spawned)
  have closed : Scene.after ⟨[], channel⟩ (.socket (n + 1) (.closed streamEnded)) =
      ⟨[.sweep channel.link.generation, .announceClose streamEnded], left⟩ :=
    congrArg₂ Scene.mk agenda after
  rw [closed] at told
  have swept := told.step (show Scene.allows _ .work = true from rfl)
  have silent : left.pending = [] := pending
  rw [Scene.after_sweep rfl, Channel.rejectThrough_of_quiet silent] at swept
  have announced := swept.step (show Scene.allows _ .work = true from rfl)
  rw [@Scene.after_announceClose ⟨[.announceClose streamEnded], left⟩ _ _ rfl unheard] at announced
  exact ⟨_, handles, channel.retryDue, rfl, announced⟩

/-- The socket closes, the alarm goes off, and the socket is replaced by one that says nothing
either, with one more attempt. -/
theorem cycle (stranded : Stranded settings n scene) (counted : n + 1 < UInt32.size)
    (allows : settings.backoff.allows (.ofNat (n + 1)) = true) :
    ∃ past after, past.filterMap Moment.closed? = [n + 1] ∧ Run scene past after ∧
      Stranded settings (n + 1) after := by
  obtain ⟨closing, handles, due, told, closes⟩ := stranded.closes counted allows
  obtain ⟨opening, silent, opens⟩ := @Channel.reconnects
    ((scene.channel.bereft handles).retryAt due (.ofNat (n + 1)))
    ⟨scene.channel.nextTicket, due, .reconnect⟩
    (by rw [Channel.retryAt, Channel.bereft, stranded.alarms]; rfl) rfl rfl
    (by rw [Channel.retryAt, Channel.bereft, stranded.link])
  refine ⟨closing ++ opening, _, ?_, closes.trans opens, ?_⟩
  · rw [List.filterMap_append, told, silent]
    rfl
  · rw [Channel.openSocket_of_free rfl rfl]
    constructor
    · rfl
    · exact stranded.settings
    · simp only [Channel.afterAlarm, Channel.retryAt, Channel.bereft, stranded.link]
    · rfl
    · exact stranded.pending
    · exact stranded.unheard
    · simp [Channel.afterAlarm, Channel.retryAt, Channel.bereft, stranded.link, Channel.handle?]

/-- The first socket says nothing. -/
theorem connect (settings : Settings) (draw : Nat → Nat) :
    Stranded settings 0 ((Scene.start settings draw).after (.call none .connect)) where
  idle := rfl
  settings := rfl
  link := rfl
  alarms := rfl
  pending := rfl
  unheard := rfl
  spawned := rfl

/-- A run in which no socket ever says anything makes as many attempts as can be counted. -/
theorem run (settings : Settings) (draw : Nat → Nat) {last : Nat} (counted : last < UInt32.size)
    (allows : settings.backoff.allows (.ofNat last) = true) {n : Nat} (few : n ≤ last) :
    ∃ past scene, past.filterMap Moment.closed? = List.range' 1 n ∧
      Run (.start settings draw) past scene ∧ Stranded settings n scene := by
  induction n with
  | zero => exact ⟨_, _, rfl, .step .start rfl, connect settings draw⟩
  | succ n ih =>
      obtain ⟨past, scene, closed, run, stranded⟩ := ih (Nat.le_of_succ_le few)
      have word : n + 1 < UInt32.size := Nat.lt_of_le_of_lt few counted
      have earlier : UInt32.ofNat (n + 1) ≤ .ofNat last := by
        rw [UInt32.le_iff_toNat_le, UInt32.toNat_ofNat_of_lt' word,
          UInt32.toNat_ofNat_of_lt' counted]
        exact few
      obtain ⟨more, after, next, onward, further⟩ :=
        stranded.cycle word (Backoff.allows_of_le allows earlier)
      refine ⟨past ++ more, after, ?_, run.trans onward, further⟩
      rw [List.filterMap_append, closed, next, List.range'_concat, Nat.one_mul, Nat.add_comm 1 n]

/-- A request that is made now waits for an answer. -/
theorem request (stranded : Stranded settings n scene) :
    ∃ past after, past.filterMap Moment.closed? = [] ∧ Run scene past after ∧
      after.agenda = [] ∧ after.channel.link = scene.channel.link ∧
      after.channel.pending ≠ [] ∧ (after.channel.handle? (n + 1)).isSome = true := by
  obtain ⟨agenda, channel⟩ := scene
  obtain ⟨idle, -, -, -, -, -, spawned⟩ := stranded
  cases idle
  let asked := Channel.register { channel with ids := channel.ids.take.2 } channel.ids.peek "list"
    channel.link.generation channel.settings.requestTimeout
  have link : asked.link = channel.link := by
    simp only [asked, Channel.register_eq]
    rfl
  have handles : asked.handles = channel.handles := by
    simp only [asked, Channel.register_eq]
    rfl
  have waits : asked.pending ≠ [] := by
    intro empty
    have present : asked.isPending channel.ids.peek = true := by
      simp [asked, Channel.isPending_register]
    rw [Channel.isPending, empty] at present
    cases present
  have asks : Run ⟨[], channel⟩ _
      ⟨[.send channel.link.socket (.make channel.ids.peek "list" none)], asked⟩ :=
    Run.step .start (show Scene.allows ⟨[], channel⟩ (.call none (.request "list" none none)) = true
      from rfl)
  have sends := asks.step (show Scene.allows _ .work = true from rfl)
  obtain ⟨others, sent, known⟩ := Task.run_send channel.link.socket
    (.make channel.ids.peek "list" none) asked
  have after : Scene.after ⟨[.send channel.link.socket (.make channel.ids.peek "list" none)], asked⟩
      .work = ⟨[], { asked with handles := others }⟩ := by
    simp only [Scene.after, Scene.perform, sent]
    rfl
  rw [after] at sends
  refine ⟨_, _, rfl, sends, rfl, link, waits, ?_⟩
  rw [known, Channel.handle?, handles]
  exact spawned

end Stranded

/-- If the policy allows every attempt, then the count comes to its end in some run in which every
socket closes once, and the close after that leads to nothing while a request waits. -/
theorem ends_of_allows (settings : Settings) (draw : Nat → Nat)
    (allows : settings.backoff.allows (.ofNat (UInt32.size - 1)) = true) :
    ∃ past close, Run (.start settings draw) past close.scene ∧
      close.scene.allows close.event = true ∧ ClosesOnce (past ++ [close]) ∧
      close.Departs streamEnded ∧ ¬ close.scene.channel.link.CanCount ∧
      close.scene.channel.pending ≠ [] ∧ close.leads = [] ∧
      close.after.channel.pending = close.scene.channel.pending := by
  obtain ⟨n, whole⟩ : ∃ n, n + 1 = UInt32.size := ⟨UInt32.size - 1, rfl⟩
  have counted : n < UInt32.size := Nat.lt_of_lt_of_eq (Nat.lt_succ_self n) whole
  rw [← whole, Nat.add_sub_cancel] at allows
  obtain ⟨past, scene, closed, run, stranded⟩ :=
    Stranded.run settings draw counted allows (Nat.le_refl n)
  obtain ⟨more, last, silent, onward, idle, link, waits, spawned⟩ := stranded.request
  rw [stranded.link] at link
  let close : Moment := ⟨last, .socket (n + 1) (.closed streamEnded)⟩
  have departs : close.Departs streamEnded := by
    show some (n + 1, Notice.closed streamEnded) = some (last.channel.link.generation, _)
    rw [link]
  have ended : ¬ last.channel.link.CanCount := by
    rw [Link.CanCount, link, UInt32.toNat_ofNat_of_lt' counted, whole]
    exact not_or.mpr ⟨Bool.false_ne_true, Nat.lt_irrefl _⟩
  obtain ⟨leads, kept⟩ := Moment.leads_of_ended departs ended
  refine ⟨past ++ more, close, run.trans onward, Scene.allows_socket idle spawned, ?_, departs,
    ended, waits, leads, kept⟩
  have closes : (past ++ more ++ [close]).filterMap Moment.closed? = List.range' 1 (n + 1) := by
    rw [List.filterMap_append, List.filterMap_append, closed, silent, List.append_nil,
      List.range'_concat, Nat.one_mul, Nat.add_comm 1]
    rfl
  rw [ClosesOnce, closes]
  exact List.nodup_range'

/-! ## When closes are worked off -/

/-- In every run, the count of attempts is the number of alarms for reconnections since the last
greeting. A close is worked off in full if and only if that leaves a number for the next attempt, or
none is needed because the client has disconnected or the socket was replaced. Every close of the
latest socket, in every run in which no socket closes twice, is worked off if and only if the policy
refuses the largest number. -/
theorem worked_off_iff (settings : Settings) (draw : Nat → Nat) :
    (∀ past close generation closing, Run (.start settings draw) past close.scene →
      close.notice? = some (generation, .closed closing) →
      close.scene.channel.link.attempts.toNat = (schedules (sinceGreeting past)).length ∧
        (WorkedOff close generation closing ↔
          (close.scene.channel.link.generation = generation →
            close.scene.channel.link.manual = true ∨
              (schedules (sinceGreeting past)).length + 1 < UInt32.size))) ∧
    ((∀ past close closing, Run (.start settings draw) past close.scene →
      close.scene.allows close.event = true → ClosesOnce (past ++ [close]) →
      close.Departs closing → WorkedOff close close.scene.channel.link.generation closing) ↔
        settings.backoff.allows (.ofNat (UInt32.size - 1)) = false) := by
  refine ⟨fun past close generation closing run told => ?_, fun always => ?_, fun refuses => ?_⟩
  · have count := run.attempts_eq
    rw [← count]
    exact ⟨rfl, Moment.workedOff_iff told⟩
  · rw [← Bool.not_eq_true]
    intro allows
    obtain ⟨past, close, run, allowed, once, departs, ended, _⟩ :=
      ends_of_allows settings draw allows
    have done := always past close _ run allowed once departs
    exact ended ((Moment.workedOff_iff departs).mp done rfl)
  · intro past close closing run _ _ departs
    exact (Moment.workedOff_iff departs).mpr fun _ => .inr (run.counted_of_refuses refuses)

/-- The socket of a channel that tries once more is lost and replaced. -/
def lostOnce : List Event :=
  [.call none .connect, .socket 1 (.closed streamEnded), .work, .work, .wait 100,
    .alarm ⟨1, 100, .reconnect⟩, .work, .work]

/-- If one attempt is allowed, then it is counted when the first socket is lost, and the close of
the second one is worked off. If every attempt is allowed, then some close is not worked off. -/
theorem worked_off_iff_lostOnce :
    (∃ past scene, (Scene.start frugal fun _ => 0).play [] lostOnce = some (past, scene) ∧
      (schedules (sinceGreeting past)).length = 1 ∧
      WorkedOff ⟨scene, .socket 2 (.closed streamEnded)⟩ 2 streamEnded) ∧
    ∃ past close closing, Run (.start persistent fun _ => 0) past close.scene ∧
      ClosesOnce (past ++ [close]) ∧ close.Departs closing ∧
      ¬ WorkedOff close close.scene.channel.link.generation closing := by
  constructor
  · have seen : (((Scene.start frugal fun _ => 0).play [] lostOnce).map fun played =>
        played.2.channel.link.attempts) = some 1 := by
      cbv
    obtain ⟨⟨past, scene⟩, played, attempts⟩ := Option.map_eq_some_iff.mp seen
    dsimp only at attempts
    let close : Moment := ⟨scene, .socket 2 (.closed streamEnded)⟩
    obtain ⟨count, done⟩ := (worked_off_iff frugal fun _ => 0).1 past close 2 streamEnded
      (Scene.run_of_play .start played) rfl
    have single : (schedules (sinceGreeting past)).length = 1 := by
      rw [← count]
      show scene.channel.link.attempts.toNat = 1
      rw [attempts]
      rfl
    exact ⟨past, scene, played, single, done.mpr fun _ => .inr (by rw [single]; decide)⟩
  · have sometimes := (worked_off_iff persistent fun _ => 0).2.not.mpr (by decide)
    push Not at sometimes
    obtain ⟨past, close, closing, run, _, once, departs, undone⟩ := sometimes
    exact ⟨past, close, closing, run, once, departs, undone⟩

end Intercom
