import Intercom.Proofs.Wire
import Intercom.Simulation

/-!
# The life of a socket

Of what happens to a socket, a first part passes while it is opening. If the handshake decides the
opening, a second part, its session, passes while it is open, and what ends the session ends the
socket. `Lifespan` divides a series of occurrences in this way and says what the socket tells:
its close alone, or that it opened, the traffic of the session and its close, as far as it has come.
`Conduct` adds what becomes of the frames.

Every series of occurrences divides (`Phase.lifespan_life`), one turn of the loop at a time
(`Lifespan.turn`). Nothing is assumed of the order in which things happen.

Results: `lifespan` says how any socket conducts itself, and that its open flag goes with what it
tells: the flag is up from before the socket tells that it opened until just before it tells its
close, both along a run (`Flagged`) and in the simulated world.
-/

namespace Intercom

/-! ## Occurrences by what they do -/

namespace Occurrence

/-- Whether it decides what becomes of an opening socket. -/
def decides : Occurrence → Bool
  | .handshake => true
  | .refusal _ => true
  | .command .shutdown _ => true
  | .command .release _ => true
  | _ => false

/-- Whether it ends an open socket. -/
def ends : Occurrence → Bool
  | .close _ => true
  | .readError _ => true
  | .endOfStream => true
  | .command .shutdown _ => true
  | .command .release _ => true
  | _ => false

/-- The text frame that comes in. -/
def text? : Occurrence → Option String
  | .text frame => some frame
  | _ => none

/-- What an open socket tells of it and stays open. -/
def traffic? : Occurrence → Option Notice
  | .text frame => some (.message frame)
  | .command (.send id _) (some failure) => some (.sendFailed id failure)
  | _ => none

/-- The frames that are taken during a session and can be written. -/
def written (session : List Occurrence) : List (RequestId × String) :=
  (session.filter fun occurrence => !occurrence.fails).filterMap frame?

/-- The frames that are taken during a session and cannot be written. -/
def unwritten (session : List Occurrence) : List (RequestId × String) :=
  (session.filter fails).filterMap frame?

end Occurrence

namespace Notice

/-- The text of a message. -/
def text? : Notice → Option String
  | .message text => some text
  | _ => none

/-- The request whose frame could not be written. -/
def unwritten? : Notice → Option RequestId
  | .sendFailed id _ => some id
  | _ => none

end Notice

/-! ## How a life divides -/

/-- `Lifespan occurrences session told phase`: the part of the occurrences that passes while the
socket is open is `session`, and over them all the socket tells `told` and gets as far as `phase`.
What happens after the end counts for nothing. -/
inductive Lifespan : List Occurrence → List Occurrence → List Notice → Phase → Prop where
  /-- Nothing has decided the opening. -/
  | waiting {before : List Occurrence} :
      (∀ occurrence ∈ before, occurrence.decides = false) →
      Lifespan before [] [] .opening
  /-- The socket ended before it opened. -/
  | refused {before rest : List Occurrence} {decision : Occurrence} (closing : Closing) :
      (∀ occurrence ∈ before, occurrence.decides = false) →
      decision.decides = true → decision ≠ .handshake →
      Lifespan (before ++ decision :: rest) [] [.closed closing] .ended
  /-- The socket is open. -/
  | live {before session : List Occurrence} :
      (∀ occurrence ∈ before, occurrence.decides = false) →
      (∀ occurrence ∈ session, occurrence.ends = false) →
      Lifespan (before ++ .handshake :: session) session
        (.opened :: session.filterMap Occurrence.traffic?) .live
  /-- The socket was open and has ended. -/
  | ended {before session rest : List Occurrence} {last : Occurrence} (closing : Closing) :
      (∀ occurrence ∈ before, occurrence.decides = false) →
      (∀ occurrence ∈ session, occurrence.ends = false) → last.ends = true →
      Lifespan (before ++ .handshake :: (session ++ last :: rest)) session
        (.opened :: session.filterMap Occurrence.traffic? ++ [.closed closing]) .ended

namespace Phase

variable {occurrence : Occurrence}

/-! ## One turn -/

theorem react_of_undecided (undecided : occurrence.decides = false) :
    Phase.opening.react occurrence = ⟨.opening, [], []⟩ := by
  cases occurrence with
  | handshake => cases undecided
  | refusal => cases undecided
  | command taken =>
      cases taken with
      | send => rfl
      | _ => cases undecided
  | _ => rfl

/-- An opening that is not decided by the handshake fails. -/
theorem react_of_decided (decided : occurrence.decides = true) (other : occurrence ≠ .handshake) :
    ∃ closing, Phase.opening.react occurrence = ending closing := by
  cases occurrence with
  | handshake => exact absurd rfl other
  | refusal => exact ⟨_, rfl⟩
  | command taken =>
      cases taken with
      | send => cases decided
      | _ => exact ⟨_, rfl⟩
  | _ => cases decided

theorem react_of_lasting (lasting : occurrence.ends = false) :
    Phase.live.react occurrence =
      ⟨.live, occurrence.traffic?.toList, (Occurrence.written [occurrence]).map Prod.snd⟩ := by
  cases occurrence with
  | command taken failure =>
      cases taken with
      | send => cases failure <;> rfl
      | _ => cases lasting
  | close => cases lasting
  | readError => cases lasting
  | endOfStream => cases lasting
  | _ => rfl

theorem react_of_end (ends : occurrence.ends = true) :
    ∃ closing, Phase.live.react occurrence = ending closing := by
  cases occurrence with
  | command taken =>
      cases taken with
      | send => cases ends
      | _ => exact ⟨_, rfl⟩
  | close => exact ⟨_, rfl⟩
  | readError => exact ⟨_, rfl⟩
  | endOfStream => exact ⟨_, rfl⟩
  | _ => cases ends

/-- A socket counts as open after a turn, unless it tells its close. -/
theorem isLive_of_told {phase : Phase} {notice : Notice}
    (told : notice ∈ (phase.react occurrence).notices) :
    (phase.react occurrence).phase.isLive = true ↔ ∀ closing, notice ≠ .closed closing := by
  unfold react ending at told ⊢
  split at told <;> simp_all [isLive]

end Phase

namespace Occurrence

theorem written_append (session others : List Occurrence) :
    written (session ++ others) = written session ++ written others := by
  unfold written
  rw [List.filter_append, List.filterMap_append]

theorem unshut_of_undecided {occurrence : Occurrence} (undecided : occurrence.decides = false) :
    occurrence.command? ≠ some .shutdown := by
  intro takes
  cases occurrence <;> cases takes
  cases undecided

theorem unshut_of_lasting {occurrence : Occurrence} (lasting : occurrence.ends = false) :
    occurrence.command? ≠ some .shutdown := by
  intro takes
  cases occurrence <;> cases takes
  cases lasting

/-- What an open socket tells of an occurrence is a message or a failure. -/
theorem traffic?_cases {occurrence : Occurrence} {notice : Notice}
    (told : occurrence.traffic? = some notice) :
    (∃ frame, notice = .message frame) ∨ ∃ id failure, notice = .sendFailed id failure := by
  unfold traffic? at told
  split at told
  · exact .inl ⟨_, (Option.some.inj told).symm⟩
  · exact .inr ⟨_, _, (Option.some.inj told).symm⟩
  · cases told

/-- The messages among the traffic are the text frames that come in. -/
theorem text?_traffic? (occurrence : Occurrence) :
    occurrence.traffic?.bind Notice.text? = occurrence.text? := by
  cases occurrence with
  | command taken failure =>
      cases taken with
      | send => cases failure <;> rfl
      | _ => rfl
  | _ => rfl

/-- The failures among the traffic are those of the frames that cannot be written. -/
theorem unwritten?_traffic? (occurrence : Occurrence) :
    occurrence.traffic?.bind Notice.unwritten? =
      if occurrence.fails then occurrence.frame?.map Prod.fst else none := by
  cases occurrence with
  | command taken failure =>
      cases taken with
      | send => cases failure <;> rfl
      | _ => cases failure <;> rfl
  | _ => rfl

theorem filterMap_text?_traffic? (session : List Occurrence) :
    (session.filterMap traffic?).filterMap Notice.text? = session.filterMap text? := by
  rw [List.filterMap_filterMap]
  exact congrArg (session.filterMap ·) (funext text?_traffic?)

theorem filterMap_unwritten?_traffic? (session : List Occurrence) :
    (session.filterMap traffic?).filterMap Notice.unwritten? =
      (unwritten session).map Prod.fst := by
  unfold unwritten
  rw [List.filterMap_filterMap, List.map_filterMap, List.filterMap_filter]
  exact congrArg (session.filterMap ·) (funext unwritten?_traffic?)

end Occurrence

/-- What is taken from a queue, if it does not include a command, comes before it. -/
theorem Command.ahead_of_not_mem {taken front back : List Command} {stop : Command}
    (queue : taken <+: front ++ stop :: back) (absent : stop ∉ taken) : taken <+: front := by
  rcases List.prefix_or_prefix_of_prefix queue (List.prefix_append front _) with
    ahead | ⟨more, rfl⟩
  · exact ahead
  · rw [List.prefix_append_right_inj] at queue
    cases more with
    | nil => simp
    | cons command more =>
        obtain ⟨rfl, _⟩ := List.cons_prefix_cons.mp queue
        exact absurd (by simp) absent

namespace Lifespan

variable {occurrences session : List Occurrence} {told : List Notice} {phase : Phase}

/-! ## A whole life -/

/-- The division goes on with each turn of the loop, and the session with what the turn writes. -/
theorem turn (span : Lifespan occurrences session told phase) (occurrence : Occurrence) :
    ∃ onward, Lifespan (occurrences ++ [occurrence]) onward
        (told ++ (phase.react occurrence).notices) (phase.react occurrence).phase ∧
      (Occurrence.written onward).map Prod.snd =
        (Occurrence.written session).map Prod.snd ++ (phase.react occurrence).written := by
  cases span with
  | waiting undecided =>
      cases decides : occurrence.decides with
      | false =>
          rw [Phase.react_of_undecided decides]
          have still : ∀ other ∈ occurrences ++ [occurrence], other.decides = false :=
            List.forall_mem_append.mpr ⟨undecided, List.forall_mem_singleton.mpr decides⟩
          exact ⟨[], .waiting still, rfl⟩
      | true =>
          by_cases shakes : occurrence = .handshake
          · subst shakes
            exact ⟨[], .live undecided (List.forall_mem_nil _), rfl⟩
          · obtain ⟨closing, ended⟩ := Phase.react_of_decided decides shakes
            rw [ended]
            exact ⟨[], .refused closing undecided decides shakes, rfl⟩
  | @refused before rest decision closing undecided decides other =>
      refine ⟨[], ?_, rfl⟩
      rw [List.append_assoc, List.cons_append]
      exact .refused closing undecided decides other
  | @live before session undecided lasting =>
      cases ends : occurrence.ends with
      | false =>
          have still : ∀ other ∈ session ++ [occurrence], other.ends = false :=
            List.forall_mem_append.mpr ⟨lasting, List.forall_mem_singleton.mpr ends⟩
          have traffic : (session ++ [occurrence]).filterMap Occurrence.traffic? =
              session.filterMap Occurrence.traffic? ++ occurrence.traffic?.toList := by
            cases tells : occurrence.traffic? <;> simp [tells]
          rw [Phase.react_of_lasting ends, List.append_assoc, List.cons_append, List.cons_append,
            ← traffic]
          exact ⟨session ++ [occurrence], .live undecided still,
            by rw [Occurrence.written_append, List.map_append]⟩
      | true =>
          obtain ⟨closing, ended⟩ := Phase.react_of_end ends
          rw [ended, List.append_assoc, List.cons_append]
          exact ⟨session, .ended closing undecided lasting ends, by simp [Phase.ending]⟩
  | @ended before session rest last closing undecided lasting ends =>
      have span : Lifespan (before ++ .handshake :: (session ++ last :: (rest ++ [occurrence])))
          session _ _ := .ended closing undecided lasting ends
      exact ⟨session, by simpa [Phase.react] using span, (List.append_nil _).symm⟩

/-- A socket counts as open if it has told that it opened and has not told its close. -/
theorem isLive_iff (span : Lifespan occurrences session told phase) :
    phase.isLive = true ↔ .opened ∈ told ∧ ∀ closing, .closed closing ∉ told := by
  cases span with
  | waiting => simp [Phase.isLive]
  | refused => simp [Phase.isLive]
  | live =>
      have unclosed : ∀ closing, .closed closing ∉ session.filterMap Occurrence.traffic? := by
        intro closing present
        obtain ⟨occurrence, _, told⟩ := List.mem_filterMap.mp present
        rcases Occurrence.traffic?_cases told with ⟨_, same⟩ | ⟨_, _, same⟩ <;> cases same
      simpa [Phase.isLive] using unclosed
  | ended closing =>
      have closes : .closed closing ∈
          .opened :: session.filterMap Occurrence.traffic? ++ [.closed closing] := by simp
      exact ⟨nofun, fun unclosed => absurd closes (unclosed.2 closing)⟩

theorem messages (span : Lifespan occurrences session told phase) :
    told.filterMap Notice.text? = session.filterMap Occurrence.text? := by
  cases span with
  | waiting => rfl
  | refused => rfl
  | live => exact Occurrence.filterMap_text?_traffic? session
  | ended closing =>
      rw [List.filterMap_append]
      exact (List.append_nil _).trans (Occurrence.filterMap_text?_traffic? session)

theorem failures (span : Lifespan occurrences session told phase) :
    told.filterMap Notice.unwritten? = (Occurrence.unwritten session).map Prod.fst := by
  cases span with
  | waiting => rfl
  | refused => rfl
  | live => exact Occurrence.filterMap_unwritten?_traffic? session
  | ended closing =>
      rw [List.filterMap_append]
      exact (List.append_nil _).trans (Occurrence.filterMap_unwritten?_traffic? session)

/-- No command to end is taken before the session or during it. -/
theorem unshut (span : Lifespan occurrences session told phase) :
    ∃ before rest, occurrences = before ++ session ++ rest ∧
      ∀ occurrence ∈ before ++ session, occurrence.command? ≠ some .shutdown := by
  have opened {before session : List Occurrence}
      (first : ∀ occurrence ∈ before, occurrence.decides = false)
      (second : ∀ occurrence ∈ session, occurrence.ends = false) :
      ∀ occurrence ∈ before ++ [.handshake] ++ session,
        occurrence.command? ≠ some .shutdown := by
    intro occurrence present
    simp only [List.mem_append, List.mem_singleton] at present
    rcases present with (earlier | rfl) | during
    · exact Occurrence.unshut_of_undecided (first occurrence earlier)
    · exact nofun
    · exact Occurrence.unshut_of_lasting (second occurrence during)
  cases span with
  | waiting first =>
      refine ⟨occurrences, [], by simp, fun occurrence present => ?_⟩
      exact Occurrence.unshut_of_undecided (first occurrence (by simpa using present))
  | @refused before rest decision _ first =>
      refine ⟨before, decision :: rest, by simp, fun occurrence present => ?_⟩
      exact Occurrence.unshut_of_undecided (first occurrence (by simpa using present))
  | @live before session first second =>
      exact ⟨before ++ [.handshake], [], by simp, opened first second⟩
  | @ended before session rest last _ first second =>
      exact ⟨before ++ [.handshake], last :: rest, by simp, opened first second⟩

/-- If the loop takes its commands from a queue, then the frames of the session are in the queue
before the first command to end. -/
theorem frames_ahead (span : Lifespan occurrences session told phase) {front back : List Command}
    (queue : occurrences.filterMap Occurrence.command? <+: front ++ .shutdown :: back) :
    (session.filterMap Occurrence.frame?).Sublist (front.filterMap Command.frame?) := by
  obtain ⟨before, rest, rfl, unshut⟩ := span.unshut
  have ahead : (before ++ session).filterMap Occurrence.command? <+: front := by
    rw [List.filterMap_append] at queue
    refine Command.ahead_of_not_mem ((List.prefix_append _ _).trans queue) fun present => ?_
    obtain ⟨occurrence, member, takes⟩ := List.mem_filterMap.mp present
    exact unshut occurrence member takes
  have during := (List.sublist_append_right before session).filterMap Occurrence.frame?
  have inFront := (ahead.filterMap Command.frame?).sublist
  rw [List.filterMap_filterMap] at inFront
  exact during.trans inFront

end Lifespan

/-! ## Conduct -/

/-- What any socket tells and writes over a series of occurrences, of which those in `session` pass
while it is open. -/
structure Conduct (occurrences session : List Occurrence) : Prop where
  /-- The socket tells its close alone, or that it opened, the traffic of the session and its close,
  as far as it has come, and nothing after its close. -/
  span : Lifespan occurrences session (Phase.opening.life occurrences).1
    (Phase.opening.life occurrences).2
  /-- The messages are the text frames that come in during the session, in order. -/
  messages : (Phase.opening.life occurrences).1.filterMap Notice.text? =
    session.filterMap Occurrence.text?
  /-- Of the frames that are taken during the session, those that cannot be written are reported,
  each once and under its own identifier, -/
  failures : (Phase.opening.life occurrences).1.filterMap Notice.unwritten? =
    (Occurrence.unwritten session).map Prod.fst
  /-- and all the others are written, and nothing else. -/
  output : Phase.opening.output occurrences = (Occurrence.written session).map Prod.snd
  /-- No frame that is queued behind a command to end is written. -/
  behind : ∀ front back : List Command,
    occurrences.filterMap Occurrence.command? <+: front ++ .shutdown :: back →
    (Phase.opening.output occurrences).Sublist ((front.filterMap Command.frame?).map Prod.snd)

namespace Phase

/-- However a socket fares, its life divides, and it writes what can be written of its session. -/
theorem lifespan_life (occurrences : List Occurrence) :
    ∃ session, Lifespan occurrences session (Phase.opening.life occurrences).1
        (Phase.opening.life occurrences).2 ∧
      Phase.opening.output occurrences = (Occurrence.written session).map Prod.snd := by
  induction occurrences using List.reverseRecOn with
  | nil => exact ⟨[], .waiting (List.forall_mem_nil _), rfl⟩
  | append_singleton occurrences occurrence ih =>
      obtain ⟨session, span, output⟩ := ih
      obtain ⟨onward, further, written⟩ := span.turn occurrence
      rw [life_append, output_append, output]
      exact ⟨onward, further, written.symm⟩

theorem conduct (occurrences : List Occurrence) : ∃ session, Conduct occurrences session := by
  obtain ⟨session, span, output⟩ := lifespan_life occurrences
  refine ⟨session, span, span.messages, span.failures, output, fun front back queue => ?_⟩
  have written : (Occurrence.written session).Sublist (session.filterMap Occurrence.frame?) :=
    List.filter_sublist.filterMap _
  rw [output]
  exact (written.trans (span.frames_ahead queue)).map _

end Phase

/-! ## The open flag -/

/-- The open flag of a socket along a run. -/
structure Flagged (past : List Moment) (scene : Scene) (lives : Lives) (generation : Nat) :
    Prop where
  /-- The channel hears what the loop tells, and the loop takes its commands from the queue. -/
  told : (past.map Moment.event).filterMap (Event.told? generation) = lives.told generation
  taken : lives.taken generation <+: scene.channel.commands generation
  /-- The flag is up if the socket has told that it opened and has not told its close. -/
  isOpen : scene.channel.isOpen generation = true ↔
    .opened ∈ lives.told generation ∧ ∀ closing, .closed closing ∉ lives.told generation
  /-- It is up already when the channel takes in that the socket opened, stays up for whatever else
  the socket tells, and is down when the channel takes in the close. -/
  found : ∀ moment ∈ past, ∀ notice, moment.event = .socket generation notice →
    (moment.found.isOpen generation = true ↔ ∀ closing, notice ≠ .closed closing)

namespace Lived

variable {settings : Settings} {draw : Nat → Nat} {scene : Scene} {past : List Moment}
  {lives : Lives}

/-- A socket's flag is as it will be when the notice at hand has been taken in. -/
theorem found (lived : Lived (.start settings draw) past scene lives) {moment : Moment}
    (present : moment ∈ past) {generation : Nat} {notice : Notice}
    (tells : moment.event = .socket generation notice) :
    moment.found.isOpen generation = true ↔ ∀ closing, notice ≠ .closed closing := by
  induction lived with
  | start => exact absurd present List.not_mem_nil
  | event _ _ silent ih =>
      rcases List.mem_append.mp present with earlier | new
      · exact ih earlier
      · rw [List.mem_singleton.mp new] at tells
        cases tells
        cases silent
  | silent _ _ _ ih => exact ih present
  | @tells past scene lives speaker occurrence other lived turns told _ ih =>
      rcases List.mem_append.mp present with earlier | new
      · exact ih earlier
      · rw [List.mem_singleton.mp new] at tells ⊢
        cases tells
        have hears := Phase.hear_react (lives.phase generation) occurrence
        change (lives.reaction generation occurrence).notices.foldlM _ _ = _ at hears
        rw [told, List.foldlM_cons, Option.bind_eq_bind, Option.bind_eq_some_iff] at hears
        obtain ⟨after, hears, last⟩ := hears
        obtain rfl : after = _ := Option.some.inj last
        -- the flag goes with the notice, and so does the phase after the turn
        have flag := Channel.isOpen_reflect turns.spawned notice generation
        rw [if_pos rfl, lived.isOpen, ← Phase.isLive_of_hear hears] at flag
        show (scene.channel.reflect generation notice).isOpen generation = true ↔ _
        rw [flag]
        exact Phase.isLive_of_told (told ▸ List.mem_singleton_self notice)

theorem flagged (lived : Lived (.start settings draw) past scene lives) (generation : Nat) :
    Flagged past scene lives generation where
  told := lived.told generation
  taken := lived.upheld.taken generation
  isOpen := by
    obtain ⟨_, span, _⟩ := Phase.lifespan_life (lives generation)
    rw [lived.isOpen]
    exact span.isLive_iff
  found := fun _ present _ tells => lived.found present tells

end Lived

namespace Simulation

variable {world : Simulation} {loop : SocketLoop} {occurrence : Occurrence} {notice : Notice}

/-- In the simulated world a turn sets the flag as far as the socket gets. -/
theorem isOpen_turnLoop (spawned : (world.channel.handle? loop.generation).isSome = true) :
    (world.turnLoop loop occurrence).channel.isOpen loop.generation =
      (loop.phase.react occurrence).phase.isLive := by
  have flag := Channel.isOpen_setOpen spawned (loop.phase.react occurrence).phase.isLive
    loop.generation
  rw [if_pos rfl] at flag
  cases occurrence <;> exact flag

/-- What waits for the channel after a turn is what the turn tells. -/
theorem told_of_turnLoop
    (waits : .receive loop.generation notice ∈ (world.turnLoop loop occurrence).agenda) :
    notice ∈ (loop.phase.react occurrence).notices := by
  have agenda : (world.turnLoop loop occurrence).agenda =
      if world.dropped then []
      else (loop.phase.react occurrence).notices.map (.receive loop.generation) := by
    cases occurrence <;> rfl
  rw [agenda] at waits
  split at waits
  · exact absurd waits List.not_mem_nil
  · obtain ⟨told, present, same⟩ := List.mem_map.mp waits
    cases same
    exact present

end Simulation

/-- Whatever happens to a socket, in whatever order: it tells its close alone, or that it opened,
the traffic while it is open and its close; each frame that it takes while it is open is written or
reported; and nothing that is queued behind a command to end is written. Its flag is up from before
it tells that it opened until just before it tells its close, and at no other time. -/
theorem lifespan :
    (∀ occurrences, ∃ session, Conduct occurrences session) ∧
      (∀ settings draw past scene lives, Lived (.start settings draw) past scene lives →
        ∀ generation, Flagged past scene lives generation) ∧
      ∀ (world : Simulation) (loop : SocketLoop) (occurrence : Occurrence),
        (world.channel.handle? loop.generation).isSome = true →
        (world.turnLoop loop occurrence).channel.isOpen loop.generation =
            (loop.phase.react occurrence).phase.isLive ∧
          ∀ notice, .receive loop.generation notice ∈ (world.turnLoop loop occurrence).agenda →
            ((world.turnLoop loop occurrence).channel.isOpen loop.generation = true ↔
              ∀ closing, notice ≠ .closed closing) := by
  refine ⟨Phase.conduct, fun _ _ _ _ _ lived => lived.flagged, ?_⟩
  intro world loop occurrence spawned
  have flag := @Simulation.isOpen_turnLoop world loop occurrence spawned
  refine ⟨flag, fun notice waits => ?_⟩
  rw [flag]
  exact Phase.isLive_of_told (Simulation.told_of_turnLoop waits)

/-- Of two requests on an open socket one is written and one is not, and a message comes in before
the client disconnects. -/
theorem lifespan_noise : ∃ past scene lives,
    Lived (.start default fun _ => 0) past scene lives ∧
      lives.told 1 = [.opened, .sendFailed ⟨2⟩ (.socket .connectionClosed), .message "noise",
        .closed (.coded 1000 "closed by client")] ∧
      lives.received 1 = [(ringFrame ⟨1⟩).2] ∧ (∃ session, Conduct (lives 1) session) ∧
      Flagged past scene lives 1 := by
  have spawned := (Lived.start : Lived (.start default fun _ => 0) _ _ _).events
    [.call none .connect] rfl (by decide)
  have opened := spawned.tells
    (show Scene.Turns _ _ 1 .handshake from ⟨rfl, by decide, nofun⟩) rfl rfl
  have handed := opened.events [.call none ring, .work, .call none ring, .work] rfl (by decide)
  have wrote := handed.silent
    (show Scene.Turns _ _ 1 (.command (.send ⟨1⟩ (ringFrame ⟨1⟩).2) none) from
      ⟨rfl, by decide, fun _ same => Option.some.inj same ▸ rfl⟩) rfl
  have failed := wrote.tells
    (show Scene.Turns _ _ 1
        (.command (.send ⟨2⟩ (ringFrame ⟨2⟩).2) (some (.socket .connectionClosed))) from
      ⟨rfl, by decide, fun _ same => Option.some.inj same ▸ rfl⟩) rfl rfl
  have came := failed.tells
    (show Scene.Turns _ _ 1 (.text "noise") from ⟨rfl, by decide, nofun⟩) rfl rfl
  have left := came.events [.call none .disconnect, .work] rfl (by decide)
  have lived := left.tells
    (show Scene.Turns _ _ 1 (.command .shutdown none) from
      ⟨rfl, by decide, fun _ same => Option.some.inj same ▸ rfl⟩) rfl rfl
  exact ⟨_, _, _, lived, rfl, rfl, lifespan.1 _, lifespan.2.1 _ _ _ _ _ lived 1⟩

end Intercom
