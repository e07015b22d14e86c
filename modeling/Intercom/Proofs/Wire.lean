import Intercom.Proofs.Contract
import Intercom.Proofs.Queue

/-!
# What is written to sockets

The loop of a socket takes commands from its queue, one after the other, and writes the frames among
them until it ends; a write may fail. `Lived` is a run in which everything that sockets tell comes
from their loops, together with what has happened to each socket. Nothing is said about when a loop
has its turn or what else happens to its socket, so commands may be left in the queue when the loop
ends.

Results: a socket that is still to open is handed no frame (`LoopsUpheld.early`), so that its loop
discards none, and the device receives what the loop takes, apart from failed writes
(`LoopsUpheld.received`). `sent_in_order` puts this together with what the queues hold.
-/

namespace Intercom

/-! ## Loops -/

namespace Occurrence

/-- The command that is taken. -/
def command? : Occurrence → Option Command
  | .command taken _ => some taken
  | _ => none

/-- The frame that is taken. -/
def frame? (occurrence : Occurrence) : Option (RequestId × String) :=
  occurrence.command?.bind Command.frame?

/-- Whether a frame is taken and cannot be written. -/
def fails : Occurrence → Bool
  | .command (.send _ _) (some _) => true
  | _ => false

end Occurrence

namespace Phase

/-- What is written to a socket over a series of occurrences. -/
def output : Phase → List Occurrence → List String
  | _, [] => []
  | phase, occurrence :: rest =>
      (phase.react occurrence).written ++ (phase.react occurrence).phase.output rest

end Phase

/-- What has happened to each socket. -/
def Lives :=
  Nat → List Occurrence

namespace Lives

/-- How far a socket is. -/
def phase (lives : Lives) (generation : Nat) : Phase :=
  (Phase.opening.life (lives generation)).2

/-- What a socket has told. -/
def told (lives : Lives) (generation : Nat) : List Notice :=
  (Phase.opening.life (lives generation)).1

/-- The commands that the loop of a socket has taken. -/
def taken (lives : Lives) (generation : Nat) : List Command :=
  (lives generation).filterMap Occurrence.command?

/-- The frames among them. -/
def drawn (lives : Lives) (generation : Nat) : List (RequestId × String) :=
  (lives generation).filterMap Occurrence.frame?

/-- The frames among these that could be written. -/
def written (lives : Lives) (generation : Nat) : List (RequestId × String) :=
  ((lives generation).filter fun occurrence => !occurrence.fails).filterMap Occurrence.frame?

/-- What the device has received from a socket. -/
def received (lives : Lives) (generation : Nat) : List String :=
  Phase.opening.output (lives generation)

/-- What happens to a socket now. -/
def reaction (lives : Lives) (generation : Nat) (occurrence : Occurrence) : Reaction :=
  (lives.phase generation).react occurrence

/-- One more occurrence in the life of a socket. -/
def add (lives : Lives) (generation : Nat) (occurrence : Occurrence) : Lives :=
  fun other => if other = generation then lives other ++ [occurrence] else lives other

end Lives

/-- If a command is taken, it is the next one in the queue of the socket. -/
def Channel.Serves (channel : Channel) (lives : Lives) (generation : Nat)
    (occurrence : Occurrence) : Prop :=
  ∀ command, occurrence.command? = some command →
    (channel.commands generation)[(lives.taken generation).length]? = some command

/-- Something may happen to a socket if it was spawned and its loop has not ended. -/
structure Scene.Turns (scene : Scene) (lives : Lives) (generation : Nat)
    (occurrence : Occurrence) : Prop where
  spawned : (scene.channel.handle? generation).isSome = true
  lasting : lives.phase generation ≠ .ended
  next : scene.channel.Serves lives generation occurrence

/-- `Lived first past scene lives`: a run in which each socket tells what its loop makes it tell,
and nothing else, with what has happened to each socket. A turn tells one notice at most. -/
inductive Lived (first : Scene) : List Moment → Scene → Lives → Prop where
  | start : Lived first [] first fun _ => []
  | event {past : List Moment} {scene : Scene} {lives : Lives} {event : Event} :
      Lived first past scene lives → scene.allows event = true → event.speaker? = none →
      Lived first (past ++ [⟨scene, event⟩]) (scene.after event) lives
  | silent {past : List Moment} {scene : Scene} {lives : Lives} {generation : Nat}
      {occurrence : Occurrence} :
      Lived first past scene lives → scene.Turns lives generation occurrence →
      (lives.reaction generation occurrence).notices = [] →
      Lived first past scene (lives.add generation occurrence)
  | tells {past : List Moment} {scene : Scene} {lives : Lives} {generation : Nat}
      {occurrence : Occurrence} {notice : Notice} :
      Lived first past scene lives → scene.Turns lives generation occurrence →
      (lives.reaction generation occurrence).notices = [notice] →
      scene.allows (.socket generation notice) = true →
      Lived first (past ++ [⟨scene, .socket generation notice⟩])
        (scene.after (.socket generation notice)) (lives.add generation occurrence)

/-! ## One turn -/

namespace Phase

theorem life_append (phase : Phase) (occurrences : List Occurrence) (occurrence : Occurrence) :
    phase.life (occurrences ++ [occurrence]) =
      ((phase.life occurrences).1 ++ ((phase.life occurrences).2.react occurrence).notices,
        ((phase.life occurrences).2.react occurrence).phase) := by
  induction occurrences generalizing phase with
  | nil => simp [life]
  | cons first rest ih => simp [life, ih]

theorem output_append (phase : Phase) (occurrences : List Occurrence) (occurrence : Occurrence) :
    phase.output (occurrences ++ [occurrence]) =
      phase.output occurrences ++ ((phase.life occurrences).2.react occurrence).written := by
  induction occurrences generalizing phase with
  | nil => simp [output, life]
  | cons first rest ih => simp [output, life, ih]

/-- No turn leads back to the time before a socket opens. -/
theorem opening_of_react {phase : Phase} {occurrence : Occurrence}
    (opening : (phase.react occurrence).phase = .opening) : phase = .opening := by
  unfold react ending at opening
  split at opening <;> first | rfl | cases opening

/-- A live socket writes the frame that it takes, unless writing fails, and nothing else. -/
theorem written_of_live (occurrence : Occurrence) :
    (Phase.live.react occurrence).written =
      (if occurrence.fails then [] else occurrence.frame?.toList).map Prod.snd := by
  cases occurrence with
  | command taken failure =>
      cases taken with
      | send => cases failure <;> rfl
      | _ => rfl
  | _ => rfl

/-- Only a live socket writes. -/
theorem written_of_not_live {phase : Phase} (other : phase ≠ .live) (occurrence : Occurrence) :
    (phase.react occurrence).written = [] := by
  cases phase with
  | opening =>
      cases occurrence with
      | command taken => cases taken <;> rfl
      | _ => rfl
  | live => exact absurd rfl other
  | ended => rfl

end Phase

namespace Lives

theorem add_same (lives : Lives) (generation : Nat) (occurrence : Occurrence) :
    lives.add generation occurrence generation = lives generation ++ [occurrence] :=
  if_pos rfl

theorem add_other (lives : Lives) (occurrence : Occurrence) {generation other : Nat}
    (different : other ≠ generation) : lives.add generation occurrence other = lives other :=
  if_neg different

variable (lives : Lives) (generation other : Nat) (occurrence : Occurrence)

theorem phase_add : (lives.add generation occurrence).phase other =
    if other = generation then (lives.reaction generation occurrence).phase
    else lives.phase other := by
  unfold phase
  by_cases same : other = generation
  · subst same
    rw [add_same, Phase.life_append, if_pos rfl]
    rfl
  · rw [add_other _ _ same, if_neg same]

theorem told_add : (lives.add generation occurrence).told other = lives.told other ++
    if other = generation then (lives.reaction generation occurrence).notices else [] := by
  unfold told
  by_cases same : other = generation
  · subst same
    rw [add_same, Phase.life_append, if_pos rfl]
    rfl
  · rw [add_other _ _ same, if_neg same, List.append_nil]

theorem taken_add : (lives.add generation occurrence).taken other = lives.taken other ++
    if other = generation then occurrence.command?.toList else [] := by
  unfold taken
  by_cases same : other = generation
  · subst same
    rw [add_same, List.filterMap_append, if_pos rfl]
    cases takes : occurrence.command? <;> simp [takes]
  · rw [add_other _ _ same, if_neg same, List.append_nil]

theorem written_add : (lives.add generation occurrence).written other = lives.written other ++
    if other = generation then (if occurrence.fails then [] else occurrence.frame?.toList)
    else [] := by
  unfold written
  by_cases same : other = generation
  · subst same
    rw [add_same, List.filter_append, List.filterMap_append, if_pos rfl]
    cases fails : occurrence.fails <;> cases framed : occurrence.frame? <;> simp [fails, framed]
  · rw [add_other _ _ same, if_neg same, List.append_nil]

theorem received_add : (lives.add generation occurrence).received other = lives.received other ++
    if other = generation then (lives.reaction generation occurrence).written else [] := by
  unfold received
  by_cases same : other = generation
  · subst same
    rw [add_same, Phase.output_append, if_pos rfl]
    rfl
  · rw [add_other _ _ same, if_neg same, List.append_nil]

/-- What a socket has told is what its channel has heard from it, if the loops alone tell. -/
theorem phaseOf?_of_told {lives : Lives} {generation : Nat} {past : List Moment}
    (told : (past.map Moment.event).filterMap (Event.told? generation) = lives.told generation) :
    phaseOf? generation (past.map Moment.event) = some (lives.phase generation) := by
  rw [phaseOf?, told]
  exact Phase.hear_life .opening (lives generation)

end Lives

/-! ## The loops along a run -/

/-- What holds of the loops all along a run. -/
structure LoopsUpheld (scene : Scene) (lives : Lives) : Prop where
  /-- A loop takes commands in the order of the queue. -/
  taken : ∀ generation, lives.taken generation <+: scene.channel.commands generation
  /-- A socket that is still to open is handed no frame. -/
  early : ∀ generation, lives.phase generation = .opening → scene.channel.sent generation = []
  /-- The device receives what was taken, apart from failed writes. -/
  received : ∀ generation, lives.received generation = (lives.written generation).map Prod.snd

namespace LoopsUpheld

variable {settings : Settings} {draw : Nat → Nat} {scene : Scene} {lives : Lives}
  {generation : Nat} {occurrence : Occurrence}

theorem start : LoopsUpheld (.start settings draw) fun _ => [] where
  taken := fun _ => List.nil_prefix
  early := fun _ _ => rfl
  received := fun _ => rfl

/-- Queues only grow, and frames are handed to live sockets only. -/
theorem after (upheld : LoopsUpheld scene lives)
    (flags : ∀ generation,
      scene.channel.isOpen generation = (lives.phase generation).isLive) (event : Event) :
    LoopsUpheld (scene.after event) lives where
  taken := fun generation => by
    obtain ⟨commands, joined, _⟩ := (Moment.mk scene event).hands generation
    exact (upheld.taken generation).trans (joined ▸ List.prefix_append _ commands)
  early := fun generation opening => by
    have handed := (Moment.mk scene event).sent_after generation
    have nothing : (Moment.mk scene event).effect.frames generation = [] := by
      cases sends : (Moment.mk scene event).effect with
      | send owner request =>
          refine if_neg fun same => ?_
          have isOpen := (Moment.send_of_effect sends).2
          rw [same, flags, opening] at isOpen
          cases isOpen
      | _ => rfl
    rw [nothing, List.append_nil] at handed
    exact handed.trans (upheld.early generation opening)
  received := upheld.received

/-- A frame that a loop takes was handed to its socket. -/
theorem sent_of_next (next : scene.channel.Serves lives generation occurrence)
    {entry : RequestId × String} (framed : occurrence.frame? = some entry) :
    entry ∈ scene.channel.sent generation := by
  obtain ⟨command, takes, carried⟩ := Option.bind_eq_some_iff.mp framed
  exact List.mem_filterMap.mpr ⟨command, List.mem_of_getElem? (next command takes), carried⟩

/-- What a turn writes is the frame that it takes, unless writing fails. -/
theorem written (upheld : LoopsUpheld scene lives) (lasting : lives.phase generation ≠ .ended)
    (next : scene.channel.Serves lives generation occurrence) :
    (lives.reaction generation occurrence).written =
      (if occurrence.fails then [] else occurrence.frame?.toList).map Prod.snd := by
  unfold Lives.reaction
  cases phase : lives.phase generation with
  | opening =>
      -- no frame is in the queue yet that could be taken and dropped
      have unframed : occurrence.frame? = none := by
        refine Option.eq_none_iff_forall_ne_some.mpr fun entry framed => ?_
        have handed := sent_of_next next framed
        rw [upheld.early generation phase] at handed
        exact absurd handed List.not_mem_nil
      rw [Phase.written_of_not_live (by decide), unframed]
      simp
  | live => exact Phase.written_of_live occurrence
  | ended => exact absurd phase lasting

/-- A command that is next in the queue comes after those that were taken. -/
theorem taken_next (upheld : LoopsUpheld scene lives)
    (next : scene.channel.Serves lives generation occurrence) :
    lives.taken generation ++ occurrence.command?.toList <+:
      scene.channel.commands generation := by
  cases takes : occurrence.command? with
  | none => simpa using upheld.taken generation
  | some command =>
      obtain ⟨rest, queue⟩ := upheld.taken generation
      have first := next command takes
      rw [← queue, List.getElem?_append_right (Nat.le_refl _), Nat.sub_self,
        ← List.head?_eq_getElem?] at first
      obtain ⟨later, rfl⟩ := List.head?_eq_some_iff.mp first
      exact ⟨later, by rw [← queue, List.append_assoc]; rfl⟩

/-- A loop goes on through its queue. -/
theorem turn (upheld : LoopsUpheld scene lives) (lasting : lives.phase generation ≠ .ended)
    (next : scene.channel.Serves lives generation occurrence) :
    LoopsUpheld scene (lives.add generation occurrence) where
  taken := fun other => by
    rw [Lives.taken_add]
    split
    · next same => exact same ▸ upheld.taken_next next
    · simpa using upheld.taken other
  early := fun other opening => by
    refine upheld.early other ?_
    rw [Lives.phase_add] at opening
    split at opening
    · next same => exact same ▸ Phase.opening_of_react opening
    · exact opening
  received := fun other => by
    rw [Lives.received_add, Lives.written_add, List.map_append, upheld.received other]
    split
    · rw [upheld.written lasting next]
    · rfl

end LoopsUpheld

/-- A command that is next in a queue stays next. -/
theorem Channel.Serves.after {scene : Scene} {lives : Lives} {generation : Nat}
    {occurrence : Occurrence} (next : scene.channel.Serves lives generation occurrence)
    (event : Event) : (scene.after event).channel.Serves lives generation occurrence := by
  intro command takes
  obtain ⟨commands, joined, _⟩ := (Moment.mk scene event).hands generation
  have queue : (scene.after event).channel.commands generation =
      scene.channel.commands generation ++ commands := joined
  have first := next command takes
  rw [queue, List.getElem?_append_left (List.getElem?_eq_some_iff.mp first).1]
  exact first

namespace Lived

variable {settings : Settings} {draw : Nat → Nat} {first scene : Scene} {past : List Moment}
  {lives : Lives} {generation : Nat}

theorem run (lived : Lived first past scene lives) : Run first past scene := by
  induction lived with
  | start => exact .start
  | event _ allowed _ ih => exact ih.step allowed
  | silent _ _ _ ih => exact ih
  | tells _ _ _ allowed ih => exact ih.step allowed

/-- A channel hears what the loops tell. -/
theorem told (lived : Lived first past scene lives) (generation : Nat) :
    (past.map Moment.event).filterMap (Event.told? generation) = lives.told generation := by
  induction lived with
  | start => rfl
  | @event past scene lives event _ _ silent ih =>
      have untold : event.told? generation = none := by
        cases event with
        | socket => cases silent
        | _ => rfl
      simp [ih, untold]
  | silent _ _ nothing ih => simp [Lives.told_add, nothing, ih]
  | @tells past scene lives speaker occurrence notice _ _ told _ ih =>
      rw [Lives.told_add, told, List.map_append, List.filterMap_append, ih]
      by_cases same : generation = speaker
      · simp [Event.told?, same]
      · simp [Event.told?, same, Ne.symm same]

/-- A socket is open exactly while its loop is live. -/
theorem isOpen (lived : Lived (.start settings draw) past scene lives) (generation : Nat) :
    scene.channel.isOpen generation = (lives.phase generation).isLive :=
  lived.run.isOpen_of_phase (Lives.phaseOf?_of_told (lived.told generation))

theorem upheld (lived : Lived (.start settings draw) past scene lives) :
    LoopsUpheld scene lives := by
  induction lived with
  | start => exact .start
  | @event _ _ _ event lived _ _ ih => exact ih.after lived.isOpen event
  | silent _ turns _ ih => exact ih.turn turns.lasting turns.next
  | tells lived turns _ _ ih =>
      exact (ih.after lived.isOpen _).turn turns.lasting (turns.next.after _)

/-- The frames that a loop takes are the first ones of its queue. -/
theorem drawn (lived : Lived (.start settings draw) past scene lives) (generation : Nat) :
    lives.drawn generation <+: scene.channel.sent generation := by
  have taken := (lived.upheld.taken generation).filterMap Command.frame?
  unfold Lives.taken at taken
  rwa [List.filterMap_filterMap] at taken

/-- The client and the alarms may go on for a while. -/
theorem events {middle : Scene} {all : List Moment} (lived : Lived first past middle lives)
    (events : List Event) (played : middle.play past events = some (all, scene))
    (silent : ∀ event ∈ events, event.speaker? = none) : Lived first all scene lives := by
  induction events generalizing past middle with
  | nil =>
      simp only [Scene.play, Option.some.injEq, Prod.mk.injEq] at played
      obtain ⟨rfl, rfl⟩ := played
      exact lived
  | cons event events ih =>
      unfold Scene.play at played
      split at played
      · next allowed =>
          exact ih (lived.event allowed (silent event List.mem_cons_self)) played fun event later =>
            silent event (List.mem_cons_of_mem _ later)
      · cases played

end Lived

/-! ## On the wire -/

/-- What the queues of the sockets hold. -/
structure HandedOnce (past : List Moment) (scene : Scene) : Prop where
  /-- The frames in a queue, with the one at hand, are those of the requests that were made while
  the socket was owned and open. -/
  frames : ∀ generation, scene.channel.sent generation ++ scene.unsent generation =
    past.filterMap (Moment.frame? generation)
  /-- No frame is at hand between calls and while a callback runs. -/
  idle : scene.free = true → ∀ generation, scene.unsent generation = []
  /-- Identifiers grow along a queue. -/
  ordered : ∀ generation, (scene.channel.sent generation).Pairwise fun first second =>
    first.1.value < second.1.value
  /-- No request is in two queues. -/
  single : ∀ generation other, ∀ entry ∈ scene.channel.sent generation,
    ∀ again ∈ scene.channel.sent other, entry.1 = again.1 → generation = other
  /-- A request that was made while no open socket was owned is in no queue. -/
  lost : ∀ moment ∈ past, ∀ issue, moment.issue? = some issue →
    (∀ generation, moment.scene.channel.link.socket = some generation →
      moment.scene.channel.isOpen generation = false) →
    ∀ generation, ∀ entry ∈ scene.channel.sent generation, entry.1 ≠ issue.id

namespace Scene

/-- A request is handed over before a callback goes on. -/
theorem unsent_of_free (scene : Scene) (isFree : scene.free = true) (generation : Nat) :
    scene.unsent generation = [] := by
  unfold Scene.free at isFree
  unfold Scene.unsent
  split
  · next head =>
      rw [head] at isFree
      cases isFree
  · rfl

end Scene

namespace Run

variable {settings : Settings} {draw : Nat → Nat} {past : List Moment} {scene : Scene}

theorem handedOnce (run : Run (.start settings draw) past scene)
    (few : (issues past).length < UInt64.size) : HandedOnce past scene where
  frames := run.sent
  idle := scene.unsent_of_free
  ordered := run.sent_ordered few
  single := fun generation other entry handed again twice same => by
    -- both sockets were owned when the request was made
    obtain ⟨moment, present, framed⟩ := run.moment_of_sent handed
    obtain ⟨⟨issue, issued, named⟩, owned, _⟩ := Moment.issue_of_frame framed
    have owns := (run.owned_of_sent few twice present issued (named.trans same)).1
    exact Option.some.inj (owned.symm.trans owns)
  lost := fun moment present issue issued closed generation entry handed same => by
    obtain ⟨owned, isOpen⟩ := run.owned_of_sent few handed present issued same.symm
    rw [closed generation owned] at isOpen
    cases isOpen

end Run

/-- Each frame is handed to one socket at most and once at most, in the order of the requests, and
what the device receives from a socket comes from its queue in the same order. -/
theorem sent_in_order {settings : Settings} {draw : Nat → Nat} {past : List Moment} {scene : Scene}
    (run : Run (.start settings draw) past scene) (few : (issues past).length < UInt64.size) :
    HandedOnce past scene ∧
      ∀ lives, Lived (.start settings draw) past scene lives → ∀ generation,
        lives.drawn generation <+: scene.channel.sent generation ∧
          (lives.written generation).Sublist (lives.drawn generation) ∧
          lives.received generation = (lives.written generation).map Prod.snd := by
  refine ⟨run.handedOnce few, fun lives lived generation => ?_⟩
  exact ⟨lived.drawn generation, List.filter_sublist.filterMap _,
    lived.upheld.received generation⟩

/-- A request without data. -/
def ring : Call :=
  .request "ring" none none

/-- Its frame. -/
def ringFrame (id : RequestId) : RequestId × String :=
  (id, (Request.make id "ring" none).text)

/-- One request is made before the first socket opens, two while it is open, of which one is
written, and one before the second socket opens. -/
theorem sent_in_order_ring : ∃ past scene lives,
    Lived (.start default fun _ => 0) past scene lives ∧ (issues past).length = 4 ∧
      scene.channel.sent 1 = [ringFrame ⟨2⟩, ringFrame ⟨3⟩] ∧ scene.channel.sent 2 = [] ∧
      lives.received 1 = [(ringFrame ⟨2⟩).2] ∧ HandedOnce past scene ∧ ∀ generation,
        lives.drawn generation <+: scene.channel.sent generation ∧
          (lives.written generation).Sublist (lives.drawn generation) ∧
          lives.received generation = (lives.written generation).map Prod.snd := by
  have asked := (Lived.start : Lived (.start default fun _ => 0) _ _ _).events
    [.call none .connect, .call none ring, .work] rfl (by decide)
  have opened := asked.tells
    (show Scene.Turns _ _ 1 .handshake from ⟨rfl, by decide, nofun⟩) rfl rfl
  have handed := opened.events [.call none ring, .work, .call none ring, .work] rfl (by decide)
  have wrote := handed.silent
    (show Scene.Turns _ _ 1 (.command (.send ⟨2⟩ (ringFrame ⟨2⟩).2) none) from
      ⟨rfl, by decide, fun _ same => Option.some.inj same ▸ rfl⟩) rfl
  have lived := wrote.events
    [.call none .disconnect, .work, .call none .connect, .call none ring, .work] rfl (by decide)
  refine ⟨_, _, _, lived, rfl, rfl, rfl, rfl, ?_⟩
  have inOrder := sent_in_order lived.run (show 4 < UInt64.size by decide)
  exact ⟨inOrder.1, inOrder.2 _ lived⟩

end Intercom
