import Intercom.Proofs.Link
import Intercom.Proofs.Origin
import Intercom.Socket

/-!
# Runs in which sockets keep their contract

Of every socket a channel may expect that it opens before it tells messages, and that its close is
the last that it tells. `Lawful` says so for each socket of a run, and that nobody tells anything in
a socket's place. A released socket may still tell messages until it closes.

Results: the loop of a socket keeps the contract, whatever happens to the socket
(`Phase.hear_life`). In a lawful run a socket is open exactly while it is live
(`Run.isOpen_of_phase`), and a push is acted on while the socket that told it is open
(`Run.open_of_dispatch`).
-/

namespace Intercom

/-! ## The contract -/

namespace Phase

/-- The phase of a socket that has told a notice, if the notice keeps the contract. -/
def hear? : Phase → Notice → Option Phase
  | phase, .sendFailed _ _ => some phase
  | .opening, .opened => some .live
  | .opening, .closed _ => some .ended
  | .live, .opened => some .live
  | .live, .message _ => some .live
  | .live, .closed _ => some .ended
  | _, _ => none

/-- What a turn of a socket's loop tells is in order. -/
theorem hear_react (phase : Phase) (occurrence : Occurrence) :
    (phase.react occurrence).notices.foldlM hear? phase = some (phase.react occurrence).phase := by
  unfold react
  split <;> rfl

/-- What a socket tells over a series of occurrences, and how far it is then. -/
def life : Phase → List Occurrence → List Notice × Phase
  | phase, [] => ([], phase)
  | phase, occurrence :: rest =>
      let (notices, last) := (phase.react occurrence).phase.life rest
      ((phase.react occurrence).notices ++ notices, last)

/-- What a socket tells over its life is in order. -/
theorem hear_life (phase : Phase) (occurrences : List Occurrence) :
    (phase.life occurrences).1.foldlM hear? phase = some (phase.life occurrences).2 := by
  induction occurrences generalizing phase with
  | nil => rfl
  | cons occurrence rest ih =>
      simp only [life]
      rw [List.foldlM_append, hear_react]
      exact ih _

/-- A socket that has told a notice is live if the open flag that goes with the notice says so. -/
theorem isLive_of_hear {before after : Phase} {notice : Notice}
    (told : before.hear? notice = some after) :
    after.isLive = notice.flag?.getD before.isLive := by
  cases before <;> cases notice <;> cases told <;> rfl

/-- Only a live socket tells a message, and stays live. -/
theorem live_of_message {before after : Phase} {text : String}
    (told : before.hear? (.message text) = some after) : before = .live ∧ after = .live := by
  cases before <;> cases told
  exact ⟨rfl, rfl⟩

end Phase

/-- How far the socket of a generation is, by what it has told. There is no answer if it has broken
the contract. -/
def phaseOf? (generation : Nat) (events : List Event) : Option Phase :=
  (events.filterMap (Event.told? generation)).foldlM Phase.hear? .opening

/-- The socket that tells something. -/
def Event.speaker? : Event → Option Nat
  | .socket generation _ => some generation
  | _ => none

/-- Whether a call tells something in a socket's place. -/
def Moment.forges (moment : Moment) : Bool :=
  match moment.call? with
  | some (.notify _ _) => true
  | _ => false

/-- A run in which every socket keeps the contract and speaks for itself. -/
structure Lawful (past : List Moment) : Prop where
  unforged : ∀ moment ∈ past, moment.forges = false
  orderly : ∀ generation, (phaseOf? generation (past.map Moment.event)).isSome = true

theorem phaseOf?_append (generation : Nat) (events : List Event) (event : Event) :
    phaseOf? generation (events ++ [event]) =
      (phaseOf? generation events).bind fun phase =>
        (event.told? generation).elim (some phase) phase.hear? := by
  unfold phaseOf?
  rw [List.filterMap_append, List.foldlM_append]
  cases told : event.told? generation with
  | none => simp [told]
  | some notice => simp [told]

/-- A socket that tells nothing is still to open. -/
theorem phaseOf?_of_silent {generation : Nat} {events : List Event}
    (silent : generation ∉ events.filterMap Event.speaker?) :
    phaseOf? generation events = some .opening := by
  have nothing : events.filterMap (Event.told? generation) = [] := by
    rw [List.filterMap_eq_nil_iff]
    intro event present
    cases event with
    | socket speaker notice =>
        refine if_neg fun same => silent ?_
        rw [List.mem_filterMap]
        exact ⟨_, present, congrArg some same⟩
    | _ => rfl
  unfold phaseOf?
  rw [nothing]
  rfl

namespace Lawful

variable {past earlier later : List Moment} {moment : Moment} {generation : Nat}

/-- The past of a lawful run is lawful. -/
theorem past_of_append (lawful : Lawful (earlier ++ later)) : Lawful earlier := by
  refine ⟨fun moment present => lawful.unforged moment (List.mem_append_left _ present), ?_⟩
  intro generation
  have known := lawful.orderly generation
  unfold phaseOf? at known ⊢
  rw [List.map_append, List.filterMap_append, List.foldlM_append] at known
  cases heard : ((earlier.map Moment.event).filterMap (Event.told? generation)).foldlM Phase.hear?
      .opening with
  | none =>
      rw [heard] at known
      cases known
  | some phase => rfl

/-- What a socket tells in a lawful run is in order. -/
theorem hear (lawful : Lawful (earlier ++ moment :: later)) {notice : Notice}
    (told : moment.event = .socket generation notice) :
    ∃ before after, phaseOf? generation (earlier.map Moment.event) = some before ∧
      before.hear? notice = some after := by
  rw [← List.singleton_append, ← List.append_assoc] at lawful
  have known := lawful.past_of_append.orderly generation
  rw [List.map_append, List.map_singleton, phaseOf?_append, Event.told?_iff.mpr told] at known
  cases heard : phaseOf? generation (earlier.map Moment.event) with
  | none =>
      rw [heard] at known
      cases known
  | some before =>
      rw [heard] at known
      obtain ⟨after, next⟩ := Option.isSome_iff_exists.mp known
      exact ⟨before, after, rfl, next⟩

/-- A socket that has closed has ended for good. -/
theorem ended (lawful : Lawful (earlier ++ moment :: later)) {closing : Closing}
    (told : moment.event = .socket generation (.closed closing)) :
    phaseOf? generation ((earlier ++ moment :: later).map Moment.event) = some .ended := by
  induction later using List.reverseRecOn with
  | nil =>
      obtain ⟨before, after, heard, hears⟩ := lawful.hear told
      rw [List.map_append, List.map_singleton, phaseOf?_append, Event.told?_iff.mpr told, heard]
      cases before <;> cases hears <;> rfl
  | append_singleton later final ih =>
      rw [← List.cons_append, ← List.append_assoc] at lawful ⊢
      have before := ih lawful.past_of_append
      have known := lawful.orderly generation
      rw [List.map_append, List.map_singleton, phaseOf?_append, before] at known ⊢
      cases tells : final.event.told? generation with
      | none => rfl
      | some notice =>
          rw [tells] at known
          cases notice with
          | sendFailed => rfl
          | _ => cases known

/-- Whether events make a lawful run can be seen from the events and the calls of the callbacks. -/
theorem of_play {first last : Scene} {events : List Event}
    (played : first.play [] events = some (past, last))
    (unforged : past.all (fun moment => !moment.forges) = true)
    (orderly : (events.filterMap Event.speaker?).all
      (fun generation => (phaseOf? generation events).isSome) = true) : Lawful past := by
  constructor
  · intro moment present
    have single := List.all_eq_true.mp unforged moment present
    simpa using single
  · intro generation
    rw [Scene.events_of_play played]
    show (phaseOf? generation events).isSome = true
    by_cases speaks : generation ∈ events.filterMap Event.speaker?
    · exact List.all_eq_true.mp orderly generation speaks
    · rw [phaseOf?_of_silent speaks]
      rfl

end Lawful

/-! ## Lawful runs -/

namespace Run

variable {settings : Settings} {draw : Nat → Nat} {past : List Moment} {scene : Scene}
  {generation : Nat} {rest : Agenda}

/-- In a lawful run a socket is open exactly while it is live. -/
theorem isOpen_of_phase (run : Run (.start settings draw) past scene) {phase : Phase}
    (heard : phaseOf? generation (past.map Moment.event) = some phase) :
    scene.channel.isOpen generation = phase.isLive := by
  induction run generalizing phase with
  | start =>
      cases heard
      rfl
  | @step past scene event _ allowed ih =>
      rw [List.map_append, List.map_singleton, phaseOf?_append, Option.bind_eq_some_iff] at heard
      obtain ⟨before, known, told⟩ := heard
      have flag := @Moment.isOpen_after ⟨scene, event⟩ allowed generation
      refine flag.trans ?_
      rw [ih known]
      dsimp only at told ⊢
      cases tells : event.told? generation with
      | none =>
          rw [tells] at told
          cases told
          rfl
      | some notice =>
          rw [tells] at told
          exact (Phase.isLive_of_hear told).symm

/-- In a lawful run every notice that is taken in comes from the socket itself. -/
theorem told_of_notice (run : Run (.start settings draw) past scene) {moment : Moment}
    {notice : Notice} (lawful : Lawful past) (present : moment ∈ past)
    (taken : moment.notice? = some (generation, notice)) :
    moment.event = .socket generation notice := by
  obtain ⟨⟨agenda, channel⟩, event⟩ := moment
  cases event with
  | socket speaker other =>
      cases taken
      rfl
  | work =>
      -- the task would have to come from a call in the socket's place
      obtain ⟨earlier, later, rfl⟩ := List.append_of_mem present
      have before := run.at_moment.1
      cases agenda with
      | nil => cases taken
      | cons task rest =>
          cases task with
          | receive speaker other =>
              obtain ⟨first, call, same, _, _, origin⟩ := before.origin rfl rfl rfl
              cases origin with
              | receive calls =>
                  have unforged := lawful.unforged call (by simp [same])
                  simp [Moment.forges, calls] at unforged
          | _ => cases taken
  | _ => cases taken

/-- In a lawful run a push is acted on while the socket that told it is open. -/
theorem open_of_dispatch (run : Run (.start settings draw) past scene) (lawful : Lawful past)
    {push : Push} (next : scene.agenda = .dispatch generation push :: rest) :
    scene.channel.isOpen generation = true := by
  obtain ⟨earlier, delivery, routing, text, same, before, taken, _, _, _, kept⟩ :=
    run.delivery_of_dispatch rfl next
  subst same
  have told := run.told_of_notice lawful (by simp) taken
  obtain ⟨phase, after, heard, hears⟩ := lawful.hear told
  obtain ⟨rfl, _⟩ := Phase.live_of_message hears
  rw [kept]
  exact before.isOpen_of_phase heard

/-- In a lawful run a push that is acted on came from a socket that was spawned. -/
theorem dispatch_pos (run : Run (.start settings draw) past scene) (lawful : Lawful past)
    {push : Push} (next : scene.agenda = .dispatch generation push :: rest) : 0 < generation := by
  obtain ⟨earlier, delivery, routing, text, same, before, taken, _⟩ :=
    run.delivery_of_dispatch rfl next
  subst same
  exact before.speaker_pos run.at_moment.2 (run.told_of_notice lawful (by simp) taken)

/-- In a lawful run a socket whose push is acted on was never lost. -/
theorem not_lost (run : Run (.start settings draw) past scene) (lawful : Lawful past) {push : Push}
    (next : scene.agenda = .dispatch generation push :: rest) {moment : Moment}
    (present : moment ∈ past) (current : moment.scene.channel.link.generation = generation) :
    moment.move ≠ .lose := by
  intro loses
  obtain ⟨closing, taken⟩ := Moment.notice_of_move loses
  rw [current] at taken
  have told := run.told_of_notice lawful present taken
  have isOpen := run.open_of_dispatch lawful next
  obtain ⟨earlier, later, rfl⟩ := List.append_of_mem present
  rw [run.isOpen_of_phase (lawful.ended told)] at isOpen
  cases isOpen

end Run

end Intercom
