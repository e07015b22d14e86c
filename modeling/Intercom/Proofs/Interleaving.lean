import Intercom.Proofs.Link
import Intercom.Proofs.Origin
import Mathlib.Logic.Function.Basic

/-!
# Threads that share a channel

Calls, notices and alarms may be worked off by several threads at once. A section of work runs
without interruption, and between two sections of one thread any other thread may carry out sections
of its own. `Shared` is a channel with the agenda of each thread, and an `Interleaving` is any
finite order in which the threads go on.

What one thread does is a `Moment` of the scene that the thread has before it, so what moments do to
a channel is known already. What is lost is that a prompt task follows its cause directly.

Results:
1. `Interleaving.course`: the moments of an interleaving make a course of the channel.
2. `Interleaving.tail_calm`: of the tasks of a thread only the next one may be prompt.
3. `Interleaving.origin`: a prompt task of a thread has its origin in a moment that has passed.
-/

namespace Intercom

/-! ## Definitions -/

/-- A channel and the tasks that its threads still have to do. -/
structure Shared where
  threads : Nat → Agenda
  channel : Channel

namespace Shared

/-- A channel that has done nothing yet, and threads with nothing to do. -/
def start (settings : Settings) (draw : Nat → Nat) : Shared :=
  ⟨fun _ => [], { Channel.start settings with draw }⟩

/-- What a thread has before it. -/
def scene (shared : Shared) (thread : Nat) : Scene :=
  ⟨shared.threads thread, shared.channel⟩

/-- What an event on a thread leads to. -/
def after (shared : Shared) (thread : Nat) (event : Event) : Shared :=
  ⟨Function.update shared.threads thread ((shared.scene thread).after event).agenda,
    ((shared.scene thread).after event).channel⟩

theorem threads_after_of_ne (shared : Shared) {thread other : Nat} (differs : other ≠ thread)
    (event : Event) : (shared.after thread event).threads other = shared.threads other :=
  Function.update_of_ne differs _ _

end Shared

/-- `Interleaving first past shared`: from `first` on, the threads have gone on in some order, and
the moments `past` have led to `shared`. -/
inductive Interleaving (first : Shared) : List Moment → Shared → Prop where
  | start : Interleaving first [] first
  | step {past : List Moment} {shared : Shared} {event : Event} (thread : Nat) :
      Interleaving first past shared → (shared.scene thread).allows event = true →
      Interleaving first (past ++ [⟨shared.scene thread, event⟩]) (shared.after thread event)

namespace Shared

/-- The interleaving that a list of threads and their events makes, if each event may happen when
its turn comes. -/
def play (past : List Moment) (shared : Shared) :
    List (Nat × Event) → Option (List Moment × Shared)
  | [] => some (past, shared)
  | (thread, event) :: events =>
      if (shared.scene thread).allows event then
        play (past ++ [⟨shared.scene thread, event⟩]) (shared.after thread event) events
      else none

theorem interleaving_of_play {first shared last : Shared} {past all : List Moment}
    {events : List (Nat × Event)} (reached : Interleaving first past shared)
    (played : shared.play past events = some (all, last)) : Interleaving first all last := by
  induction events generalizing past shared with
  | nil =>
      simp only [play, Option.some.injEq, Prod.mk.injEq] at played
      obtain ⟨rfl, rfl⟩ := played
      exact reached
  | cons entry events ih =>
      obtain ⟨thread, event⟩ := entry
      unfold play at played
      split at played
      · next allowed => exact ih (reached.step thread allowed) played
      · cases played

end Shared

/-! ## Prompt tasks of a thread -/

namespace Interleaving

variable {first shared : Shared} {past earlier later : List Moment} {moment : Moment}

/-- The moments of an interleaving make a course of the channel. -/
theorem course (reached : Interleaving first past shared) :
    Course first.channel past shared.channel := by
  induction reached with
  | start => exact .start
  | step thread _ allowed ih => exact Course.step ih allowed

/-- An interleaving may be taken up where another one has led. -/
theorem trans {last : Shared} (reached : Interleaving first past shared)
    (onward : Interleaving shared later last) : Interleaving first (past ++ later) last := by
  induction onward with
  | start => simpa using reached
  | step thread _ allowed ih =>
      rw [← List.append_assoc]
      exact ih.step thread allowed

/-- Every moment of an interleaving belongs to a thread, for which it was possible. -/
theorem at_moment (reached : Interleaving first (earlier ++ moment :: later) shared) :
    ∃ before thread, Interleaving first earlier before ∧ moment.scene = before.scene thread ∧
      moment.scene.allows moment.event = true := by
  generalize joined : earlier ++ moment :: later = past at reached
  induction reached generalizing later with
  | start => simp at joined
  | @step past before event thread reached allowed ih =>
      rcases List.eq_nil_or_concat later with rfl | ⟨others, final, rfl⟩
      · obtain ⟨rfl, single⟩ := List.append_inj' joined rfl
        cases single
        exact ⟨before, thread, reached, rfl, allowed⟩
      · rw [List.concat_eq_append, ← List.cons_append, ← List.append_assoc] at joined
        exact ih (List.append_inj' joined rfl).1

/-- Of the tasks of a thread only the next one may be prompt. -/
theorem tail_calm (reached : Interleaving first past shared)
    (idle : ∀ thread, first.threads thread = []) (thread : Nat) :
    ∀ later ∈ (shared.threads thread).tail, later.isPrompt = false := by
  induction reached with
  | start => simp [idle]
  | @step past shared event acting _ allowed ih =>
      by_cases same : thread = acting
      · subst same
        simpa [Shared.after] using Run.calm_after ih allowed
      · rw [shared.threads_after_of_ne same]
        exact ih

/-- A prompt task of a thread was led to by the last moment of that thread or was there before. -/
theorem leads_or_before {event : Event} {thread acting : Nat} {task : Task}
    (reached : Interleaving first past shared) (idle : ∀ thread, first.threads thread = [])
    (allowed : (shared.scene acting).allows event = true)
    (present : task ∈ (shared.after acting event).threads thread) (prompt : task.isPrompt = true) :
    task ∈ Moment.leads ⟨shared.scene acting, event⟩ ∨ task ∈ shared.threads thread := by
  by_cases same : thread = acting
  · subst same
    simp only [Shared.after, Function.update_self] at present
    rcases List.mem_append.mp present with leads | left
    · exact .inl leads
    · cases (Run.rest_calm (reached.tail_calm idle thread) allowed left).symm.trans prompt
  · rw [shared.threads_after_of_ne same] at present
    exact .inr present

/-- A prompt task of a thread has its origin in a moment that has passed. -/
theorem origin (reached : Interleaving first past shared)
    (idle : ∀ thread, first.threads thread = []) {thread : Nat} {task : Task}
    (present : task ∈ shared.threads thread) (prompt : task.isPrompt = true) :
    ∃ moment ∈ past, Origin moment task := by
  induction reached with
  | start =>
      rw [idle] at present
      cases present
  | @step past shared event acting reached allowed ih =>
      rcases reached.leads_or_before idle allowed present prompt with leads | before
      · exact ⟨_, List.mem_append_right _ List.mem_cons_self,
          Moment.origin (Moment.head_of_leads leads prompt) prompt⟩
      · obtain ⟨moment, known, origin⟩ := ih before
        exact ⟨moment, List.mem_append_left _ known, origin⟩

/-- A prompt task that is carried out has its origin in a moment before. -/
theorem origin_of_task (reached : Interleaving first (earlier ++ moment :: later) shared)
    (idle : ∀ thread, first.threads thread = []) {task : Task}
    (carried : moment.task? = some task) (prompt : task.isPrompt = true) :
    ∃ cause ∈ earlier, Origin cause task := by
  obtain ⟨before, thread, arrived, same, _⟩ := reached.at_moment
  have present := Moment.mem_of_task carried
  rw [same] at present
  exact arrived.origin idle (show task ∈ before.threads thread from present) prompt

end Interleaving

end Intercom
