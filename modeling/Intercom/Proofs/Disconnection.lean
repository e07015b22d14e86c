import Mathlib
import Intercom.Proofs.Interleaving
import Intercom.Proofs.Retry

/-!
# To disconnect while a reconnection is under way

The alarm of a reconnection is worked off in two sections. The first sees whether the reconnection
is still wanted, the second connects, as a client would, and takes back that the client has
disconnected. A client that disconnects on another thread between the two comes too late for the
first and too early for the second.

Results:
1. `Interleaving.released`: a channel that was disconnected stays so on every thread, if no
   reconnection was under way.
2. `stays_disconnected_iff`: a client that disconnects can rely on it exactly if no reconnection was
   between its two sections at that moment.
-/

namespace Intercom

/-! ## Definitions -/

namespace Shared

/-- A reconnection was found to be wanted and goes on to connect. -/
def Reconnecting (shared : Shared) : Prop :=
  ∃ thread, Task.connect ∈ shared.threads thread

/-- However the threads go on, as long as the client does not connect, no socket is spawned and the
channel is disconnected. -/
def StaysDisconnected (shared : Shared) : Prop :=
  ∀ later last, Interleaving shared later last →
    (∀ moment ∈ later, moment.call? ≠ some .connect) →
    (∀ moment ∈ later, moment.move ≠ .spawn) ∧ last.channel.status = .disconnected

end Shared

/-! ## Going on after the client has disconnected -/

namespace Interleaving

variable {first shared last : Shared} {past later : List Moment} {thread : Nat} {event : Event}

/-- A reconnection that is under way after a moment was under way before it, or was found to be
wanted in it. -/
theorem reconnecting_or_leads (reached : Interleaving first past shared)
    (idle : ∀ thread, first.threads thread = [])
    (allowed : (shared.scene thread).allows event = true)
    (under : (shared.after thread event).Reconnecting) :
    shared.Reconnecting ∨ Task.connect ∈ Moment.leads ⟨shared.scene thread, event⟩ := by
  obtain ⟨other, present⟩ := under
  rcases reached.leads_or_before idle allowed present rfl with leads | before
  · exact .inr leads
  · exact .inl ⟨other, before⟩

/-- A channel that was disconnected stays so on every thread, if no reconnection is under way and
the client does not connect. -/
theorem released (reached : Interleaving first past shared)
    (idle : ∀ thread, first.threads thread = []) (released : Released shared.channel)
    (none : ¬ shared.Reconnecting) (onward : Interleaving shared later last)
    (silent : ∀ moment ∈ later, moment.call? ≠ some .connect) :
    Released last.channel ∧ ¬ last.Reconnecting ∧ ∀ moment ∈ later, moment.move ≠ .spawn := by
  induction onward with
  | start => exact ⟨released, none, fun _ absent => absurd absent List.not_mem_nil⟩
  | @step later between event thread onward allowed ih =>
      obtain ⟨before, quiet, spawnless⟩ :=
        ih fun moment old => silent moment (List.mem_append_left _ old)
      obtain ⟨stays, keeps, stops, _⟩ := @Moment.released_after ⟨between.scene thread, event⟩ before
        (silent _ (by simp)) fun carried => quiet ⟨thread, Moment.mem_of_task carried⟩
      refine ⟨stays, fun under => ?_, fun moment present => ?_⟩
      · rcases (reached.trans onward).reconnecting_or_leads idle allowed under with old | leads
        · exact quiet old
        · exact stops leads
      · rcases List.mem_append.mp present with old | new
        · exact spawnless moment old
        · rw [List.mem_singleton.mp new]
          exact keeps

/-- A reconnection that is under way is the next task of a thread, and not of one on which the
client has its turn. -/
theorem next_of_reconnecting (reached : Interleaving first past shared)
    (idle : ∀ thread, first.threads thread = []) (under : shared.Reconnecting)
    (free : (shared.scene thread).free = true) :
    ∃ other rest, other ≠ thread ∧ shared.threads other = .connect :: rest := by
  obtain ⟨other, present⟩ := under
  have calm := reached.tail_calm idle other
  refine ⟨other, (shared.threads other).tail, ?_, ?_⟩
  · rintro rfl
    cases Scene.calm_of_free free calm present
  · cases agenda : shared.threads other with
    | nil =>
        rw [agenda] at present
        cases present
    | cons head tail =>
        rw [agenda] at present calm
        rcases List.mem_cons.mp present with same | waits
        · rw [same, List.tail_cons]
        · cases calm _ waits

end Interleaving

/-! ## What disconnecting is good for -/

/-- However threads work on a channel, one that the client disconnects stays disconnected until the
client connects it, exactly if no reconnection was under way on another thread. -/
theorem stays_disconnected_iff {settings : Settings} {draw : Nat → Nat} {past : List Moment}
    {shared : Shared} {thread : Nat} {event : Event}
    (reached : Interleaving (.start settings draw) past shared)
    (allowed : (shared.scene thread).allows event = true)
    (calls : Moment.call? ⟨shared.scene thread, event⟩ = some .disconnect) :
    (shared.after thread event).StaysDisconnected ↔ ¬ shared.Reconnecting := by
  have idle : ∀ thread, (Shared.start settings draw).threads thread = [] := fun _ => rfl
  have after := Moment.after_disconnect calls
  have released : Released (shared.after thread event).channel := by
    show Released (Moment.after ⟨shared.scene thread, event⟩).channel
    rw [after]
    exact ⟨rfl, rfl⟩
  constructor
  · intro stays under
    have free : (shared.scene thread).free = true :=
      @Moment.free_of_call ⟨shared.scene thread, event⟩ _ allowed calls
    obtain ⟨other, rest, differs, agenda⟩ := reached.next_of_reconnecting idle under free
    -- the other thread carries out its second section next
    have scene : (shared.after thread event).scene other =
        ⟨.connect :: rest, (shared.after thread event).channel⟩ := by
      rw [Shared.scene, shared.threads_after_of_ne differs, agenda]
    have connects : Interleaving (shared.after thread event)
        [⟨(shared.after thread event).scene other, .work⟩]
        ((shared.after thread event).after other .work) :=
      Interleaving.start.step other (by rw [scene]; rfl)
    obtain ⟨spawnless, _⟩ := stays _ _ connects fun moment present calls => by
      rw [List.mem_singleton.mp present, scene] at calls
      cases calls
    refine spawnless _ List.mem_cons_self ?_
    rw [scene]
    show Link.connecting _ = .spawn
    rw [Link.connecting, released.free]
    rfl
  · intro none later last onward silent
    have quiet : ¬ (shared.after thread event).Reconnecting := by
      intro under
      rcases reached.reconnecting_or_leads idle allowed under with old | leads
      · exact none old
      · exact Moment.connect_not_mem_leads allowed calls leads
    obtain ⟨free, _, spawnless⟩ :=
      (reached.step thread allowed).released idle released quiet onward silent
    exact ⟨spawnless, by rw [Channel.status, free.free]⟩

/-- The socket that one thread has spawned closes on a second. The alarm of the reconnection goes
off on a third, where the reconnection is found to be wanted. -/
def reconnecting : List (Nat × Event) :=
  [(0, .call none .connect), (1, .socket 1 (.closed (.abnormal "stream ended"))), (1, .work),
    (1, .work), (0, .wait 100), (2, .alarm ⟨1, 100, .reconnect⟩), (2, .work)]

theorem stays_disconnected_iff_reconnecting : ∃ past shared,
    (Shared.start persistent fun _ => 0).play [] reconnecting = some (past, shared) ∧
      Moment.call? ⟨shared.scene 0, .call none .disconnect⟩ = some .disconnect ∧
      shared.channel.status = .disconnected ∧ shared.Reconnecting ∧
      ¬ (shared.after 0 (.call none .disconnect)).StaysDisconnected := by
  have seen : (((Shared.start persistent fun _ => 0).play [] reconnecting).map fun played =>
      (played.2.threads 0, played.2.threads 2, played.2.channel.status)) =
        some ([], [.connect], .disconnected) := by
    cbv
  obtain ⟨⟨past, shared⟩, played, views⟩ := Option.map_eq_some_iff.mp seen
  obtain ⟨turn, others⟩ := Prod.mk.inj views
  obtain ⟨checked, status⟩ := Prod.mk.inj others
  have under : shared.Reconnecting := ⟨2, by
    show Task.connect ∈ shared.threads 2
    rw [checked]
    exact List.mem_cons_self⟩
  have allowed : (shared.scene 0).allows (.call none .disconnect) = true := by
    show Scene.free ⟨shared.threads 0, shared.channel⟩ = true
    rw [turn]
    rfl
  refine ⟨past, shared, played, rfl, status, under, fun stays => ?_⟩
  exact (stays_disconnected_iff (Shared.interleaving_of_play .start played) allowed rfl).mp stays
    under

end Intercom
