import Intercom.Channel.Link

/-!
# Waiting requests and their futures

What the operations of a channel do to the requests that wait and to the futures of all requests.
Both are seen through two views: `isPending`, and `fate?`, which tells a request that was never
made, one that is unresolved, and one that is resolved.

Results: a settlement takes exactly its own request out and resolves it (`isPending_settle`,
`fate?_settle`), a sweep does so for exactly the requests that it finds stale
(`isPending_settleEach`, `fate?_settleEach`), a registration enters one (`isPending_register`,
`fate?_register`), and every other operation `Keeps` both.
-/

namespace Intercom.Channel

/-- What has become of the future of a request, if the request was made. -/
def fate? (channel : Channel) (id : RequestId) : Option (Option Outcome) :=
  (channel.futures.find? fun future => future.id = id).map Future.outcome

/-- `Keeps before after`: requests and futures stay as they are, and no new request timer is set. -/
structure Keeps (before after : Channel) : Prop where
  ids : after.ids = before.ids
  pending : after.pending = before.pending
  fate : ∀ id, after.fate? id = before.fate? id
  alarms : ∀ alarm ∈ after.alarms, alarm ∈ before.alarms ∨ alarm.purpose = .reconnect

namespace Keeps

theorem refl (channel : Channel) : Keeps channel channel :=
  ⟨rfl, rfl, fun _ => rfl, fun _ present => Or.inl present⟩

theorem trans {first second third : Channel} (one : Keeps first second) (two : Keeps second third) :
    Keeps first third := by
  refine ⟨two.ids.trans one.ids, two.pending.trans one.pending,
    fun id => (two.fate id).trans (one.fate id), ?_⟩
  intro alarm present
  rcases two.alarms alarm present with earlier | retry
  · exact one.alarms alarm earlier
  · exact Or.inr retry

/-- A change to other fields alone keeps requests and futures. -/
theorem of_eq {before after : Channel} (ids : after.ids = before.ids)
    (pending : after.pending = before.pending) (futures : after.futures = before.futures)
    (alarms : after.alarms = before.alarms) : Keeps before after := by
  refine ⟨ids, pending, fun id => ?_, fun alarm present => Or.inl (alarms ▸ present)⟩
  unfold fate?
  rw [futures]

theorem isPending {before after : Channel} (kept : Keeps before after) (id : RequestId) :
    after.isPending id = before.isPending id := by
  unfold Channel.isPending
  rw [kept.pending]

end Keeps

/-! ## Alarms and handles -/

theorem keeps_cancelAlarm (channel : Channel) (ticket : Option Nat) :
    Keeps channel (channel.cancelAlarm ticket) := by
  cases ticket with
  | none => exact .refl channel
  | some ticket =>
      exact ⟨rfl, rfl, fun _ => rfl, fun _ present => Or.inl (List.mem_filter.mp present).1⟩

theorem keeps_updateHandle (channel : Channel) (generation : Nat) (change : Handle → Handle) :
    Keeps channel (channel.updateHandle generation change) :=
  .of_eq rfl rfl rfl rfl

theorem keeps_shutDown (channel : Channel) (generation : Nat) :
    Keeps channel (channel.shutDown generation) :=
  .of_eq rfl rfl rfl rfl

/-! ## The link -/

theorem keeps_cancelReconnect (channel : Channel) : Keeps channel channel.cancelReconnect :=
  (keeps_cancelAlarm channel channel.link.alarm).trans (.of_eq rfl rfl rfl rfl)

theorem keeps_openSocket (channel : Channel) : Keeps channel channel.openSocket := by
  unfold openSocket
  split
  · exact .refl channel
  · exact channel.keeps_cancelReconnect.trans (.of_eq rfl rfl rfl rfl)

theorem keeps_releaseSocket (channel : Channel) : Keeps channel channel.releaseSocket.2 :=
  channel.keeps_cancelReconnect.trans (.of_eq rfl rfl rfl rfl)

theorem keeps_loseSocket (channel : Channel) : Keeps channel channel.loseSocket := by
  unfold loseSocket
  cases channel.link.socket <;> exact .of_eq rfl rfl rfl rfl

theorem keeps_scheduleReconnect {channel after : Channel}
    (scheduled : channel.scheduleReconnect? = some after) : Keeps channel after := by
  unfold scheduleReconnect? at scheduled
  split at scheduled
  · dsimp only at scheduled
    split at scheduled
    · cases scheduled
      refine ⟨rfl, rfl, fun _ => rfl, ?_⟩
      intro alarm present
      rcases List.mem_append.mp present with earlier | new
      · exact Or.inl earlier
      · rw [List.mem_singleton.mp new]
        exact Or.inr rfl
    · cases scheduled
      exact .refl channel
  · cases scheduled

theorem keeps_closeLink {channel after : Channel} (closed : channel.closeLink? = some after) :
    Keeps channel after := by
  unfold closeLink? at closed
  split at closed
  · cases closed
    exact channel.keeps_loseSocket
  · exact channel.keeps_loseSocket.trans (keeps_scheduleReconnect closed)

/-! ## Futures that are let go -/

/-- A change to futures that leaves each its identifier and its outcome leaves every fate. -/
theorem fate?_map (channel : Channel) (change : Future → Future)
    (same : ∀ future, (change future).id = future.id)
    (kept : ∀ future, (change future).outcome = future.outcome) (id : RequestId) :
    Channel.fate? { channel with futures := channel.futures.map change } id =
      channel.fate? id := by
  unfold fate?
  dsimp only
  rw [List.find?_map, Option.map_map]
  have found : (fun future : Future => decide (future.id = id)) ∘ change =
      fun future => decide (future.id = id) :=
    funext fun future => by rw [Function.comp_apply, same]
  have outcome : Future.outcome ∘ change = Future.outcome := funext kept
  rw [found, outcome]

theorem keeps_forget (channel : Channel) (id : RequestId) :
    Keeps channel (channel.forget id).2 := by
  refine ⟨rfl, rfl, fun other => ?_, fun _ present => Or.inl present⟩
  refine fate?_map channel _ ?_ ?_ other <;> intro future <;> split <;> rfl

theorem keeps_takeSettled (channel : Channel) : Keeps channel channel.takeSettled.2 := by
  refine ⟨rfl, rfl, fun other => ?_, fun _ present => Or.inl present⟩
  refine fate?_map channel _ ?_ ?_ other <;> intro future <;> split <;> rfl

/-! ## Settlements -/

theorem isPending_iff {channel : Channel} {id : RequestId} :
    channel.isPending id = true ↔ ∃ waiting ∈ channel.pending, waiting.id = id := by
  simp [isPending]

/-- A request that does not wait is left alone. -/
theorem settle_of_absent {channel : Channel} {id : RequestId}
    (absent : channel.isPending id = false) (outcome : Outcome) :
    channel.settle id outcome = channel := by
  unfold settle
  cases found : channel.pending.find? fun waiting => waiting.id = id with
  | none => rfl
  | some waiting =>
      have waits : channel.isPending id = true :=
        isPending_iff.mpr ⟨waiting, List.mem_of_find?_eq_some found, by
          simpa using List.find?_some found⟩
      rw [absent] at waits
      cases waits

/-- A request that waits is taken out, with its alarm, and its future resolved. -/
theorem settle_of_waiting {channel : Channel} {id : RequestId} (waits : channel.isPending id = true)
    (outcome : Outcome) :
    ∃ ticket, channel.settle id outcome =
      (cancelAlarm { channel with pending := channel.pending.filter fun other => other.id != id }
        ticket).resolve id outcome := by
  unfold settle
  cases found : channel.pending.find? fun waiting => waiting.id = id with
  | none =>
      obtain ⟨waiting, present, same⟩ := isPending_iff.mp waits
      have differs := List.find?_eq_none.mp found waiting present
      simp [same] at differs
  | some waiting => exact ⟨waiting.alarm, rfl⟩

/-- A future that is resolved, or was not there, stays as it is. -/
theorem fate?_resolve (channel : Channel) (id other : RequestId) (outcome : Outcome) :
    (channel.resolve id outcome).fate? other =
      if other = id then (channel.fate? other).map fun known => some (known.getD outcome)
      else channel.fate? other := by
  unfold fate? resolve
  dsimp only
  rw [List.find?_map, Option.map_map]
  have found : (fun future : Future => decide (future.id = other)) ∘
      (fun future : Future =>
        if future.id = id && future.outcome.isNone then { future with outcome := some outcome }
        else future) =
      fun future => decide (future.id = other) := by
    funext future
    simp only [Function.comp_apply]
    split <;> rfl
  rw [found]
  cases first : channel.futures.find? fun future => future.id = other with
  | none => simp
  | some future =>
      have same : future.id = other := by simpa using List.find?_some first
      simp only [Option.map_some, Function.comp_apply, same]
      by_cases equal : other = id
      · cases known : future.outcome <;> simp [equal, known]
      · simp [equal]

theorem pending_settle (channel : Channel) (id : RequestId) (outcome : Outcome) :
    (channel.settle id outcome).pending = channel.pending.filter fun other => other.id != id := by
  cases waits : channel.isPending id with
  | true =>
      obtain ⟨ticket, same⟩ := settle_of_waiting waits outcome
      rw [same]
      cases ticket <;> rfl
  | false =>
      rw [settle_of_absent waits]
      refine (List.filter_eq_self.mpr fun waiting present => ?_).symm
      have differs : waiting.id ≠ id := fun same => by
        rw [isPending_iff.mpr ⟨waiting, present, same⟩] at waits
        cases waits
      simpa using differs

theorem isPending_settle (channel : Channel) (id other : RequestId) (outcome : Outcome) :
    (channel.settle id outcome).isPending other = (channel.isPending other && other != id) := by
  rw [Bool.eq_iff_iff, Bool.and_eq_true, isPending_iff, isPending_iff, pending_settle]
  simp only [List.mem_filter, bne_iff_ne, ne_eq]
  constructor
  · rintro ⟨waiting, ⟨present, differs⟩, rfl⟩
    exact ⟨⟨waiting, present, rfl⟩, differs⟩
  · rintro ⟨⟨waiting, present, rfl⟩, differs⟩
    exact ⟨waiting, ⟨present, differs⟩, rfl⟩

theorem fate?_settle (channel : Channel) (id other : RequestId) (outcome : Outcome) :
    (channel.settle id outcome).fate? other =
      if other = id ∧ channel.isPending id = true then
        (channel.fate? other).map fun known => some (known.getD outcome)
      else channel.fate? other := by
  cases waits : channel.isPending id with
  | true =>
      obtain ⟨ticket, same⟩ := settle_of_waiting waits outcome
      rw [same, fate?_resolve, (keeps_cancelAlarm _ ticket).fate]
      simp only [and_true]
      rfl
  | false => simp [settle_of_absent waits]

theorem ids_settle (channel : Channel) (id : RequestId) (outcome : Outcome) :
    (channel.settle id outcome).ids = channel.ids := by
  cases waits : channel.isPending id with
  | true =>
      obtain ⟨ticket, same⟩ := settle_of_waiting waits outcome
      rw [same]
      cases ticket <;> rfl
  | false => rw [settle_of_absent waits]

theorem alarms_settle {channel : Channel} {id : RequestId} {outcome : Outcome} {alarm : Alarm}
    (present : alarm ∈ (channel.settle id outcome).alarms) : alarm ∈ channel.alarms := by
  cases waits : channel.isPending id with
  | true =>
      obtain ⟨ticket, same⟩ := settle_of_waiting waits outcome
      rw [same] at present
      cases ticket with
      | none => exact present
      | some ticket => exact (List.mem_filter.mp present).1
  | false => rwa [settle_of_absent waits] at present

/-! ## Sweeps -/

/-- Settles one request after the other. -/
def settleEach (channel : Channel) (requests : List Waiting) (outcome : Outcome) : Channel :=
  requests.foldl (fun channel waiting => channel.settle waiting.id outcome) channel

theorem pending_settleEach (channel : Channel) (requests : List Waiting) (outcome : Outcome) :
    (channel.settleEach requests outcome).pending =
      channel.pending.filter fun other => requests.all fun waiting => waiting.id != other.id := by
  induction requests generalizing channel with
  | nil => exact (List.filter_eq_self.mpr fun _ _ => rfl).symm
  | cons first rest ih =>
      show ((channel.settle first.id outcome).settleEach rest outcome).pending = _
      rw [ih, pending_settle, List.filter_filter]
      refine List.filter_congr fun other _ => ?_
      rw [List.all_cons, Bool.and_comm, bne_comm]

theorem isPending_settleEach (channel : Channel) (requests : List Waiting) (outcome : Outcome)
    (id : RequestId) :
    (channel.settleEach requests outcome).isPending id =
      (channel.isPending id && requests.all fun waiting => waiting.id != id) := by
  induction requests generalizing channel with
  | nil => simp [settleEach]
  | cons first rest ih =>
      show ((channel.settle first.id outcome).settleEach rest outcome).isPending id = _
      rw [ih, isPending_settle, List.all_cons, Bool.and_assoc, bne_comm]

theorem fate?_settleEach (channel : Channel) (requests : List Waiting) (outcome : Outcome)
    (id : RequestId) :
    (channel.settleEach requests outcome).fate? id =
      if channel.isPending id = true ∧ ∃ waiting ∈ requests, waiting.id = id then
        (channel.fate? id).map fun known => some (known.getD outcome)
      else channel.fate? id := by
  induction requests generalizing channel with
  | nil => simp [settleEach]
  | cons first rest ih =>
      show ((channel.settle first.id outcome).settleEach rest outcome).fate? id = _
      rw [ih, isPending_settle, fate?_settle]
      by_cases same : id = first.id
      · -- settled by the first, and so out of reach for the rest
        subst same
        simp
      · have other : first.id ≠ id := Ne.symm same
        simp [same, other]

theorem ids_settleEach (channel : Channel) (requests : List Waiting) (outcome : Outcome) :
    (channel.settleEach requests outcome).ids = channel.ids := by
  induction requests generalizing channel with
  | nil => rfl
  | cons first rest ih =>
      show ((channel.settle first.id outcome).settleEach rest outcome).ids = _
      rw [ih, ids_settle]

theorem mem_settleEach {channel : Channel} {requests : List Waiting} {outcome : Outcome} :
    (∀ waiting ∈ (channel.settleEach requests outcome).pending, waiting ∈ channel.pending) ∧
      ∀ alarm ∈ (channel.settleEach requests outcome).alarms, alarm ∈ channel.alarms := by
  induction requests generalizing channel with
  | nil => exact ⟨fun _ present => present, fun _ present => present⟩
  | cons first rest ih =>
      obtain ⟨left, set⟩ := @ih (channel.settle first.id outcome)
      constructor
      · intro waiting present
        have kept := left waiting present
        rw [pending_settle] at kept
        exact (List.mem_filter.mp kept).1
      · exact fun alarm present => alarms_settle (set alarm present)

theorem rejectThrough_eq (channel : Channel) (generation : Nat) :
    channel.rejectThrough generation =
      channel.settleEach
        (channel.pending.filter fun waiting => waiting.generation ≤ generation)
        (.error .connectionClosed) :=
  rfl

/-! ## Registrations -/

section Register

variable (channel : Channel) (id : RequestId) (event : String) (generation : Nat)
  (timeout : Duration)

theorem ids_register : (channel.register id event generation timeout).ids = channel.ids := by
  unfold register attachAlarm
  dsimp only
  split <;> rfl

theorem isPending_enterWaiting (other : RequestId) :
    (channel.enterWaiting id event generation).isPending other =
      (channel.isPending other || decide (id = other)) := by
  simp [isPending, enterWaiting]

/-- The alarm of a registration finds its request, so it is tied to it. -/
theorem register_eq :
    channel.register id event generation timeout =
      let entered := channel.enterWaiting id event generation
      let set := entered.setAlarm (channel.now + timeout.millisecondsUp) (.expire id timeout)
      { set.2 with
        pending := entered.pending.map fun waiting =>
          if waiting.id = id then { waiting with alarm := some set.1 } else waiting } := by
  have waits : (channel.enterWaiting id event generation).isPending id = true := by
    simp [isPending_enterWaiting]
  unfold register attachAlarm
  dsimp only
  split
  · rfl
  · next absent => exact absurd waits absent

/-- A registered request waits on its generation; the others wait as before. -/
theorem mem_register {waiting : Waiting}
    (present : waiting ∈ (channel.register id event generation timeout).pending) :
    (waiting.id = id ∧ waiting.generation = generation) ∨
      ∃ before ∈ channel.pending, before.id = waiting.id ∧
        before.generation = waiting.generation := by
  rw [register_eq] at present
  obtain ⟨before, entered, rfl⟩ := List.mem_map.mp present
  rcases List.mem_append.mp entered with old | new
  · refine Or.inr ⟨before, old, ?_⟩
    split <;> exact ⟨rfl, rfl⟩
  · rw [List.mem_singleton.mp new]
    left
    split <;> exact ⟨rfl, rfl⟩

theorem isPending_register (other : RequestId) :
    (channel.register id event generation timeout).isPending other =
      (channel.isPending other || decide (id = other)) := by
  rw [← isPending_enterWaiting channel id event generation, register_eq]
  unfold isPending
  dsimp only
  rw [List.any_map]
  congr 1
  funext waiting
  simp only [Function.comp_apply]
  split <;> rfl

theorem fate?_register (other : RequestId) :
    (channel.register id event generation timeout).fate? other =
      (channel.fate? other).or (if id = other then some none else none) := by
  rw [register_eq]
  unfold fate?
  show ((channel.futures ++ [({ id } : Future)]).find? _).map Future.outcome = _
  rw [List.find?_append, Option.map_or]
  by_cases same : id = other <;> simp [same]

theorem mem_alarms_register {alarm : Alarm}
    (present : alarm ∈ (channel.register id event generation timeout).alarms) :
    alarm ∈ channel.alarms ∨ alarm.purpose = .expire id timeout := by
  rw [register_eq] at present
  rcases List.mem_append.mp present with old | new
  · exact Or.inl old
  · rw [List.mem_singleton.mp new]
    exact Or.inr rfl

end Register

end Intercom.Channel
