import Intercom.Identifiers
import Intercom.Table

/-!
# Listeners

Who listens for which event. A registry keeps, for each event that anyone listens for, the listeners
in the order of their registration; an event that nobody listens for has no entry. Every
registration gets an identifier of its own, above all earlier ones.

Results: what each operation does to the listeners of an event (`ofEvent_add`, `ofEvent_removeAll`,
`ofEvent_removeOne`), and that no event keeps an empty list (`noneEmpty_add`, `noneEmpty_removeAll`,
`noneEmpty_removeOne`).
-/

namespace Intercom

/-- One registration. -/
structure Listener (α : Type) where
  id : SubscriptionId
  handler : α

/-- The listeners of every event. -/
structure Listeners (α : Type) where
  byEvent : List (String × List (Listener α)) := []
  last : SubscriptionId := ⟨0⟩

namespace Listeners

variable {α : Type}

/-- The listeners of an event, in the order of their registration. -/
def ofEvent (registry : Listeners α) (event : String) : List (Listener α) :=
  (Table.find? event registry.byEvent).getD []

/-- How many listeners an event has. -/
def count (registry : Listeners α) (event : String) : Nat :=
  (registry.ofEvent event).length

/-- The registry with another list for an event; an empty list takes the entry away. -/
def store (registry : Listeners α) (event : String) (list : List (Listener α)) : Listeners α :=
  { registry with
    byEvent :=
      if list.isEmpty then Table.erase event registry.byEvent
      else Table.insert event list registry.byEvent }

/-- The registry with one more listener for an event, and its identifier. -/
def add (registry : Listeners α) (event : String) (handler : α) :
    SubscriptionId × Listeners α :=
  let id : SubscriptionId := ⟨registry.last.value + 1⟩
  (id, { registry.store event (registry.ofEvent event ++ [⟨id, handler⟩]) with last := id })

/-- The registry without the listeners of an event, and how many those were. -/
def removeAll (registry : Listeners α) (event : String) : Nat × Listeners α :=
  (registry.count event, registry.store event [])

/-- The registry without one registration, if it is one for this event, and how many it was. -/
def removeOne (registry : Listeners α) (event : String) (id : SubscriptionId) :
    Nat × Listeners α :=
  let list := registry.ofEvent event
  if list.any fun listener => listener.id = id then
    (1, registry.store event (list.eraseP fun listener => listener.id = id))
  else (0, registry)

/-- Removes one registration for an event, or all of them, and says how many those were. -/
def remove (registry : Listeners α) (event : String) :
    Option SubscriptionId → Nat × Listeners α
  | none => registry.removeAll event
  | some id => registry.removeOne event id

/-- No event keeps an empty list. -/
def NoneEmpty (registry : Listeners α) : Prop :=
  ∀ event, Table.find? event registry.byEvent ≠ some []

@[simp] theorem ofEvent_store (registry : Listeners α) (event name : String)
    (list : List (Listener α)) :
    (registry.store event list).ofEvent name =
      if event = name then list else registry.ofEvent name := by
  unfold ofEvent store
  by_cases empty : list = []
  · subst empty
    simp only [List.isEmpty_nil, if_true, Table.find?_erase]
    split <;> rfl
  · simp only [List.isEmpty_iff, empty, if_false, Table.find?_insert]
    split <;> rfl

theorem noneEmpty_store {registry : Listeners α} (event : String) (list : List (Listener α))
    (noneEmpty : registry.NoneEmpty) : (registry.store event list).NoneEmpty := by
  intro name
  unfold store
  by_cases empty : list = []
  · subst empty
    simp only [List.isEmpty_nil, if_true, Table.find?_erase]
    split
    · exact fun found => nomatch found
    · exact noneEmpty name
  · simp only [List.isEmpty_iff, empty, if_false, Table.find?_insert]
    split
    · exact fun found => empty (Option.some.inj found)
    · exact noneEmpty name

theorem ofEvent_add (registry : Listeners α) (event name : String) (handler : α) :
    (registry.add event handler).2.ofEvent name =
      if event = name then registry.ofEvent event ++ [⟨(registry.add event handler).1, handler⟩]
      else registry.ofEvent name :=
  ofEvent_store registry event name _

theorem ofEvent_removeAll (registry : Listeners α) (event name : String) :
    (registry.removeAll event).2.ofEvent name =
      if event = name then [] else registry.ofEvent name :=
  ofEvent_store registry event name _

theorem ofEvent_removeOne (registry : Listeners α) (event name : String) (id : SubscriptionId) :
    (registry.removeOne event id).2.ofEvent name =
      if event = name then (registry.ofEvent event).eraseP fun listener => listener.id = id
      else registry.ofEvent name := by
  unfold removeOne
  dsimp only
  split
  · exact ofEvent_store registry event name _
  · next absent =>
      split
      · next equal =>
          subst equal
          exact (List.eraseP_of_forall_not fun listener member found =>
            absent (List.any_eq_true.mpr ⟨listener, member, found⟩)).symm
      · rfl

theorem noneEmpty_add {registry : Listeners α} (event : String) (handler : α)
    (noneEmpty : registry.NoneEmpty) : (registry.add event handler).2.NoneEmpty :=
  noneEmpty_store event _ noneEmpty

theorem noneEmpty_removeAll {registry : Listeners α} (event : String)
    (noneEmpty : registry.NoneEmpty) : (registry.removeAll event).2.NoneEmpty :=
  noneEmpty_store event _ noneEmpty

theorem noneEmpty_removeOne {registry : Listeners α} (event : String) (id : SubscriptionId)
    (noneEmpty : registry.NoneEmpty) : (registry.removeOne event id).2.NoneEmpty := by
  unfold removeOne
  dsimp only
  split
  · exact noneEmpty_store event _ noneEmpty
  · exact noneEmpty

end Listeners

end Intercom
