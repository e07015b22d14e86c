/-!
# Identifiers

Requests and subscriptions are named by unsigned 64-bit words. A `RequestIds` hands out request
identifiers 1, 2, 3, …
-/

namespace Intercom

/-- The word that ties a response to its request. -/
structure RequestId where
  value : UInt64
deriving DecidableEq, Inhabited

namespace RequestId

/-- The identifier in decimal. -/
def text (id : RequestId) : String :=
  String.ofList (Nat.toDigits 10 id.value.toNat)

/-- The order of two identifiers. -/
def compare (first second : RequestId) : Ordering :=
  Ord.compare first.value second.value

end RequestId

/-- A source of request identifiers. -/
structure RequestIds where
  next : RequestId := ⟨1⟩
deriving DecidableEq, Inhabited

namespace RequestIds

/-- The source whose first identifier is 1. -/
def start : RequestIds := {}

/-- The identifier that the next request gets. -/
def peek (ids : RequestIds) : RequestId :=
  ids.next

/-- The next identifier, and the source after it. -/
def take (ids : RequestIds) : RequestId × RequestIds :=
  (ids.next, ⟨⟨ids.next.value + 1⟩⟩)

end RequestIds

/-- The word that names one registration of a listener. -/
structure SubscriptionId where
  value : UInt64
deriving DecidableEq, Inhabited

namespace SubscriptionId

/-- The identifier with its mark. -/
def text (id : SubscriptionId) : String :=
  "sub-" ++ String.ofList (Nat.toDigits 10 id.value.toNat)

end SubscriptionId

end Intercom
