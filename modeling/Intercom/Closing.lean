/-!
# Closings

How a socket ended: the code that was sent with the close, if any, and a reason in words.
-/

namespace Intercom

/-- How a socket ended. -/
structure Closing where
  code : Option UInt16 := none
  reason : String := ""
deriving DecidableEq, Inhabited

namespace Closing

/-- The code of an orderly close. -/
def normalCode : UInt16 := 1000

/-- The code by which a device's gate turns a client away. -/
def gateRefusedCode : UInt16 := 4403

/-- The code that says that the client gave no device key. -/
def keyMissingCode : UInt16 := 4500

/-- A close that came with a code. -/
def coded (code : UInt16) (reason : String) : Closing :=
  ⟨some code, reason⟩

/-- A close without a code. -/
def abnormal (reason : String) : Closing :=
  ⟨none, reason⟩

/-- Whether the socket was closed in order. -/
def isNormal (closing : Closing) : Bool :=
  closing.code == some normalCode

end Closing

end Intercom
