import Intercom.Channel

/-!
# Callbacks of a channel

How a script becomes a callback, what it does on each of its runs, and the record that callbacks
leave.
-/

namespace Intercom.Channel

/-- Makes a hook of a script. -/
def addHook (channel : Channel) (script : Script) : Hook × Channel :=
  (⟨channel.runs.length, script⟩, { channel with runs := channel.runs ++ [0] })

/-- Counts a run of a hook and gives what it does on this run. -/
def countRun (channel : Channel) (hook : Hook) : List Action × Channel :=
  let run := channel.runs.getD hook.index 0 + 1
  (hook.script.actionsOnRun run, { channel with runs := channel.runs.set hook.index run })

/-- Writes a line into the record. -/
def record (channel : Channel) (entry : Entry) : Channel :=
  { channel with journal := channel.journal ++ [entry] }

end Intercom.Channel
