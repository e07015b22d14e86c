/-!
# Durations

A span of time in whole nanoseconds, below `2 ^ 64` seconds. Arithmetic that would leave that range
stops at the longest duration.

Results: a product is exact or the longest duration (`nanoseconds_times`), and so are whole
milliseconds as a word (`toNat_milliseconds64`).
-/

namespace Intercom

/-- A span of time. -/
structure Duration where
  nanoseconds : Nat
  bounded : nanoseconds < UInt64.size * 1_000_000_000
deriving DecidableEq

namespace Duration

/-- The longest duration. -/
def longest : Duration :=
  ⟨UInt64.size * 1_000_000_000 - 1, by decide⟩

/-- The empty duration. -/
def zero : Duration :=
  ⟨0, by decide⟩

instance : Inhabited Duration := ⟨zero⟩

/-- A number of nanoseconds, or the longest duration if that is shorter. -/
def ofNanoseconds (n : Nat) : Duration :=
  if bounded : n < UInt64.size * 1_000_000_000 then ⟨n, bounded⟩ else longest

/-- A number of milliseconds. -/
def ofMilliseconds (n : Nat) : Duration :=
  ofNanoseconds (n * 1_000_000)

/-- A number of seconds and nanoseconds. -/
def ofParts (seconds nanoseconds : Nat) : Duration :=
  ofNanoseconds (seconds * 1_000_000_000 + nanoseconds)

/-- The whole milliseconds of a duration. -/
def milliseconds (d : Duration) : Nat :=
  d.nanoseconds / 1_000_000

/-- The whole milliseconds of a duration as a word, the largest word if they are more. -/
def milliseconds64 (d : Duration) : UInt64 :=
  UInt64.ofNat (min d.milliseconds (UInt64.size - 1))

/-- The milliseconds that a duration takes on a clock that only shows whole ones. -/
def millisecondsUp (d : Duration) : Nat :=
  (d.nanoseconds + 999_999) / 1_000_000

/-- Whether a duration is empty. -/
def isZero (d : Duration) : Bool :=
  d.nanoseconds == 0

/-- A duration several times over. -/
def times (d : Duration) (factor : Nat) : Duration :=
  ofNanoseconds (d.nanoseconds * factor)

/-- The shorter of two durations. -/
def shorter (first second : Duration) : Duration :=
  if first.nanoseconds ≤ second.nanoseconds then first else second

/-- The longer of two durations. -/
def longer (first second : Duration) : Duration :=
  if first.nanoseconds ≤ second.nanoseconds then second else first

theorem nanoseconds_ofNanoseconds (n : Nat) :
    (ofNanoseconds n).nanoseconds = min n longest.nanoseconds := by
  unfold ofNanoseconds
  split
  · next bounded => simp only [longest]; omega
  · next unbounded => simp only [longest]; omega

theorem nanoseconds_times (d : Duration) (factor : Nat) :
    (d.times factor).nanoseconds = min (d.nanoseconds * factor) longest.nanoseconds :=
  nanoseconds_ofNanoseconds _

theorem toNat_milliseconds64 (d : Duration) :
    d.milliseconds64.toNat = min (d.nanoseconds / 1_000_000) (UInt64.size - 1) := by
  have fits : min d.milliseconds (UInt64.size - 1) < UInt64.size :=
    Nat.lt_of_le_of_lt (Nat.min_le_right _ _) (by decide)
  rw [milliseconds64, UInt64.toNat_ofNat', Nat.mod_eq_of_lt fits, milliseconds]

@[simp] theorem nanoseconds_shorter (first second : Duration) :
    (first.shorter second).nanoseconds = min first.nanoseconds second.nanoseconds := by
  unfold shorter
  split <;> omega

@[simp] theorem nanoseconds_longer (first second : Duration) :
    (first.longer second).nanoseconds = max first.nanoseconds second.nanoseconds := by
  unfold longer
  split <;> omega

end Duration

end Intercom
