import Intercom.Duration

/-!
# Backoff

When a lost connection is tried again, and how long the channel waits before each attempt. The
wait doubles from attempt to attempt up to a ceiling. With jitter it is drawn at random from the
upper half of the whole milliseconds up to it; the draw is an argument.

Results: a drawn delay is at most the base delay (`delayFor_le_baseDelay`).
-/

namespace Intercom

/-- A policy for attempts to connect again, which are counted from 1. -/
structure Backoff where
  enabled : Bool
  initial : Duration
  ceiling : Duration
  limit : Option UInt32
  jitter : Bool
deriving DecidableEq

namespace Backoff

/-- Never tries again. -/
def disabled : Backoff :=
  { enabled := false
    initial := .ofMilliseconds 500
    ceiling := .ofMilliseconds 30000
    limit := none
    jitter := true }

instance : Inhabited Backoff := ⟨disabled⟩

/-- Doubles the wait from `initial` up to `ceiling`, or up to `initial` if that is longer. -/
def exponential (initial ceiling : Duration) : Backoff :=
  { enabled := true
    initial
    ceiling := ceiling.longer initial
    limit := none
    jitter := true }

/-- The policy that gives up after a number of attempts. -/
def withLimit (policy : Backoff) (attempts : UInt32) : Backoff :=
  { policy with limit := some attempts }

/-- The policy with jitter or without. -/
def withJitter (policy : Backoff) (jitter : Bool) : Backoff :=
  { policy with jitter }

/-- Whether an attempt may be made. -/
def allows (policy : Backoff) (attempt : UInt32) : Bool :=
  policy.enabled && policy.limit.all fun limit => attempt ≤ limit

/-- How often the wait has doubled before an attempt; after 31 times it stays as it is. -/
def doublings (attempt : UInt32) : Nat :=
  min (attempt.toNat - 1) 31

/-- The wait before an attempt without jitter. -/
def baseDelay (policy : Backoff) (attempt : UInt32) : Duration :=
  (policy.initial.times (Nat.pow 2 (doublings attempt))).shorter policy.ceiling

/-- The least wait that can be drawn below a number of milliseconds. -/
def shortestDraw (milliseconds : Nat) : Nat :=
  milliseconds / 2

/-- The wait before an attempt, given what was drawn. -/
def delayFor (policy : Backoff) (attempt : UInt32) (draw : Nat) : Duration :=
  let base := policy.baseDelay attempt
  if !policy.jitter || base.isZero then base
  else
    let upper := base.milliseconds64.toNat
    let lower := shortestDraw upper
    .ofMilliseconds (lower + draw % (upper - lower + 1))

theorem milliseconds64_le (d : Duration) : d.milliseconds64.toNat * 1_000_000 ≤ d.nanoseconds := by
  have whole : d.nanoseconds / 1_000_000 * 1_000_000 ≤ d.nanoseconds := Nat.div_mul_le_self _ _
  rw [Duration.toNat_milliseconds64]
  exact Nat.le_trans (Nat.mul_le_mul_right _ (Nat.min_le_left _ _)) whole

theorem delayFor_le_baseDelay (policy : Backoff) (attempt : UInt32) (draw : Nat) :
    (policy.delayFor attempt draw).nanoseconds ≤ (policy.baseDelay attempt).nanoseconds := by
  unfold delayFor
  dsimp only
  split
  · exact Nat.le_refl _
  · have top := milliseconds64_le (policy.baseDelay attempt)
    have drawn := Nat.mod_lt draw
      (Nat.succ_pos ((policy.baseDelay attempt).milliseconds64.toNat -
        shortestDraw (policy.baseDelay attempt).milliseconds64.toNat))
    have half : shortestDraw (policy.baseDelay attempt).milliseconds64.toNat ≤
        (policy.baseDelay attempt).milliseconds64.toNat := Nat.div_le_self _ _
    rw [Duration.ofMilliseconds, Duration.nanoseconds_ofNanoseconds]
    refine Nat.le_trans (Nat.min_le_left _ _) (Nat.le_trans (Nat.mul_le_mul_right _ ?_) top)
    simp only [Nat.succ_eq_add_one] at drawn
    omega

end Backoff

end Intercom
