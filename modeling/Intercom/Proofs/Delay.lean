import Mathlib
import Intercom.Backoff

/-!
# The wait before a reconnection

The wait doubles from attempt to attempt until it reaches the ceiling. Two limits of the arithmetic
show in it. The factor has 32 bits, so a wait that is still short of the ceiling after 31 doublings
stays there; and a wait is drawn in whole milliseconds of 64 bits, so that it may be less than half
of the base wait.

Results:
1. `Backoff.Exponential.nanoseconds_baseDelay`: the base wait in nanoseconds, without rounding or
   overflow.
2. `Backoff.exists_draw_iff`: the waits that can be drawn.
3. `doubled_until_ceiling`: exactly which policies and attempts the doubling law holds for.
4. `drawn_upper_half`: exactly which base waits are drawn from their upper half.
-/

namespace Intercom

/-! ## Definitions -/

/-- The policies made by `exponential`, with any limit, and with jitter or without. -/
inductive Backoff.Exponential (initial ceiling : Duration) : Backoff → Prop where
  | plain : Exponential initial ceiling (exponential initial ceiling)
  | limited {policy : Backoff} (attempts : UInt32) :
      Exponential initial ceiling policy → Exponential initial ceiling (policy.withLimit attempts)
  | jittered {policy : Backoff} (jitter : Bool) :
      Exponential initial ceiling policy → Exponential initial ceiling (policy.withJitter jitter)

namespace Backoff

variable {initial ceiling : Duration} {policy : Backoff} {attempt next : UInt32}

/-! ## The base wait -/

/-- A ceiling is a duration, so that an overflow of the product lies beyond it. -/
theorem nanoseconds_baseDelay (policy : Backoff) (attempt : UInt32) :
    (policy.baseDelay attempt).nanoseconds =
      min (policy.initial.nanoseconds * 2 ^ doublings attempt) policy.ceiling.nanoseconds := by
  have reachable : policy.ceiling.nanoseconds ≤ Duration.longest.nanoseconds :=
    Nat.le_sub_one_of_lt policy.ceiling.bounded
  rw [baseDelay, Duration.nanoseconds_shorter, Duration.nanoseconds_times, Nat.min_assoc,
    Nat.min_eq_right reachable]
  rfl

/-- As long as the factor has room, the wait of the next attempt is twice this one, up to the
ceiling. -/
theorem nanoseconds_baseDelay_next (policy : Backoff) (follows : next.toNat = attempt.toNat + 1)
    (counted : 1 ≤ attempt.toNat) (early : attempt.toNat < 32) :
    (policy.baseDelay next).nanoseconds =
      min (2 * (policy.baseDelay attempt).nanoseconds) policy.ceiling.nanoseconds := by
  have once : doublings next = doublings attempt + 1 := by
    unfold doublings
    omega
  rw [nanoseconds_baseDelay, nanoseconds_baseDelay, once, Nat.pow_succ, ← Nat.mul_assoc]
  omega

theorem baseDelay_next (policy : Backoff) (follows : next.toNat = attempt.toNat + 1)
    (late : 32 ≤ attempt.toNat) : policy.baseDelay next = policy.baseDelay attempt := by
  have same : doublings next = doublings attempt := by
    unfold doublings
    omega
  rw [baseDelay, same, ← baseDelay]

/-- A product that is cut off after 31 doublings makes no difference unless the ceiling lies beyond
it. -/
theorem min_doubled_iff (first last n : Nat) :
    min (first * 2 ^ min n 31) (max last first) = min (first * 2 ^ n) (max last first) ↔
      n ≤ 31 ∨ first = 0 ∨ last ≤ first * 2 ^ 31 := by
  rcases Nat.eq_zero_or_pos first with rfl | filled
  · simp
  · rcases Nat.lt_or_ge 31 n with late | early
    · obtain ⟨more, rfl⟩ := Nat.exists_eq_add_of_lt late
      have cut : min (31 + more + 1) 31 = 31 := by omega
      have grown : first * 2 ^ (31 + more + 1) = first * 2 ^ 31 * 2 * 2 ^ more := by ring
      have least : first * 2 ^ 31 * 2 ≤ first * 2 ^ 31 * 2 * 2 ^ more :=
        Nat.le_mul_of_pos_right _ (Nat.two_pow_pos more)
      -- past 31 doublings the exact product is at least twice the one that is cut off
      rw [cut, grown]
      omega
    · simp [early]

namespace Exponential

theorem durations (made : Exponential initial ceiling policy) :
    policy.initial = initial ∧ policy.ceiling = ceiling.longer initial := by
  induction made with
  | plain => exact ⟨rfl, rfl⟩
  | limited _ _ ih => exact ih
  | jittered _ _ ih => exact ih

theorem nanoseconds_ceiling (made : Exponential initial ceiling policy) :
    policy.ceiling.nanoseconds = max ceiling.nanoseconds initial.nanoseconds := by
  rw [made.durations.2, Duration.nanoseconds_longer]

theorem nanoseconds_baseDelay (made : Exponential initial ceiling policy) (attempt : UInt32) :
    (policy.baseDelay attempt).nanoseconds =
      min (initial.nanoseconds * 2 ^ min (attempt.toNat - 1) 31)
        (max ceiling.nanoseconds initial.nanoseconds) := by
  rw [Backoff.nanoseconds_baseDelay, made.nanoseconds_ceiling, made.durations.1, doublings]

end Exponential

/-! ## The wait that is drawn -/

theorem eq_ofMilliseconds_zero {delay : Duration} (empty : delay.isZero = true) :
    delay = .ofMilliseconds 0 := by
  obtain ⟨nanoseconds, bounded⟩ := delay
  have none : nanoseconds = 0 := by simpa [Duration.isZero] using empty
  subst none
  rfl

/-- An empty base wait is no exception: there is one number of milliseconds to draw. -/
theorem delayFor_eq (jitter : policy.jitter = true) (attempt : UInt32) (draw : Nat) :
    policy.delayFor attempt draw =
      .ofMilliseconds (shortestDraw (policy.baseDelay attempt).milliseconds64.toNat +
        draw % ((policy.baseDelay attempt).milliseconds64.toNat -
          shortestDraw (policy.baseDelay attempt).milliseconds64.toNat + 1)) := by
  unfold delayFor
  dsimp only
  rw [jitter, Bool.not_true, Bool.false_or]
  split
  · next empty =>
      have single : draw % 1 = 0 := Nat.mod_one draw
      rw [eq_ofMilliseconds_zero empty]
      show _ = Duration.ofMilliseconds (0 + draw % 1)
      rw [single]
  · rfl

/-- A wait is drawn in whole milliseconds, and each number of them from the half of the base wait up
can come out. -/
theorem exists_draw_iff (jitter : policy.jitter = true) (attempt : UInt32) (delay : Duration) :
    (∃ draw, policy.delayFor attempt draw = delay) ↔
      ∃ k, shortestDraw (policy.baseDelay attempt).milliseconds64.toNat ≤ k ∧
        k ≤ (policy.baseDelay attempt).milliseconds64.toNat ∧ delay = .ofMilliseconds k := by
  simp only [delayFor_eq jitter]
  generalize (policy.baseDelay attempt).milliseconds64.toNat = most
  have half : shortestDraw most ≤ most := Nat.div_le_self most 2
  constructor
  · rintro ⟨draw, rfl⟩
    have drawn : draw % (most - shortestDraw most + 1) < most - shortestDraw most + 1 :=
      Nat.mod_lt draw (Nat.succ_pos _)
    exact ⟨_, Nat.le_add_right _ _, by omega, rfl⟩
  · rintro ⟨k, least, within, rfl⟩
    refine ⟨k - shortestDraw most, ?_⟩
    rw [Nat.mod_eq_of_lt (by omega), Nat.add_sub_cancel' least]

theorem nanoseconds_ofMilliseconds_of_le {k : Nat} {base : Duration}
    (within : k ≤ base.milliseconds64.toNat) :
    (Duration.ofMilliseconds k).nanoseconds = k * 1_000_000 := by
  have whole := milliseconds64_le base
  have bounded := base.bounded
  rw [Duration.ofMilliseconds, Duration.nanoseconds_ofNanoseconds, Duration.longest]
  dsimp only
  omega

/-- What every wait that can be drawn reaches is what the shortest one does. -/
theorem forall_draw_iff (jitter : policy.jitter = true) (attempt : UInt32) (least : Nat) :
    (∀ draw, least ≤ (policy.delayFor attempt draw).nanoseconds) ↔
      least ≤ shortestDraw (policy.baseDelay attempt).milliseconds64.toNat * 1_000_000 := by
  have half : shortestDraw (policy.baseDelay attempt).milliseconds64.toNat ≤
      (policy.baseDelay attempt).milliseconds64.toNat := Nat.div_le_self _ _
  constructor
  · intro reached
    obtain ⟨draw, drawn⟩ := (exists_draw_iff jitter attempt _).mpr ⟨_, Nat.le_refl _, half, rfl⟩
    have shortest := reached draw
    rwa [drawn, nanoseconds_ofMilliseconds_of_le half] at shortest
  · intro reached draw
    obtain ⟨k, more, within, drawn⟩ := (exists_draw_iff jitter attempt _).mp ⟨draw, rfl⟩
    rw [drawn, nanoseconds_ofMilliseconds_of_le within]
    exact Nat.le_trans reached (Nat.mul_le_mul_right _ more)

end Backoff

open Backoff in
/-- The wait before an attempt is the first one doubled with every attempt before, up to the ceiling
or up to the first wait if that is longer, exactly if no more than 31 doublings are asked for or 31
are enough to reach the ceiling. Until then it doubles from attempt to attempt, and after that it
stays as it is. -/
theorem doubled_until_ceiling {initial ceiling : Duration} {policy : Backoff}
    (made : Exponential initial ceiling policy) (attempt : UInt32) :
    ((policy.baseDelay attempt).nanoseconds =
        min (initial.nanoseconds * 2 ^ (attempt.toNat - 1))
          (max ceiling.nanoseconds initial.nanoseconds) ↔
      attempt.toNat ≤ 32 ∨ initial.nanoseconds = 0 ∨
        ceiling.nanoseconds ≤ initial.nanoseconds * 2 ^ 31) ∧
    (policy.baseDelay attempt).nanoseconds =
      min (initial.nanoseconds * 2 ^ min (attempt.toNat - 1) 31)
        (max ceiling.nanoseconds initial.nanoseconds) ∧
    ∀ next : UInt32, next.toNat = attempt.toNat + 1 →
      (1 ≤ attempt.toNat → attempt.toNat < 32 →
        (policy.baseDelay next).nanoseconds =
          min (2 * (policy.baseDelay attempt).nanoseconds)
            (max ceiling.nanoseconds initial.nanoseconds)) ∧
      (32 ≤ attempt.toNat → policy.baseDelay next = policy.baseDelay attempt) := by
  have law := made.nanoseconds_baseDelay attempt
  refine ⟨?_, law, fun next follows => ⟨fun counted early => ?_, policy.baseDelay_next follows⟩⟩
  · rw [law, min_doubled_iff]
    omega
  · rw [policy.nanoseconds_baseDelay_next follows counted early, made.nanoseconds_ceiling]

/-- Doubles the wait from a nanosecond up to ten seconds. -/
def nanosecondFirst : Backoff :=
  .exponential ⟨1, by decide⟩ ⟨10_000_000_000, by decide⟩

/-- From a nanosecond the wait stays at two seconds, and never reaches the ceiling of ten. -/
theorem doubled_until_ceiling_stalled :
    (nanosecondFirst.baseDelay 32).nanoseconds = 2_147_483_648 ∧
      nanosecondFirst.baseDelay 33 = nanosecondFirst.baseDelay 32 ∧
      (nanosecondFirst.baseDelay 33).nanoseconds ≠
        min (1 * 2 ^ (33 - 1)) (max 10_000_000_000 1) := by
  obtain ⟨_, last, later⟩ := doubled_until_ceiling (.plain : Backoff.Exponential _ _ _) 32
  obtain ⟨law, _⟩ := doubled_until_ceiling (.plain : Backoff.Exponential _ _ _) 33
  refine ⟨last, (later 33 rfl).2 (by decide), fun doubled => ?_⟩
  rcases law.mp doubled with early | empty | near
  · exact absurd early (by decide)
  · exact absurd empty (by decide)
  · exact absurd near (by decide)

open Backoff in
/-- With jitter a wait is never longer than the base wait, and every one is at least half of it
exactly if the base wait is an even number of milliseconds, up to a nanosecond, and below `2 ^ 64`
milliseconds. Below that, a wait never falls short of the half by a millisecond. -/
theorem drawn_upper_half {policy : Backoff} (jitter : policy.jitter = true) (attempt : UInt32) :
    (∀ draw, (policy.delayFor attempt draw).nanoseconds ≤
        (policy.baseDelay attempt).nanoseconds) ∧
      ((∀ draw, (policy.baseDelay attempt).nanoseconds / 2 ≤
          (policy.delayFor attempt draw).nanoseconds) ↔
        (policy.baseDelay attempt).nanoseconds % 2_000_000 ≤ 1 ∧
          (policy.baseDelay attempt).nanoseconds < UInt64.size * 1_000_000) ∧
      ((policy.baseDelay attempt).nanoseconds < UInt64.size * 1_000_000 →
        ∀ draw, (policy.baseDelay attempt).nanoseconds <
          2 * (policy.delayFor attempt draw).nanoseconds + 2_000_000) := by
  have whole := (policy.baseDelay attempt).toNat_milliseconds64
  refine ⟨delayFor_le_baseDelay policy attempt, ?_, fun fits draw => ?_⟩
  · rw [forall_draw_iff jitter, shortestDraw, whole, UInt64.size]
    omega
  · have shortest := (forall_draw_iff jitter attempt _).mpr (Nat.le_refl _) draw
    rw [shortestDraw, whole] at shortest
    rw [UInt64.size] at fits shortest
    omega

/-- Waits half a millisecond before every attempt, with jitter. -/
def halfMillisecond : Backoff :=
  .exponential ⟨500_000, by decide⟩ ⟨500_000, by decide⟩

/-- Half a millisecond is no whole millisecond, so that there is no wait at all. -/
theorem drawn_upper_half_missed :
    halfMillisecond.jitter = true ∧ (halfMillisecond.baseDelay 1).nanoseconds = 500_000 ∧
      (halfMillisecond.delayFor 1 0).nanoseconds = 0 ∧
      ¬ ∀ draw, (halfMillisecond.baseDelay 1).nanoseconds / 2 ≤
        (halfMillisecond.delayFor 1 draw).nanoseconds := by
  have jitter : halfMillisecond.jitter = true := rfl
  obtain ⟨_, upper, _⟩ := drawn_upper_half jitter 1
  refine ⟨jitter, rfl, rfl, fun reached => ?_⟩
  exact absurd (upper.mp reached).1 (by decide)

end Intercom
