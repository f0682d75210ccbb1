import Mathlib.Algebra.Order.Floor.Div
import Testbed.Duration

/-!
# Keeping pace with a clock

A loop that has a limit reads a clock once in each round. As long as the reading is below the limit
it sleeps, for a step or for what is left until the limit if that is less, and goes on to the next
round.

**Theorem (`rounds_le`).** If no sleep is too short, such a loop goes on for at most as many rounds
as steps are needed to cover the limit. A sleep may be too long by any amount.

After each round the clock is one step further or at the limit (`min_le_reading`), so the readings
below the limit are at least as far as the steps before them.
-/

namespace Testbed.Duration

variable {limit step now : Duration} {clock : Nat → Duration} {n : Nat}

theorem le_iff {a b : Duration} : a ≤ b ↔ a.nanos ≤ b.nanos := Iff.rfl

theorem lt_iff {a b : Duration} : a < b ↔ a.nanos < b.nanos := Iff.rfl

theorem not_le {a b : Duration} : ¬a ≤ b ↔ b < a := Nat.not_le

@[simp] theorem nanos_add (a b : Duration) : (a + b).nanos = a.nanos + b.nanos := rfl

@[simp] theorem nanos_remaining (a b : Duration) : (a.remaining b).nanos = a.nanos - b.nanos := rfl

@[simp] theorem nanos_shorter (a b : Duration) : (a.shorter b).nanos = min a.nanos b.nanos := by
  unfold shorter
  split_ifs with h
  · exact (Nat.min_eq_left h).symm
  · exact (Nat.min_eq_right (Nat.le_of_not_le h)).symm

theorem shorter_comm (a b : Duration) : a.shorter b = b.shorter a := by
  have hnanos : (a.shorter b).nanos = (b.shorter a).nanos := by
    rw [nanos_shorter, nanos_shorter, Nat.min_comm]
  exact congrArg mk hnanos

theorem shorter_le_left (a b : Duration) : a.shorter b ≤ a := by
  rw [le_iff, nanos_shorter]
  exact Nat.min_le_left ..

/-- A sleep for no more than what is left ends at the limit at the latest. -/
theorem add_shorter_remaining_le (step : Duration) (h : now < limit) :
    now + step.shorter (limit.remaining now) ≤ limit := by
  rw [lt_iff] at h
  rw [le_iff, nanos_add, nanos_shorter, nanos_remaining]
  omega

/-- A clock that no sleep is too short for is behind the steps so far, or at the limit. -/
theorem min_le_reading
    (h : ∀ k < n, clock k + step.shorter (limit.remaining (clock k)) ≤ clock (k + 1)) :
    min (n * step.nanos) limit.nanos ≤ (clock n).nanos := by
  induction n with
  | zero => simp
  | succ n ih =>
    have hbefore := ih fun k hk => h k (Nat.lt_succ_of_lt hk)
    have hsleep := h n (Nat.lt_succ_self n)
    rw [le_iff, nanos_add, nanos_shorter, nanos_remaining] at hsleep
    rw [Nat.succ_mul]
    omega

/-- **A loop with a limit goes on for as many rounds as steps cover the limit**, at most. -/
theorem rounds_le (hstep : 0 < step.nanos) (hbelow : ∀ k < n, clock k < limit)
    (hsleep : ∀ k, k + 1 < n →
      clock k + step.shorter (limit.remaining (clock k)) ≤ clock (k + 1)) :
    n ≤ limit.nanos ⌈/⌉ step.nanos := by
  cases n with
  | zero => exact Nat.zero_le _
  | succ n =>
    have hreading := min_le_reading fun k hk => hsleep k (Nat.succ_lt_succ hk)
    have hlast := hbelow n (Nat.lt_succ_self n)
    rw [lt_iff] at hlast
    have hsteps : step.nanos * n < limit.nanos := by
      rw [Nat.mul_comm]
      omega
    have hnot : ¬limit.nanos ⌈/⌉ step.nanos ≤ n := by
      rw [ceilDiv_le_iff_le_mul hstep]
      exact Nat.not_le.mpr hsteps
    exact Nat.not_le.mp hnot

end Testbed.Duration
