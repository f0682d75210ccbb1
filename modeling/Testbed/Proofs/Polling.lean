import Testbed.Poll
import Testbed.Proofs.Pace

/-!
# The course of a poll

A poll goes on after a probe as long as the probe gave nothing and the time is not up
(`Poll.GoesOn`). Where it stops is where it first does not go on, and what it did is known from
there (`run_found`, `run_expired`).

**Theorem (`polling_ends`).** A poll makes at least one probe, stops at the first value and gives
it, and fails exactly where a probe gives nothing and the reading behind it is not below the
timeout. No sleep is longer than the interval or goes beyond the timeout. If the clock is behind
every sleep when it is over, and there is an interval, the poll ends after no more probes than
intervals cover the timeout, and one.

A probe after which the poll goes on adds its sleep to what the rest does (`runFrom_goesOn`), and
many such probes do so one after the other (`runFrom_goesOn_many`).
-/

namespace Testbed.Poll

variable {α : Type} {p : Poll} {probe : Nat → Option α} {clock : Nat → Duration}
  {limit k n : Nat} {attempts : UInt32} {v : α}

/-! ## Attempts -/

/-- The count after some attempts. -/
def attemptsAfter (n : Nat) : UInt32 := countAttempt^[n] 0

theorem toNat_countAttempt (a : UInt32) :
    (countAttempt a).toNat = min (a.toNat + 1) (UInt32.size - 1) := by
  have hlt := a.toNat_lt
  unfold countAttempt
  split_ifs with h
  · subst h
    decide
  · have hne : a.toNat ≠ UInt32.size - 1 := by
      intro heq
      exact h (UInt32.toNat_inj.mp heq)
    have hsize : UInt32.size = 2 ^ 32 := rfl
    rw [UInt32.toNat_add, UInt32.toNat_one, Nat.mod_eq_of_lt (by omega)]
    omega

theorem toNat_attemptsAfter (n : Nat) : (attemptsAfter n).toNat = min n (UInt32.size - 1) := by
  induction n with
  | zero => rfl
  | succ n ih =>
    rw [attemptsAfter, Function.iterate_succ_apply', toNat_countAttempt, ← attemptsAfter, ih]
    omega

/-! ## Going on -/

/-- A poll goes on after a probe that gave nothing when the time is not up. -/
def GoesOn (p : Poll) (probe : Nat → Option α) (clock : Nat → Duration) (k : Nat) : Prop :=
  probe k = none ∧ clock k < p.timeout

/-- The sleeps after `n` probes from number `k` on. -/
def sleeps (p : Poll) (clock : Nat → Duration) (k n : Nat) : List Duration :=
  (List.range' k n).map fun j => p.sleepAt (clock j)

@[simp] theorem length_sleeps : (p.sleeps clock k n).length = n := by
  rw [sleeps, List.length_map, List.length_range']

theorem pause?_of_lt {now : Duration} (h : now < p.timeout) : p.pause? now = some (p.sleepAt now) :=
  if_neg (Duration.not_le.mpr h)

theorem runFrom_goesOn (h : p.GoesOn probe clock k) (fuel : Nat) (attempts : UInt32) :
    p.runFrom probe clock (fuel + 1) k attempts =
      let rest := p.runFrom probe clock fuel (k + 1) (countAttempt attempts)
      { rest with sleeps := p.sleepAt (clock k) :: rest.sleeps } := by
  simp only [runFrom, h.1, pause?_of_lt h.2]

theorem runFrom_goesOn_many (h : ∀ j < n, p.GoesOn probe clock (k + j)) (fuel : Nat)
    (attempts : UInt32) :
    p.runFrom probe clock (n + fuel) k attempts =
      let rest := p.runFrom probe clock fuel (k + n) (countAttempt^[n] attempts)
      { rest with sleeps := p.sleeps clock k n ++ rest.sleeps } := by
  induction n generalizing k attempts with
  | zero => simp [sleeps]
  | succ n ih =>
    have hrest : ∀ j < n, p.GoesOn probe clock (k + 1 + j) := by
      intro j hj
      rw [Nat.add_assoc, Nat.add_comm 1 j]
      exact h (j + 1) (Nat.succ_lt_succ hj)
    have hfirst : p.GoesOn probe clock k := h 0 (Nat.succ_pos n)
    rw [Nat.add_right_comm, runFrom_goesOn hfirst, ih hrest,
      Function.iterate_succ_apply, Nat.add_assoc k 1 n, Nat.add_comm 1 n, sleeps, sleeps,
      List.range'_succ]
    rfl

/-! ## Where a poll stops -/

theorem run_unfinished (h : ∀ k < limit, p.GoesOn probe clock k) :
    p.run probe clock limit = ⟨.unfinished, limit, p.sleeps clock 0 limit⟩ := by
  have hrun := runFrom_goesOn_many (k := 0) (by simpa using h) 0 0
  rw [run, ← Nat.add_zero limit, hrun]
  simp [runFrom]

theorem run_found (h : ∀ k < n, p.GoesOn probe clock k) (hv : probe n = some v) (hn : n < limit) :
    p.run probe clock limit = ⟨.found v, n + 1, p.sleeps clock 0 n⟩ := by
  obtain ⟨more, rfl⟩ := Nat.exists_eq_add_of_lt hn
  have hrun := runFrom_goesOn_many (k := 0) (by simpa using h) (more + 1) 0
  rw [run, Nat.add_assoc, hrun]
  simp [runFrom, hv]

theorem run_expired (h : ∀ k < n, p.GoesOn probe clock k) (hv : probe n = none)
    (hclock : p.timeout ≤ clock n) (hn : n < limit) :
    p.run probe clock limit = ⟨.expired (attemptsAfter (n + 1)), n + 1, p.sleeps clock 0 n⟩ := by
  obtain ⟨more, rfl⟩ := Nat.exists_eq_add_of_lt hn
  have hrun := runFrom_goesOn_many (k := 0) (by simpa using h) (more + 1) 0
  have hpause : p.pause? (clock n) = none := if_pos hclock
  rw [run, Nat.add_assoc, hrun]
  simp [runFrom, hv, hpause, attemptsAfter, Function.iterate_succ_apply']

theorem stops (p : Poll) (probe : Nat → Option α) (clock : Nat → Duration) (limit : Nat) :
    (∀ k < limit, p.GoesOn probe clock k) ∨
      ∃ n < limit, (∀ k < n, p.GoesOn probe clock k) ∧
        ((∃ v, probe n = some v) ∨ (probe n = none ∧ p.timeout ≤ clock n)) := by
  induction limit with
  | zero => exact .inl fun k hk => absurd hk (Nat.not_lt_zero k)
  | succ limit ih =>
    rcases ih with hall | ⟨n, hn, hfirst⟩
    · cases hv : probe limit with
      | some v => exact .inr ⟨limit, Nat.lt_succ_self limit, hall, .inl ⟨v, hv⟩⟩
      | none =>
        by_cases hclock : p.timeout ≤ clock limit
        · exact .inr ⟨limit, Nat.lt_succ_self limit, hall, .inr ⟨hv, hclock⟩⟩
        · have hlast : p.GoesOn probe clock limit := ⟨hv, Duration.not_le.mp hclock⟩
          exact .inl (Nat.forall_lt_succ_right.mpr ⟨hall, hlast⟩)
    · exact .inr ⟨n, Nat.lt_succ_of_lt hn, hfirst⟩

/-- **How a poll of some probes ends**: at a value, because the time is up, or since no more probes
are allowed. -/
theorem run_cases (p : Poll) (probe : Nat → Option α) (clock : Nat → Duration) (limit : Nat) :
    ∃ n ≤ limit, (∀ k < n, p.GoesOn probe clock k) ∧
      ((∃ v, probe n = some v ∧
          p.run probe clock (limit + 1) = ⟨.found v, n + 1, p.sleeps clock 0 n⟩) ∨
        (probe n = none ∧ p.timeout ≤ clock n ∧
          p.run probe clock (limit + 1) =
            ⟨.expired (attemptsAfter (n + 1)), n + 1, p.sleeps clock 0 n⟩) ∨
        (p.GoesOn probe clock n ∧
          p.run probe clock (limit + 1) = ⟨.unfinished, n + 1, p.sleeps clock 0 (n + 1)⟩)) := by
  rcases stops p probe clock (limit + 1) with hall | ⟨n, hn, hfirst, ⟨v, hv⟩ | ⟨hv, hclock⟩⟩
  · refine ⟨limit, le_rfl, fun k hk => hall k (Nat.lt_succ_of_lt hk), .inr (.inr ?_)⟩
    exact ⟨hall limit (Nat.lt_succ_self limit), run_unfinished hall⟩
  · exact ⟨n, Nat.le_of_lt_succ hn, hfirst, .inl ⟨v, hv, run_found hfirst hv hn⟩⟩
  · refine ⟨n, Nat.le_of_lt_succ hn, hfirst, .inr (.inl ⟨hv, hclock, ?_⟩)⟩
    exact run_expired hfirst hv hclock hn

/-! ## What a poll did -/

theorem run_calls (p : Poll) (probe : Nat → Option α) (clock : Nat → Duration) (limit : Nat) :
    ∃ n, (p.run probe clock (limit + 1)).calls = n + 1 ∧ ∀ k < n, p.GoesOn probe clock k := by
  obtain ⟨n, -, hfirst, ⟨v, -, hr⟩ | ⟨-, -, hr⟩ | ⟨-, hr⟩⟩ := run_cases p probe clock limit <;>
    exact ⟨n, by rw [hr], hfirst⟩

theorem ending_found_iff :
    (p.run probe clock (limit + 1)).ending = .found v ↔
      probe ((p.run probe clock (limit + 1)).calls - 1) = some v := by
  obtain ⟨n, -, -, ⟨w, hw, hr⟩ | ⟨hnone, -, hr⟩ | ⟨hlast, hr⟩⟩ := run_cases p probe clock limit
  · simp [hr, hw]
  · simp [hr, hnone]
  · simp [hr, hlast.1]

theorem ending_expired_iff :
    (p.run probe clock (limit + 1)).ending = .expired attempts ↔
      probe ((p.run probe clock (limit + 1)).calls - 1) = none ∧
        p.timeout ≤ clock ((p.run probe clock (limit + 1)).calls - 1) ∧
        attempts.toNat = min (p.run probe clock (limit + 1)).calls (2 ^ 32 - 1) := by
  obtain ⟨n, -, -, ⟨w, hw, hr⟩ | ⟨hnone, hclock, hr⟩ | ⟨hlast, hr⟩⟩ := run_cases p probe clock limit
  · simp [hr, hw]
  · have hcount : attempts.toNat = min (n + 1) (2 ^ 32 - 1) ↔ attemptsAfter (n + 1) = attempts := by
      rw [← UInt32.toNat_inj, toNat_attemptsAfter]
      exact eq_comm
    simp only [hr, Nat.add_sub_cancel, Ending.expired.injEq, hnone, hclock, hcount, true_and]
  · simp [hr, Duration.not_le.mpr hlast.2]

theorem ending_unfinished_iff :
    (p.run probe clock (limit + 1)).ending = .unfinished ↔
      (p.run probe clock (limit + 1)).calls = limit + 1 ∧
        ∀ k ≤ limit, p.GoesOn probe clock k := by
  constructor
  · intro hending
    rcases stops p probe clock (limit + 1) with hall | ⟨n, hn, hfirst, ⟨v, hv⟩ | ⟨hv, hclock⟩⟩
    · exact ⟨by rw [run_unfinished hall], fun k hk => hall k (Nat.lt_succ_of_le hk)⟩
    · rw [run_found hfirst hv hn] at hending
      cases hending
    · rw [run_expired hfirst hv hclock hn] at hending
      cases hending
  · rintro ⟨-, hall⟩
    rw [run_unfinished fun k hk => hall k (Nat.le_of_lt_succ hk)]

theorem run_sleeps (p : Poll) (probe : Nat → Option α) (clock : Nat → Duration) (limit : Nat) :
    ∃ n, (p.run probe clock (limit + 1)).calls ≤ n + 1 ∧ (∀ k < n, p.GoesOn probe clock k) ∧
      (p.run probe clock (limit + 1)).sleeps = p.sleeps clock 0 n := by
  obtain ⟨n, -, hfirst, ⟨v, -, hr⟩ | ⟨-, -, hr⟩ | ⟨hlast, hr⟩⟩ := run_cases p probe clock limit
  · exact ⟨n, by rw [hr], hfirst, by rw [hr]⟩
  · exact ⟨n, by rw [hr], hfirst, by rw [hr]⟩
  · refine ⟨n + 1, ?_, Nat.forall_lt_succ_right.mpr ⟨hfirst, hlast⟩, by rw [hr]⟩
    rw [hr]
    exact Nat.le_succ _

theorem sleeps_bounded (h : ∀ k < n, p.GoesOn probe clock k) {sleep : Duration}
    (hsleep : (p.sleeps clock 0 n)[k]? = some sleep) :
    clock k < p.timeout ∧ sleep ≤ p.interval ∧ clock k + sleep ≤ p.timeout := by
  rw [sleeps, List.getElem?_map, Option.map_eq_some_iff] at hsleep
  obtain ⟨j, hj, rfl⟩ := hsleep
  obtain ⟨hk, rfl⟩ := List.getElem?_eq_some_iff.mp hj
  rw [List.length_range'] at hk
  have hclock := (h k hk).2
  rw [List.getElem_range', Nat.zero_add, Nat.one_mul]
  exact ⟨hclock, Duration.shorter_le_left _ _, Duration.add_shorter_remaining_le _ hclock⟩

/-! ## The end -/

/-- A clock that no sleep of a poll is too short for: it is behind each of them when it is over. -/
def Paced (p : Poll) (clock : Nat → Duration) : Prop :=
  ∀ k, clock k < p.timeout → clock k + p.sleepAt (clock k) ≤ clock (k + 1)

/-- A poll whose clock keeps pace goes on as often as intervals cover its timeout, at most. -/
theorem goesOn_le (hinterval : 0 < p.interval.nanos) (hpaced : p.Paced clock)
    (h : ∀ k < n, p.GoesOn probe clock k) : n ≤ p.timeout.nanos ⌈/⌉ p.interval.nanos := by
  refine Duration.rounds_le hinterval (fun k hk => (h k hk).2) fun k hk => ?_
  exact hpaced k (h k (Nat.lt_of_succ_lt hk)).2

theorem exists_end (probe : Nat → Option α) (hinterval : 0 < p.interval.nanos)
    (hpaced : p.Paced clock) :
    ∃ r : Run α, r.ending ≠ .unfinished ∧
      r.calls ≤ p.timeout.nanos ⌈/⌉ p.interval.nanos + 1 ∧
      ∀ limit, p.timeout.nanos ⌈/⌉ p.interval.nanos < limit → p.run probe clock limit = r := by
  rcases stops p probe clock (p.timeout.nanos ⌈/⌉ p.interval.nanos + 1) with
    hall | ⟨n, hn, hfirst, ⟨v, hv⟩ | ⟨hv, hclock⟩⟩
  · exact absurd (goesOn_le hinterval hpaced hall) (Nat.not_succ_le_self _)
  · refine ⟨⟨.found v, n + 1, p.sleeps clock 0 n⟩, by simp, hn, fun limit hlimit => ?_⟩
    exact run_found hfirst hv (Nat.lt_of_le_of_lt (Nat.le_of_lt_succ hn) hlimit)
  · refine ⟨⟨.expired (attemptsAfter (n + 1)), n + 1, p.sleeps clock 0 n⟩, by simp, hn,
      fun limit hlimit => ?_⟩
    exact run_expired hfirst hv hclock (Nat.lt_of_le_of_lt (Nat.le_of_lt_succ hn) hlimit)

/-- **A poll ends.** Take any poll, probe and clock.

1. All probes but the last gave nothing, and there is at least one.
2. The poll ends with a value exactly if the last probe gave it.
3. It ends with a failure exactly if the last probe gave nothing either and the time was up behind
   it. All probes are counted in the failure, up to the greatest number of 32 bits.
4. Between two probes there is a sleep. It begins before the timeout, is not longer than the
   interval and does not go beyond the timeout.
5. It ends with neither exactly if all the probes it may make are made and it would go on after each
   of them.
6. Let it go on after its first `n` probes, at whatever interval. If the next one gives a value, or
   gives nothing when the time is up, the poll ends there, with the value or with a failure, however
   many probes more it may make.
7. If there is an interval and the clock keeps pace, the poll ends, however many probes more it may
   make, and makes no more of them than intervals cover the timeout, and one. -/
theorem polling_ends (p : Poll) (probe : Nat → Option α) (clock : Nat → Duration) :
    (∀ limit, let r := p.run probe clock (limit + 1)
      (0 < r.calls ∧ ∀ k, k + 1 < r.calls → probe k = none) ∧
      (∀ v, r.ending = .found v ↔ probe (r.calls - 1) = some v) ∧
      (∀ attempts, r.ending = .expired attempts ↔
        probe (r.calls - 1) = none ∧ p.timeout ≤ clock (r.calls - 1) ∧
          attempts.toNat = min r.calls (2 ^ 32 - 1)) ∧
      r.calls ≤ r.sleeps.length + 1 ∧
      (∀ k sleep, r.sleeps[k]? = some sleep →
        clock k < p.timeout ∧ sleep ≤ p.interval ∧ clock k + sleep ≤ p.timeout) ∧
      (r.ending = .unfinished ↔
        r.calls = limit + 1 ∧ ∀ k ≤ limit, probe k = none ∧ clock k < p.timeout)) ∧
    (∀ n, (∀ k < n, probe k = none ∧ clock k < p.timeout) → ∀ limit, n < limit →
      let r := p.run probe clock limit
      (∀ v, probe n = some v →
        r.ending = .found v ∧ r.calls = n + 1 ∧ r.sleeps.length = n) ∧
      (probe n = none → p.timeout ≤ clock n →
        (∃ attempts, r.ending = .expired attempts) ∧ r.calls = n + 1 ∧ r.sleeps.length = n)) ∧
    (0 < p.interval.nanos → p.Paced clock →
      ∃ r : Run α, r.ending ≠ .unfinished ∧
        r.calls ≤ p.timeout.nanos ⌈/⌉ p.interval.nanos + 1 ∧
        ∀ limit, p.timeout.nanos ⌈/⌉ p.interval.nanos < limit → p.run probe clock limit = r) := by
  refine ⟨?_, ?_, exists_end probe⟩
  · intro limit r
    obtain ⟨n, hcalls, hfirst⟩ := run_calls p probe clock limit
    obtain ⟨m, hle, hslept, hsleeps⟩ := run_sleeps p probe clock limit
    refine ⟨⟨?_, ?_⟩, fun v => ending_found_iff, fun attempts => ending_expired_iff, ?_, ?_,
      ending_unfinished_iff⟩
    · exact hcalls ▸ Nat.succ_pos n
    · intro k hk
      rw [hcalls] at hk
      exact (hfirst k (Nat.lt_of_succ_lt_succ hk)).1
    · rw [hsleeps, length_sleeps]
      exact hle
    · intro k sleep hsleep
      exact sleeps_bounded hslept (hsleeps ▸ hsleep)
  · intro n hfirst limit hn r
    constructor
    · intro v hv
      have hr : r = ⟨.found v, n + 1, p.sleeps clock 0 n⟩ := run_found hfirst hv hn
      rw [hr]
      exact ⟨rfl, rfl, length_sleeps⟩
    · intro hv hclock
      have hr : r = ⟨.expired (attemptsAfter (n + 1)), n + 1, p.sleeps clock 0 n⟩ :=
        run_expired hfirst hv hclock hn
      rw [hr]
      exact ⟨⟨_, rfl⟩, rfl, length_sleeps⟩

/-- Each sleep takes longer than it was asked to. The poll fails at the third probe, one nanosecond
behind its timeout. -/
theorem fails_past_the_timeout :
    let p : Poll := ⟨⟨10⟩, ⟨4⟩⟩
    let clock : Nat → Duration := fun k => ⟨5 * k + 1⟩
    0 < p.interval.nanos ∧ p.Paced clock ∧
      ∀ limit, 3 < limit → p.run (fun _ => (none : Option Nat)) clock limit =
        ⟨.expired 3, 3, [⟨4⟩, ⟨4⟩]⟩ := by
  intro p clock
  have hpaced : p.Paced clock := by
    intro k _
    have hsleep : p.sleepAt (clock k) ≤ p.interval := Duration.shorter_le_left _ _
    change 5 * k + 1 + (p.sleepAt (clock k)).nanos ≤ 5 * (k + 1) + 1
    have hfour : (p.sleepAt (clock k)).nanos ≤ 4 := hsleep
    omega
  obtain ⟨r, -, -, hr⟩ :=
    (polling_ends p (fun _ => (none : Option Nat)) clock).2.2 (by decide) hpaced
  have hthree : p.timeout.nanos ⌈/⌉ p.interval.nanos = 3 := by
    rw [Nat.ceilDiv_eq_add_pred_div]
    decide
  rw [hthree] at hr
  refine ⟨by decide, hpaced, fun limit hlimit => ?_⟩
  rw [hr limit hlimit, ← hr 4 (by decide)]
  decide

end Testbed.Poll
