import Testbed.Duration

/-!
# Polling

`Poll.run` calls a probe until it gives a value or the time is up.

**Time** comes from outside: `clock k` is the time that has passed since the start when probe number
`k` (from zero) has returned. A poll that goes on after a probe sleeps for the interval, but never
beyond the timeout as counted from that reading (`Poll.pause?`).

**Attempts.** The probes are counted in 32 bits, and the count stays at the greatest number.

**The bound.** A poll whose clock never reaches the timeout has no end, so `run` takes the number of
probes it may make and says when they were not enough.
-/

namespace Testbed

/-- How long to poll, and how long to sleep between two probes. -/
structure Poll where
  timeout : Duration
  interval : Duration
deriving DecidableEq, Repr

namespace Poll

/-- How polling ends. -/
inductive Ending (α : Type) where
  /-- A probe gave a value. -/
  | found (value : α)
  /-- The time was up after a probe that gave nothing; the attempts counted so far are reported. -/
  | expired (attempts : UInt32)
  /-- The probes allowed were not enough. -/
  | unfinished
deriving DecidableEq, Repr

/-- What polling did: how it ended, how often the probe ran, and the sleeps it asked for. -/
structure Run (α : Type) where
  ending : Ending α
  calls : Nat
  sleeps : List Duration
deriving DecidableEq, Repr

/-- The sleep at a time before the timeout: the interval, or what is left. -/
def sleepAt (p : Poll) (elapsed : Duration) : Duration :=
  p.interval.shorter (p.timeout.remaining elapsed)

/-- The sleep after a probe that gave nothing, or none when the time is up. -/
def pause? (p : Poll) (elapsed : Duration) : Option Duration :=
  if p.timeout ≤ elapsed then none else some (p.sleepAt elapsed)

/-- One attempt more; the count stays at the greatest 32-bit number. -/
def countAttempt (attempts : UInt32) : UInt32 :=
  if attempts = UInt32.ofNat (UInt32.size - 1) then attempts else attempts + 1

/-- Polls from probe number `k` on, with the attempts counted so far. -/
def runFrom {α : Type} (p : Poll) (probe : Nat → Option α) (clock : Nat → Duration) :
    Nat → Nat → UInt32 → Run α
  | 0, k, _ => ⟨.unfinished, k, []⟩
  | fuel + 1, k, attempts =>
    let attempts := countAttempt attempts
    match probe k with
    | some v => ⟨.found v, k + 1, []⟩
    | none =>
      match p.pause? (clock k) with
      | none => ⟨.expired attempts, k + 1, []⟩
      | some sleep =>
        let rest := runFrom p probe clock fuel (k + 1) attempts
        { rest with sleeps := sleep :: rest.sleeps }

def run {α : Type} (p : Poll) (probe : Nat → Option α) (clock : Nat → Duration) (limit : Nat) :
    Run α :=
  runFrom p probe clock limit 0 0

/-- The clock of a poll in which nothing but the sleeps takes time. -/
def sleepClock (p : Poll) (k : Nat) : Duration :=
  Duration.shorter ⟨k * p.interval.nanos⟩ p.timeout

/-- The report of a poll whose time was up. -/
def timeoutMessage (p : Poll) (attempts : UInt32) : String :=
  s!"timed out after {p.timeout.millis}ms waiting for polled function to return a value " ++
    s!"({attempts} attempts)"

end Poll
end Testbed
