import Testbed.Duration

/-!
# Waiting for the end of an exchange

A handler that waits looks again and again whether the server is closing or the client has left
(`Vigil.run`). Between two looks it sleeps for a slice of time, from which it is woken when the
server closes but not when the client leaves.

**Order.** Each round looks first and reads the clock afterwards, so what happened before the last
look is not missed; a wait of no time looks once.

**The deadline** is worked out before the first look (`run?`). A limit that ends at a time which the
clock cannot tell makes the handler break off there.

**The world** comes from outside, round by round. A wait that nothing ends has no end, so `run`
takes the number of rounds it may make and says when they were not enough.
-/

namespace Testbed.Http

/-- What a waiting handler meets, by round from zero. -/
structure Vigil where
  closing : Nat → Bool
  gone : Nat → Bool
  /-- The time since the start, when the clock is read after the look. -/
  clock : Nat → Duration
  /-- Whether the server closes during the slice. -/
  woken : Nat → Bool

namespace Vigil

inductive Ending where
  /-- The server is closing or the client has left. -/
  | closed
  /-- The time was up after a look that found neither. -/
  | expired
  /-- The rounds allowed were not enough. -/
  | unfinished
deriving DecidableEq, Repr

/-- What a wait did: how it ended, how many rounds it made, and the slices it slept for. -/
structure Run where
  ending : Ending
  rounds : Nat
  slices : List Duration
deriving DecidableEq, Repr

def longestSlice : Duration := .ofMillis 20

/-- The slice at a time, or none when the time is up. -/
def slice? (limit : Option Duration) (elapsed : Duration) : Option Duration :=
  match limit with
  | none => some longestSlice
  | some limit =>
    if limit ≤ elapsed then none else some ((limit.remaining elapsed).shorter longestSlice)

/-- Waits from round number `k` on. -/
def runFrom (v : Vigil) (limit : Option Duration) : Nat → Nat → Run
  | 0, k => ⟨.unfinished, k, []⟩
  | fuel + 1, k =>
    if v.closing k || v.gone k then ⟨.closed, k + 1, []⟩
    else
      match slice? limit (v.clock k) with
      | none => ⟨.expired, k + 1, []⟩
      | some slice =>
        if v.woken k then ⟨.closed, k + 1, [slice]⟩
        else
          let rest := runFrom v limit fuel (k + 1)
          { rest with slices := slice :: rest.slices }

/-- Waits for at most `rounds` rounds, when the deadline is known. -/
def run (v : Vigil) (limit : Option Duration) (rounds : Nat) : Run := runFrom v limit rounds 0

/-- Waits as a handler does: the deadline is worked out first, and the handler breaks off if the
clock cannot tell it. -/
def run? (v : Vigil) (reaches : Duration → Bool) (limit : Option Duration) (rounds : Nat) :
    Option Run :=
  if limit.all reaches then some (v.run limit rounds) else none

end Vigil
end Testbed.Http
