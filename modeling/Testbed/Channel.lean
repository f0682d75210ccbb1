import Testbed.Duration

/-!
# Channels

An unbounded channel (`Channel`) holds the values sent and not yet received, in order, and knows how
many senders are left.

**Receiving.** `Channel.receive` says how a wait ends at which nothing more arrives: with the first
value, or else by the time running out, or at once when no sender is left. Values sent before the
last sender left are still received.

**Assertions.** `awaitValue` wants a value and `assertNoMore` wants none; both look at the same
received thing.

**Time.** A `Timeline` adds a clock and values that are sent later, each by a sender of its own.
-/

namespace Testbed

/-- The values on their way, the oldest first, and how many senders are left. -/
structure Channel (α : Type) where
  queue : List α
  senders : Nat
deriving DecidableEq, Repr

namespace Channel

variable {α : Type}

/-- What a wait for a value ends with. -/
inductive Received (α : Type) where
  | value (v : α)
  /-- Nothing arrived in time. -/
  | expired
  /-- The channel is empty and no sender is left. -/
  | closed
deriving DecidableEq, Repr

def fresh : Channel α := ⟨[], 1⟩

/-- Puts a value behind the others. -/
def send (c : Channel α) (v : α) : Channel α := { c with queue := c.queue ++ [v] }

def addSender (c : Channel α) : Channel α := { c with senders := c.senders + 1 }

def dropSender (c : Channel α) : Channel α := { c with senders := c.senders - 1 }

def receive (c : Channel α) : Received α × Channel α :=
  match c.queue with
  | v :: rest => (.value v, { c with queue := rest })
  | [] => (if c.senders = 0 then .closed else .expired, c)

/-- Why no value was received. -/
inductive AwaitError where
  | expired (wait : Duration)
  | closed
deriving DecidableEq, Repr

def AwaitError.message : AwaitError → String
  | expired wait => s!"did not receive expected value within {wait.millis}ms"
  | closed => "channel closed before a value was received"

/-- Wants a value from a wait. -/
def awaitValue (wait : Duration) : Received α → Except AwaitError α
  | .value v => .ok v
  | .expired => .error (.expired wait)
  | .closed => .error .closed

/-- A value that was received although none was wanted. -/
structure Unexpected (α : Type) where
  value : α
deriving DecidableEq, Repr

/-- The report of an unexpected value, given how values are shown. -/
def Unexpected.message (render : α → String) (u : Unexpected α) : String :=
  "expected no more values, but received: " ++ render u.value

/-- Wants no value from a wait. -/
def assertNoMore : Received α → Except (Unexpected α) Unit
  | .value v => .error ⟨v⟩
  | .expired => .ok ()
  | .closed => .ok ()

/-! ## Values sent later -/

/-- A channel with a clock and the values that will be sent, each with its time, in order. -/
structure Timeline (α : Type) where
  channel : Channel α
  /-- Whether the first sender is still there. -/
  isOpen : Bool
  due : List (Duration × α)
  now : Duration

namespace Timeline

def fresh : Timeline α := ⟨Channel.fresh, true, [], ⟨0⟩⟩

/-- A list in order of time with one more value, behind those of the same time. -/
def insertDue (t : Duration) (v : α) : List (Duration × α) → List (Duration × α)
  | [] => [(t, v)]
  | (u, w) :: rest => if t < u then (t, v) :: (u, w) :: rest else (u, w) :: insertDue t v rest

/-- Sends a value now, if the first sender is still there. -/
def send (s : Timeline α) (v : α) : Bool × Timeline α :=
  if s.isOpen then (true, { s with channel := s.channel.send v }) else (false, s)

/-- Has a new sender send a value after some time and then leave. -/
def sendLater (s : Timeline α) (v : α) (delay : Duration) : Bool × Timeline α :=
  if s.isOpen then
    (true, { s with
      channel := s.channel.addSender
      due := insertDue ⟨s.now.nanos + delay.nanos⟩ v s.due })
  else (false, s)

/-- Takes the first sender away. -/
def close (s : Timeline α) : Timeline α :=
  if s.isOpen then { s with channel := s.channel.dropSender, isOpen := false } else s

/-- Sends the values whose time has come. -/
def arrive (t : Duration) : List (Duration × α) → Channel α → List (Duration × α) × Channel α
  | [], c => ([], c)
  | (u, v) :: rest, c =>
    if u ≤ t then arrive t rest (c.send v).dropSender else ((u, v) :: rest, c)

/-- Lets time pass up to `t`. -/
def advance (s : Timeline α) (t : Duration) : Timeline α :=
  let (due, channel) := arrive t s.due s.channel
  { s with channel, due, now := s.now.longer t }

/-- When a wait from now on ends: at once if a value is there or none can come, else at the first
value or when the wait is over. -/
def waitEnd (s : Timeline α) (wait : Duration) : Duration :=
  if !s.channel.queue.isEmpty ∨ s.channel.senders = 0 then s.now
  else
    let deadline : Duration := ⟨s.now.nanos + wait.nanos⟩
    match s.due with
    | (t, _) :: _ => t.shorter deadline
    | [] => deadline

def receive (s : Timeline α) (wait : Duration) : Received α × Timeline α :=
  let s := s.advance s.now
  let s := s.advance (s.waitEnd wait)
  let (r, channel) := s.channel.receive
  (r, { s with channel })

end Timeline
end Channel
end Testbed
