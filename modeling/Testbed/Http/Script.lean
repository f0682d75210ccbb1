import Testbed.Duration
import Testbed.Http.Exchange

/-!
# Scripts of handlers

What a handler does with one exchange, as data: a tree of operations (`Script`) in which what comes
next may depend on the answer to each operation. A script ends well, with a failure, or abnormally.

**Waiting.** The only operation that may have to wait is `Op.wait`, which is over when the server
closes or the client leaves, and otherwise when its time is up. Time is not counted here: a script
is played under a rule that says which waits run out of time (`Patience`), and stops at a wait that
is neither over nor run out.

**Deadlines.** A wait with a limit begins with the time at which it has to be over. Where the clock
cannot tell that time, the handler breaks off there, before it looks whether the wait is over.
-/

namespace Testbed.Http

inductive Ending where
  | done
  | failed (reason : Failure)
  | aborted
deriving DecidableEq, Repr

/-- What a handler may do with an exchange. -/
inductive Op where
  | request
  | param (index : Nat)
  | setParams (params : List String)
  | setStatus (status : UInt16)
  | setHeader (name value : String)
  | addHeader (name value : String)
  | setChunked
  | isCommitted
  | write (data : Bytes)
  /-- Waits for the end of the exchange, or no longer than a time. -/
  | wait (timeout : Option Duration)
deriving DecidableEq, Repr

/-- What an operation answers. -/
abbrev Op.Reply : Op → Type
  | request => Request
  | param _ => Option String
  | isCommitted => Bool
  | write _ => Except Failure Unit
  | wait _ => Bool
  | _ => Unit

/-- How time goes by for a handler that waits. -/
structure Patience where
  /-- Whether a wait runs out of time, by its limit. -/
  runsOut : Option Duration → Bool
  /-- Whether the clock can tell the time at which a limit is over. -/
  reaches : Duration → Bool

namespace Patience

/-- What a clock can tell that counts seconds in 63 bits and has just begun. -/
def reachesOfClock (limit : Duration) : Bool := decide (limit.secs < 1 <<< 63)

/-- Every wait with a limit runs out of time. -/
def limited : Patience := ⟨Option.isSome, reachesOfClock⟩

/-- The waits with a limit below a given one run out of time. -/
def below (d : Duration) : Patience where
  runsOut
    | some t => decide (t < d)
    | none => false
  reaches := reachesOfClock

/-- No wait takes any time. -/
def hasty : Patience := ⟨fun _ => true, fun _ => true⟩

/-- Whether a handler breaks off where it begins an operation: the deadline of a wait is worked out
before anything else. -/
def breaksOff (patience : Patience) : Op → Bool
  | .wait limit => !limit.all patience.reaches
  | _ => false

theorem breaksOff_write (patience : Patience) (data : Bytes) :
    patience.breaksOff (.write data) = false := rfl

end Patience

/-- Carries an operation out whose deadline is known, unless it has to wait. -/
def Exchange.perform (patience : Patience) (x : Exchange) : (op : Op) → Option (op.Reply × Exchange)
  | .request => some (x.request, x)
  | .param i => some (x.param? i, x)
  | .setParams params => some ((), x.setParams params)
  | .setStatus status => some ((), x.setStatus status)
  | .setHeader name value => some ((), x.setHeader name value)
  | .addHeader name value => some ((), x.addHeader name value)
  | .setChunked => some ((), x.setChunked)
  | .isCommitted => some (x.isCommitted, x)
  | .write data => some (x.write data)
  | .wait limit =>
    if x.isClosed then some (true, x) else if patience.runsOut limit then some (false, x) else none

/-- What a handler does with an exchange. -/
inductive Script where
  | finish (ending : Ending)
  | call (op : Op) (next : op.Reply → Script)

namespace Script

/-- A script that does one thing and ends well. -/
def just (op : Op) : Script := .call op fun _ => .finish .done

/-- A script that writes and ends as the write does. -/
def write (data : Bytes) : Script :=
  .call (.write data) fun
    | .ok () => .finish .done
    | .error e => .finish (.failed e)

/-- Where a script stops: at its end, or at a wait that is neither over nor run out. -/
inductive Pause where
  | ended (ending : Ending)
  | waiting (rest : Script)

/-- Carries a script out as far as it goes. -/
def play (patience : Patience) : Script → Exchange → Pause × Exchange
  | .finish e, x => (.ended e, x)
  | .call op next, x =>
    if patience.breaksOff op then (.ended .aborted, x)
    else
      match x.perform patience op with
      | some (reply, x) => play patience (next reply) x
      | none => (.waiting (.call op next), x)

end Script
end Testbed.Http
