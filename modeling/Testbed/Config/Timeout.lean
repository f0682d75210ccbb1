import Testbed.Duration
import Testbed.Text.Blank

/-!
# Timeouts that the environment can widen

A variable of the environment may hold a number of seconds. It is a lower bound for the timeouts of
the library: `resolveTimeout?` never gives less than what was requested.

**The number** is a sequence of ASCII digits with an optional `+`, in any blanks. It must be
positive and fit 64 bits.
-/

namespace Testbed.Config

/-- The variable that holds the least timeout, in seconds. -/
def timeoutVariable : String := "SDK_TEST_HELPERS_TIMEOUT_SEC"

/-- Why the text of a timeout is refused. -/
inductive TimeoutError where
  /-- It is no number, or one beyond 64 bits. -/
  | notANumber
  /-- It is zero. -/
  | zero
deriving DecidableEq, Repr

def TimeoutError.message : TimeoutError → String
  | notANumber => timeoutVariable ++ " must be a positive integer number of seconds"
  | zero => timeoutVariable ++ " must be greater than zero"

/-- The number that decimal digits write, behind one already read. -/
def decimalFrom (acc : Nat) : List Char → Option Nat
  | [] => some acc
  | c :: rest => if c.isDigit then decimalFrom (acc * 10 + (c.toNat - 48)) rest else none

/-- The number that a non-empty sequence of digits writes. -/
def decimal? : List Char → Option Nat
  | [] => none
  | cs => decimalFrom 0 cs

/-- A decimal number with an optional plus sign. -/
def unsigned? : List Char → Option Nat
  | '+' :: rest => decimal? rest
  | cs => decimal? cs

/-- The timeout that a text names. -/
def parseTimeout (raw : String) : Except TimeoutError Duration :=
  match unsigned? (Text.trimBy Text.isBlank raw.toList) with
  | none => .error .notANumber
  | some 0 => .error .zero
  | some n => if n < UInt64.size then .ok (.ofSecs n) else .error .notANumber

/-- The requested timeout, widened by an override. -/
def resolveTimeout? (raw : Option String) (requested : Duration) : Except TimeoutError Duration :=
  match raw with
  | none => .ok requested
  | some raw => (parseTimeout raw).map requested.longer

/-- The requested timeout, widened by an override unless that is refused. -/
def resolveTimeout (raw : Option String) (requested : Duration) : Duration :=
  match resolveTimeout? raw requested with
  | .ok d => d
  | .error _ => requested

end Testbed.Config
