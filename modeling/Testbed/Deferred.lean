import Testbed.Duration

/-!
# Deferred results

A deferred result becomes ready at some time or never. The assertions wait for it: it is looked at
first when the wait begins, so a result that is ready then counts even in a wait of no time.
-/

namespace Testbed

/-- A result and the time after which it is ready, counted from the start of a wait. -/
structure Deferred (α : Type) where
  /-- Absent when the result is never ready. -/
  ready : Option (Duration × α)
deriving DecidableEq, Repr

namespace Deferred

variable {α : Type}

/-- A result that is ready. -/
def now (v : α) : Deferred α := ⟨some (⟨0⟩, v)⟩

/-- A result that is ready after some time. -/
def after (d : Duration) (v : α) : Deferred α := ⟨some (d, v)⟩

def never : Deferred α := ⟨none⟩

/-- The result, if it is ready within a wait. -/
def within? (f : Deferred α) (wait : Duration) : Option α :=
  match f.ready with
  | some (d, v) => if d ≤ wait then some v else none
  | none => none

/-- Why an assertion on a deferred result fails. -/
inductive Failure where
  | tooLate
  | readyEarly
deriving DecidableEq, Repr

def Failure.message : Failure → String
  | tooLate => "timed out waiting for future"
  | readyEarly => "future was unexpectedly completed"

/-- Asserts that the result is ready within a wait. -/
def assertCompletes (f : Deferred α) (wait : Duration) : Except Failure α :=
  match f.within? wait with
  | some v => .ok v
  | none => .error .tooLate

/-- Asserts that the result is not ready within a wait. -/
def assertDoesNotComplete (f : Deferred α) (wait : Duration) : Except Failure Unit :=
  match f.within? wait with
  | some _ => .error .readyEarly
  | none => .ok ()

end Deferred
end Testbed
