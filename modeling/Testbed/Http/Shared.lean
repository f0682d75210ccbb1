import Testbed.Http.Handler
import Testbed.Http.Recorder

/-!
# What handlers share

The state that handlers keep from request to request (`Shared`): how many requests each sequential
handler has seen, the recorders, and the targets of the switchers. Recorders and switchers are known
by name; a recorder that was never mentioned is a fresh one.
-/

namespace Testbed.Http

/-- The state that handlers share. -/
structure Shared where
  counters : List (Nat × Nat)
  recorders : List (String × Recorder)
  switchers : List (String × Handler)

namespace Shared

/-- The state before any request. -/
def fresh : Shared := ⟨[], [], []⟩

/-- A list of pairs with the value of a key set. -/
def put {κ ν : Type} [DecidableEq κ] (key : κ) (value : ν) : List (κ × ν) → List (κ × ν)
  | [] => [(key, value)]
  | (k, v) :: rest => if k = key then (key, value) :: rest else (k, v) :: put key value rest

/-- How many requests a sequential handler has seen. -/
def count (s : Shared) (counter : Nat) : Nat := (s.counters.lookup counter).getD 0

/-- Counts a request of a sequential handler. -/
def advance (s : Shared) (counter : Nat) : Shared :=
  { s with counters := put counter (s.count counter + 1) s.counters }

def recorder (s : Shared) (name : String) : Recorder :=
  (s.recorders.lookup name).getD .fresh

def setRecorder (s : Shared) (name : String) (r : Recorder) : Shared :=
  { s with recorders := put name r s.recorders }

def record (s : Shared) (name : String) (request : Request) : Shared :=
  s.setRecorder name ((s.recorder name).record request)

/-- The target of a switcher, if there is one of that name. -/
def target? (s : Shared) (name : String) : Option Handler := s.switchers.lookup name

def setTarget (s : Shared) (name : String) (target : Handler) : Shared :=
  { s with switchers := put name target s.switchers }

/-- Makes a switcher, unless there is one of that name. -/
def addSwitcher (s : Shared) (name : String) (initial : Handler) : Shared :=
  match s.target? name with
  | some _ => s
  | none => s.setTarget name initial

end Shared
end Testbed.Http
