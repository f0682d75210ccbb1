import Testbed.Duration
import Testbed.Http.Request

/-!
# Recorders

A recorder keeps the requests it is given, in order, until they are asked for. While it is disabled
it drops what it is given; what it holds already stays.
-/

namespace Testbed.Http

/-- The requests recorded and not yet asked for, the oldest first. -/
structure Recorder where
  queue : List Request
  enabled : Bool
deriving DecidableEq, Repr

namespace Recorder

/-- An empty recorder that records. -/
def fresh : Recorder := ⟨[], true⟩

/-- How long a request is waited for when nothing else is said. -/
def defaultTimeout : Duration := .ofSecs 5

/-- Why an expectation about requests fails. -/
inductive Error where
  /-- No request was there in time. -/
  | timeout (wait : Duration)
  /-- A request was there although none was expected. -/
  | unexpected (method path : String)
deriving DecidableEq, Repr

def Error.message : Error → String
  | timeout wait => s!"no request received within {wait.millis}ms"
  | unexpected method path => s!"received an unexpected request: {method} {path}"

def record (r : Recorder) (request : Request) : Recorder :=
  if r.enabled then { r with queue := r.queue ++ [request] } else r

def setEnabled (r : Recorder) (enabled : Bool) : Recorder := { r with enabled := enabled }

def count (r : Recorder) : Nat := r.queue.length

/-- The oldest request, if there is one when a wait is over, and the recorder without it. -/
def pop (r : Recorder) : Option Request × Recorder :=
  match r.queue with
  | request :: rest => (some request, { r with queue := rest })
  | [] => (none, r)

def require (r : Recorder) (wait : Duration) : Except Error Request × Recorder :=
  match r.pop with
  | (some request, r) => (.ok request, r)
  | (none, r) => (.error (.timeout wait), r)

/-- Wants no request; one that is there is taken all the same. -/
def requireNone (r : Recorder) : Except Error Unit × Recorder :=
  match r.pop with
  | (some request, r) => (.error (.unexpected request.method request.path), r)
  | (none, r) => (.ok (), r)

end Recorder
end Testbed.Http
