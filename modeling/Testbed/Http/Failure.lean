import Testbed.Text.Quoted

/-!
# Failures of handlers

Why a handler gives up on a request, and the status that answers a request whose response had not
begun.
-/

namespace Testbed.Http

/-- Why a handler gives up. -/
inductive Failure where
  /-- The request is not what it should be. -/
  | badRequest (reason : String)
  /-- The client left while the response was being written. -/
  | disconnected
  | failed (reason : String)
deriving DecidableEq, Repr

namespace Failure

def message : Failure → String
  | badRequest reason => "bad request: " ++ reason
  | disconnected => "client disconnected"
  | failed reason => "handler failed: " ++ reason

def label : Failure → String
  | badRequest _ => "BadRequest"
  | disconnected => "Disconnected"
  | failed _ => "Failed"

/-- A failure as it is shown to a programmer. -/
def shown (f : Failure) : String :=
  match f with
  | badRequest reason => f.label ++ "(" ++ Text.quote reason ++ ")"
  | disconnected => f.label
  | failed reason => f.label ++ "(" ++ Text.quote reason ++ ")"

/-- The status that answers a request when the response had not begun. -/
def status : Failure → UInt16
  | badRequest _ => 400
  | disconnected => 500
  | failed _ => 500

end Failure
end Testbed.Http
