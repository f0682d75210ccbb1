import Testbed.Text.Blank

/-!
# Where server events go

A variable of the environment selects the destination of server events by name. Names are read
without the blanks around them and in any case of the ASCII letters.
-/

namespace Testbed.Config

/-- The variable that names the destination of server events. -/
def logVariable : String := "SDK_TEST_HELPERS_LOG"

/-- A destination of server events. -/
inductive LogSink where
  /-- Events are discarded. -/
  | off
  /-- Events go to standard error, one JSON line each. -/
  | stderr
deriving DecidableEq, Repr

/-- A name that selects no destination, in lower case. -/
structure LogSinkError where
  selector : String
deriving DecidableEq, Repr

def LogSinkError.message (e : LogSinkError) : String :=
  logVariable ++ " must be `stderr` or `off`, got `" ++ e.selector ++ "`"

/-- The destination that a name selects. -/
def parseLogSink (raw : String) : Except LogSinkError LogSink :=
  let selector := (Text.trim raw).map Char.toLower
  if selector = "" ∨ selector = "off" then .ok .off
  else if selector = "stderr" then .ok .stderr
  else .error ⟨selector⟩

/-- The destination that a name selects, or none at all when it is absent or refused. -/
def logSinkFor (raw : Option String) : LogSink :=
  match raw.map parseLogSink with
  | some (.ok sink) => sink
  | _ => .off

end Testbed.Config
