import Testbed.Http.Server

/-!
# Servers on the ports of a machine

A server listens on a port of its machine from its start to its close. It asks for a port by number,
or by the number 0 for any, and is then given one that the system offers. A port that is taken is
not given again (`Machine.listen`).
-/

namespace Testbed.Http

/-- Why a server does not start. -/
inductive StartError where
  | bind (reason : String)

def StartError.message : StartError → String
  | bind reason => "failed to bind test server: " ++ reason

/-- The ports of a machine on which servers listen. -/
structure Machine where
  taken : List UInt16

namespace Machine

def addressInUse : String := "Address already in use (os error 98)"

/-- Listens on the port that is asked for, or on the one that the system offers. -/
def listen (m : Machine) (asked offered : UInt16) : Except StartError (UInt16 × Machine) :=
  let port := if asked = 0 then offered else asked
  if port ∈ m.taken then .error (.bind addressInUse) else .ok (port, ⟨port :: m.taken⟩)

/-- Whether a connection to a port finds a server. -/
def accepts (m : Machine) (port : UInt16) : Bool := m.taken.contains port

def start (m : Machine) (handler : Handler) (secure : Bool) (shared : Shared)
    (asked offered : UInt16) : Except StartError (Server × Machine) :=
  match m.listen asked offered with
  | .error e => .error e
  | .ok (port, m) => .ok ((Server.create handler secure port shared).start, m)

/-- Closes a server. The first time its port is given back. -/
def close (m : Machine) (s : Server) (waiting : List Call) :
    Machine × Server × List (Option Response) :=
  (if s.closing then m else ⟨m.taken.erase s.port⟩, s.close waiting)

end Machine
end Testbed.Http
