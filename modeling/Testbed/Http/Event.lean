import Testbed.Json.Printer

/-!
# Server events

What a server reports about its life and its requests, and the JSON line that logs an event.

**Lines.** A line has the fields `event`, `timestamp_ms`, `port`, `method`, `path`, `status` and
`outcome`, in this order and all of them always present; what an event does not carry is `null`.
-/

namespace Testbed.Http

inductive EventKind where
  | serverStarted
  | serverStopped
  | requestReceived
  /-- The head of a response was sent, or the handler failed before it sent one. -/
  | requestCompleted
deriving DecidableEq, Repr

/-- The name of a kind of event in a log. -/
def EventKind.label : EventKind → String
  | serverStarted => "server_started"
  | serverStopped => "server_stopped"
  | requestReceived => "request_received"
  | requestCompleted => "request_completed"

inductive Outcome where
  /-- The handler gave a response. -/
  | responded
  /-- The handler ended abnormally before it gave one. -/
  | handlerAborted
deriving DecidableEq, Repr

/-- The name of an outcome in a log. -/
def Outcome.label : Outcome → String
  | responded => "responded"
  | handlerAborted => "handler_aborted"

structure Event where
  kind : EventKind
  /-- Milliseconds since the epoch. -/
  timestamp : Nat
  port : UInt16
  method : Option String
  path : Option String
  status : Option UInt16
  outcome : Option Outcome
deriving DecidableEq, Repr

namespace Event

/-- An event that carries nothing but its kind. -/
def lifecycle (kind : EventKind) (port : UInt16) (timestamp : Nat) : Event :=
  ⟨kind, timestamp, port, none, none, none, none⟩

def received (port : UInt16) (method path : String) (timestamp : Nat) : Event :=
  ⟨.requestReceived, timestamp, port, some method, some path, none, none⟩

def completed (port : UInt16) (method path : String) (status : UInt16) (outcome : Outcome)
    (timestamp : Nat) : Event :=
  ⟨.requestCompleted, timestamp, port, some method, some path, some status, some outcome⟩

def optionalText : Option String → List Char
  | some s => Json.quoted s
  | none => "null".toList

def optionalNumber : Option UInt16 → List Char
  | some n => (toString n.toNat).toList
  | none => "null".toList

/-- A field of a line, after the comma or brace before it. -/
def lineField (name : String) (value : List Char) : List Char := Json.quoted name ++ ':' :: value

/-- The JSON text of an event, without a newline. -/
def line (e : Event) : String :=
  String.ofList <|
    '{' :: lineField "event" (Json.quoted e.kind.label) ++
    ',' :: lineField "timestamp_ms" (toString e.timestamp).toList ++
    ',' :: lineField "port" (toString e.port.toNat).toList ++
    ',' :: lineField "method" (optionalText e.method) ++
    ',' :: lineField "path" (optionalText e.path) ++
    ',' :: lineField "status" (optionalNumber e.status) ++
    ',' :: lineField "outcome" (optionalText (e.outcome.map Outcome.label)) ++ ['}']

/-- What is written to a log for an event: its line and a newline. -/
def logged (e : Event) : String := e.line ++ "\n"

end Event

def eventsOf (kind : EventKind) (log : List Event) : List Event :=
  log.filter fun e => e.kind == kind

end Testbed.Http
