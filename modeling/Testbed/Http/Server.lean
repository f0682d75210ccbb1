import Testbed.Http.Event
import Testbed.Http.Incoming
import Testbed.Http.Job
import Testbed.Http.Response

/-!
# Servers

A server (`Server`) answers requests with one handler. It records every request that it can read
before the handler starts, and logs when a request was received and when its answer was decided.

**A request** becomes a `Call`. It goes on (`Server.advance`) up to its end or to a wait that is
neither over nor run out. Its completion is logged as soon as the head of the response is sent, or
when the handler ends without one. A request whose body is broken or that has no URL is refused: it
is neither recorded nor logged, and no handler runs.

**Closing** ends the waits of the calls that are still going on. The end of the server is logged
once.

**Header maps** do not hold any number of headers. Building the response of a head with more of them
breaks off, and then the client is sent nothing and no completion is logged (`advance?`,
`dispatch?`). `advance` and what is made of it are for heads whose headers fit.
-/

namespace Testbed.Http

/-- A server and all that it keeps. -/
structure Server where
  handler : Handler
  secure : Bool
  port : UInt16
  recorder : Recorder
  shared : Shared
  log : List Event
  /-- The time that its events carry. -/
  now : Nat
  closing : Bool

/-- A request on its way through a handler. -/
structure Call where
  job : Job
  logged : Bool

namespace Server

/-- How long calls may go on after a close when nothing else is said. -/
def defaultGrace : Duration := .ofSecs 1

def create (handler : Handler) (secure : Bool) (port : UInt16) (shared : Shared) : Server where
  handler := handler
  secure := secure
  port := port
  recorder := .fresh
  shared := shared
  log := []
  now := 0
  closing := false

def scheme (s : Server) : String := if s.secure then "https" else "http"

def url (s : Server) : String := s.scheme ++ "://localhost:" ++ toString s.port.toNat ++ "/"

def record (s : Server) (e : Event) : Server := { s with log := s.log ++ [e] }

/-- The server begins to accept connections. -/
def start (s : Server) : Server := s.record (.lifecycle .serverStarted s.port s.now)

/-- Takes a request in, unless it is refused. -/
def accept (s : Server) (incoming : Incoming) : Server × Option Call :=
  match incoming.request? s.scheme s.port with
  | none => (s, none)
  | some request =>
    let s := { s with recorder := s.recorder.record request }
    let s := s.record (.received s.port request.method request.path s.now)
    (s, some ⟨.start s.handler (.start request s.closing), false⟩)

def refusal : Response := .ofStatus 400

def complete (s : Server) (request : Request) (status : UInt16) (outcome : Outcome) : Server :=
  s.record (.completed s.port request.method request.path status outcome s.now)

/-- Logs the completion of a call as soon as its head was sent; says whether it is logged. -/
def noteHead (s : Server) (logged : Bool) (x : Exchange) : Server × Bool :=
  if logged then (s, true)
  else match x.delivered with
    | some head => (s.complete x.request head.status .responded, true)
    | none => (s, false)

/-- Logs the completion of a call that has ended. -/
def noteEnd (s : Server) (logged : Bool) (x : Exchange) : Server :=
  match s.noteHead logged x with
  | (s, true) => s
  | (s, false) => s.complete x.request 500 .handlerAborted

/-- Where a call stops. -/
inductive Standing where
  | ended (exchange : Exchange)
  | waiting (call : Call)

/-- Goes on with a call. -/
def advance (patience : Patience) (s : Server) (call : Call) : Server × Standing :=
  match call.job.run patience s.shared with
  | (shared, .ended ending x) =>
    let x := Job.conclude ending x
    ({ s with shared }.noteEnd call.logged x, .ended x)
  | (shared, .waiting job) =>
    let (s, logged) := { s with shared }.noteHead call.logged job.exchange
    (s, .waiting ⟨job, logged⟩)
  | (shared, .next job) => ({ s with shared }, .waiting ⟨job, call.logged⟩)

/-- Answers a request whose handler waits for nothing but time; no answer if it waits for more. -/
def dispatch (s : Server) (incoming : Incoming) : Server × Option Response :=
  match s.accept incoming with
  | (s, none) => (s, some refusal)
  | (s, some call) =>
    match s.advance .limited call with
    | (s, .ended x) => (s, some (.ofExchange x))
    | (s, .waiting _) => (s, none)

/-! ### Heads with too many headers -/

/-- Which headers, one added after another, a header map can hold. -/
abbrev Capacity := List (String × Bytes) → Bool

def Standing.exchange : Standing → Exchange
  | ended x => x
  | waiting call => call.job.exchange

/-- Whether the headers of a head fit. -/
def Capacity.admits (capacity : Capacity) (head : Head) : Bool :=
  capacity (Response.headersOf head.headers)

/-- Goes on with a call, unless it has sent a head whose headers do not fit: then building the
response breaks off. -/
def advance? (capacity : Capacity) (patience : Patience) (s : Server) (call : Call) :
    Option (Server × Standing) :=
  let (s, standing) := s.advance patience call
  if standing.exchange.delivered.all capacity.admits then some (s, standing) else none

/-- Answers a request, unless building the response breaks off. -/
def dispatch? (capacity : Capacity) (s : Server) (incoming : Incoming) :
    Option (Server × Option Response) :=
  match s.accept incoming with
  | (s, none) => some (s, some refusal)
  | (s, some call) =>
    match s.advance? capacity .limited call with
    | some (s, .ended x) => some (s, some (.ofExchange x))
    | some (s, .waiting _) => some (s, none)
    | none => none

/-- A call that learns that the server is closing. -/
def wake (call : Call) : Call :=
  { call with job := { call.job with exchange := call.job.exchange.close } }

/-- Goes on with calls that were waiting, now that the server is closing. -/
def drain : Server → List Call → Server × List (Option Response)
  | s, [] => (s, [])
  | s, call :: rest =>
    let (s, standing) := s.advance .limited (wake call)
    let answer := match standing with
      | .ended x => some (.ofExchange x)
      | .waiting _ => none
    let (s, answers) := drain s rest
    (s, answer :: answers)

def beginClose (s : Server) : Server := { s with closing := true }

/-- Closes the server, once: the calls that are waiting end, and then the server has stopped. -/
def close (s : Server) (waiting : List Call) : Server × List (Option Response) :=
  if s.closing then (s, [])
  else
    let (s, answers) := s.beginClose.drain waiting
    (s.record (.lifecycle .serverStopped s.port s.now), answers)

end Server
end Testbed.Http
