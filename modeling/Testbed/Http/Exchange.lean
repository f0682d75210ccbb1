import Testbed.Http.Failure
import Testbed.Http.Request

/-!
# Exchanges

One request and its response in the making (`Exchange`): what the handler has set and written so
far, and what is on its way to the client.

**Commit.** The head of a response (status, headers, and where the body comes from) is sent once:
by the first write of a streamed response, or when the handler is done. What is set later does not
reach it.

**Bodies.** What is written before the commit of a response that is not streamed is collected and
sent with the head. In a streamed response every write that is not empty becomes a chunk of its own.

**Ends.** The sender of the head, the sender of chunks and the receiver of chunks are each held or
not (`headPending`, `sending`, `receiving`); the receiver goes to the client with a streamed head.
When the client leaves, its ends are gone and sending fails.
-/

namespace Testbed.Http

/-- Where the body of a response comes from. -/
inductive Body where
  /-- All of it came with the head. -/
  | full (bytes : Bytes)
  /-- It follows in chunks. -/
  | stream
deriving DecidableEq, Repr

/-- The head of a response, as it is sent. -/
structure Head where
  status : UInt16
  /-- Names as given, in order. -/
  headers : List (String × String)
  body : Body
deriving DecidableEq, Repr

/-- A request and its response in the making. -/
structure Exchange where
  request : Request
  /-- The parts of the path that a route captured. -/
  params : List String
  /-- The status that a commit would send, with the headers. -/
  status : UInt16
  headers : List (String × String)
  /-- What was written and waits for the commit. -/
  buffer : Bytes
  chunked : Bool
  /-- Whether the head was not sent yet. -/
  headPending : Bool
  /-- Whether chunks can still be sent. -/
  sending : Bool
  /-- Whether the receiver of chunks was not given away yet. -/
  receiving : Bool
  closing : Bool
  /-- Whether the client is there. -/
  listening : Bool
  delivered : Option Head
  /-- The chunks sent and not yet received, the oldest first. -/
  underway : List Bytes
deriving DecidableEq, Repr

namespace Exchange

/-- The exchange of a request to which nothing was answered yet. -/
def start (request : Request) (closing : Bool) : Exchange where
  request := request
  params := []
  status := 200
  headers := []
  buffer := []
  chunked := false
  headPending := true
  sending := true
  receiving := true
  closing := closing
  listening := true
  delivered := none
  underway := []

/-! ## The response so far -/

/-- A captured part of the path, counted from zero. -/
def param? (x : Exchange) (i : Nat) : Option String := x.params[i]?

def isCommitted (x : Exchange) : Bool := !x.headPending

def setParams (x : Exchange) (params : List String) : Exchange := { x with params := params }

def setStatus (x : Exchange) (status : UInt16) : Exchange := { x with status := status }

/-- Whether two names differ in the case of ASCII letters at most. -/
def sameName (a b : String) : Bool := a.map Char.toLower == b.map Char.toLower

def addHeader (x : Exchange) (name value : String) : Exchange :=
  { x with headers := x.headers ++ [(name, value)] }

/-- Sets a header; its earlier values go. -/
def setHeader (x : Exchange) (name value : String) : Exchange :=
  { x with headers := x.headers.filter fun h => !sameName h.1 name }.addHeader name value

/-- Makes the response a streamed one. -/
def setChunked (x : Exchange) : Exchange := { x with chunked := true }

/-! ## Sending -/

/-- The body that a commit would send, and the exchange without it. -/
def takeBody (x : Exchange) : Body × Exchange :=
  if x.chunked then
    if x.receiving then (.stream, { x with receiving := false }) else (.full [], x)
  else (.full x.buffer, { x with buffer := [] })

/-- Sends the head, unless it was sent; fails when the client has left. -/
def commit (x : Exchange) : Except Failure Unit × Exchange :=
  if x.headPending then
    let (body, y) := x.takeBody
    let head : Head := ⟨x.status, x.headers, body⟩
    let y := { y with headPending := false, headers := [] }
    if y.listening then (.ok (), { y with delivered := some head })
    else (.error .disconnected, y)
  else (.ok (), x)

/-- Whether a chunk that is sent has someone to receive it. -/
def hasReceiver (x : Exchange) : Bool := x.receiving || x.listening

def sendChunk (x : Exchange) (data : Bytes) : Except Failure Unit × Exchange :=
  if x.sending && x.hasReceiver then (.ok (), { x with underway := x.underway ++ [data] })
  else (.error .disconnected, x)

def write (x : Exchange) (data : Bytes) : Except Failure Unit × Exchange :=
  if x.chunked then
    match x.commit with
    | (.ok (), x) => if data.isEmpty then (.ok (), x) else x.sendChunk data
    | (.error e, x) => (.error e, x)
  else if x.isCommitted then (.error (.failed "response was already sent"), x)
  else (.ok (), { x with buffer := x.buffer ++ data })

/-- Makes a response that was not sent an empty one with a status. -/
def fail (x : Exchange) (status : UInt16) : Exchange :=
  if x.isCommitted then x
  else { x with status := status, headers := [], buffer := [], chunked := false }

/-- Sends the head if it was not sent, and ends a streamed body. -/
def finish (x : Exchange) : Exchange := { x.commit.2 with sending := false }

/-- Gives the response up as it is: no head will be sent, and a streamed body ends. -/
def abandon (x : Exchange) : Exchange :=
  { x with headPending := false, sending := false, receiving := false }

/-! ## The client and the server -/

/-- Whether the handler can tell that the client has left. -/
def clientGone (x : Exchange) : Bool :=
  (x.headPending && !x.listening) || (!x.receiving && x.sending && !x.listening)

/-- Whether there is nothing to wait for: the server is closing or the client has left. -/
def isClosed (x : Exchange) : Bool := x.closing || x.clientGone

/-- The client leaves; what is underway to it is lost. -/
def leave (x : Exchange) : Exchange := { x with listening := false, underway := [] }

/-- The server begins to close. -/
def close (x : Exchange) : Exchange := { x with closing := true }

/-- How many chunks can be underway before a writer has to wait. -/
def capacity : Nat := 32

/-- Whether a write has to wait until the client receives a chunk. -/
def mustWait (x : Exchange) (data : Bytes) : Bool :=
  x.chunked && !data.isEmpty && x.sending && x.hasReceiver && decide (capacity ≤ x.underway.length)

/-- The client receives the oldest chunk. -/
def receive? (x : Exchange) : Option (Bytes × Exchange) :=
  match x.underway with
  | chunk :: rest => some (chunk, { x with underway := rest })
  | [] => none

/-- Whether the client has received all there is and no more can come. -/
def streamEnded (x : Exchange) : Bool := !x.sending && x.underway.isEmpty

end Exchange
end Testbed.Http
