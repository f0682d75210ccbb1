import Testbed.Http.Exchange
import Testbed.Http.Framing

/-!
# Responses

What a server answers (`Response`), and what of it is seen on a connection (`Reply`).

**From an exchange.** The status is the one that was set, or 500 when that is none of HTTP. Headers
whose name or value HTTP does not allow are left out. An exchange that ended without a head is
answered with 500.

**On a connection.** A full body is announced by its length, a streamed one is sent in chunks, and
by HTTP/1.0 as it comes, unless the response itself names a length or codings. No body is sent for
`HEAD` and for statuses that have none; its length is announced all the same, unless it is empty and
the status has no body.
-/

namespace Testbed.Http

/-- The body of a response, when all of it is there. -/
inductive Content where
  | full (bytes : Bytes)
  | chunks (chunks : List Bytes)
deriving DecidableEq, Repr

structure Response where
  status : UInt16
  /-- Lower-case names, in order. -/
  headers : List (String × Bytes)
  content : Content
deriving DecidableEq, Repr

def isTokenChar (c : Char) : Bool :=
  c.isAlphanum ||
    ['!', '#', '$', '%', '&', '\'', '*', '+', '-', '.', '^', '_', '\x60', '|', '~'].contains c

def maxNameLength : Nat := 65535

/-- Whether a text may be the name of a header. -/
def isHeaderName (name : String) : Bool :=
  !name.isEmpty && decide (name.length ≤ maxNameLength) && name.toList.all isTokenChar

def isValueOctet (b : UInt8) : Bool := (32 ≤ b && b != 127) || b == 9

/-- Whether a text may be the value of a header. -/
def isHeaderValue (value : String) : Bool := (Utf8.encode value).all isValueOctet

namespace Response

def ofStatus (status : UInt16) : Response := ⟨status, [], .full []⟩

/-- The status that is sent for one that was set. -/
def statusOf (code : UInt16) : UInt16 := if 100 ≤ code ∧ code ≤ 999 then code else 500

/-- The headers that are sent of those that were set. -/
def headersOf (headers : List (String × String)) : List (String × Bytes) :=
  (headers.filter fun (name, value) => isHeaderName name && isHeaderValue value).map
    fun (name, value) => (name.map Char.toLower, Utf8.encode value)

/-- The response of a head, with the chunks that followed a streamed one. -/
def ofHead (head : Head) (chunks : List Bytes) : Response where
  status := statusOf head.status
  headers := headersOf head.headers
  content := match head.body with
    | .full bytes => .full bytes
    | .stream => .chunks chunks

/-- The response of an exchange that has ended and whose client received nothing of the body yet. -/
def ofExchange (x : Exchange) : Response :=
  match x.delivered with
  | some head => ofHead head x.underway
  | none => ofStatus 500

end Response

/-! ## On a connection -/

/-- The body of a reply. -/
inductive Payload where
  | plain (bytes : Bytes)
  | chunked (chunks : List Bytes)
deriving DecidableEq, Repr

/-- What a client sees, the date and the state of the connection apart. -/
structure Reply where
  status : UInt16
  headers : List (String × Bytes)
  payload : Payload
deriving DecidableEq, Repr

inductive Version where
  | http10
  | http11
deriving DecidableEq, Repr

def lengthHeader (n : Nat) : String × Bytes := ("content-length", Utf8.encode (toString n))

/-- Whether a status tells about the request so far and not about its end. -/
def isInformational (status : UInt16) : Bool := 100 ≤ status && status < 200

def isSuccess (status : UInt16) : Bool := 200 ≤ status && status < 300

def mayHaveBody (method : String) (status : UInt16) : Bool :=
  !(method == "HEAD" || (method == "CONNECT" && isSuccess status) || isInformational status ||
    status == 204 || status == 304)

/-- Whether an empty body is announced by its length. -/
def announcesEmpty (method : String) (status : UInt16) : Bool :=
  !(isInformational status || (method == "CONNECT" && isSuccess status) || status == 204 ||
    status == 304)

namespace Response

/-- The values of a header, given in lower case. -/
def valuesOf (r : Response) (name : String) : List Bytes :=
  (r.headers.filter fun h => h.1 == name).map Prod.snd

/-- The headers of other names. -/
def headersBut (r : Response) (name : String) : List (String × Bytes) :=
  r.headers.filter fun h => h.1 != name

/-- The headers of a response with a full body: the length that the response itself names is taken
when there is something to announce. -/
def fullHeaders (r : Response) (method : String) (n : Nat) : List (String × Bytes) :=
  let own := !(r.valuesOf "content-length").isEmpty
  if n = 0 ∧ method ≠ "HEAD" then
    r.headersBut "content-length" ++ if announcesEmpty method r.status then [lengthHeader 0] else []
  else if own then r.headers
  else r.headers ++ [lengthHeader n]

/-- The body of a streamed response and its headers. A length that the response names frames the
body; otherwise HTTP/1.1 sends chunks. -/
def streamed (r : Response) (version : Version) (chunks : List Bytes) : Reply :=
  match (r.valuesOf "content-length").findSome? lengthOf, version with
  | some n, _ => ⟨r.status, r.headers, .plain (chunks.flatten.take n)⟩
  | none, .http10 => ⟨r.status, r.headersBut "transfer-encoding", .plain chunks.flatten⟩
  | none, .http11 =>
    ⟨r.status, r.headersBut "transfer-encoding" ++
      [("transfer-encoding", codings (r.valuesOf "transfer-encoding"))], .chunked chunks⟩

/-- What a client sees of a response. -/
def reply (r : Response) (method : String) (version : Version) : Reply :=
  if isInformational r.status ∧ r.status ≠ 101 then
    ⟨500, if method == "HEAD" then [] else [lengthHeader 0], .plain []⟩
  else
    match r.content with
    | .full bytes =>
      let bytes := if method == "CONNECT" && isSuccess r.status then [] else bytes
      ⟨r.status, r.fullHeaders method bytes.length,
        .plain (if mayHaveBody method r.status then bytes else [])⟩
    | .chunks chunks =>
      if mayHaveBody method r.status then r.streamed version chunks
      else ⟨r.status, r.headersBut "transfer-encoding", .plain []⟩

end Response
end Testbed.Http
