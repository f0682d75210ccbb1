import Testbed.Http.Framing
import Testbed.Http.Request

/-!
# Incoming requests

A request as it arrives over HTTP/1 (`Incoming`), and how it becomes a `Request`.

**Targets** name a path and query, perhaps behind a scheme and an authority, or an authority alone,
or are an asterisk. A fragment does not count.

**The URL** of a request is put together from the scheme of the server, the host, and the target.
The host is that of the `Host` header if it is visible ASCII, and otherwise the authority of the
target; when these make no URL, the server's own address takes their place (`requestUrl?`).

**Bodies** are framed by a transfer coding or a length; without either there is none.
-/

namespace Testbed.Http

/-- What a request asks for. -/
structure Target where
  path : String
  authority : Option String
deriving DecidableEq, Repr

namespace Target

def isSchemeChar (c : Char) : Bool := c.isAlphanum || c == '+' || c == '-' || c == '.'

/-- What follows the scheme of a target, if it has one. -/
def afterScheme? (cs : List Char) : Option (List Char) :=
  match cs.dropWhile isSchemeChar with
  | ':' :: '/' :: '/' :: rest => some rest
  | _ => none

def endsAuthority (c : Char) : Bool := c == '/' || c == '?' || c == '#'

/-- Path and query without a fragment. -/
def pathOf (cs : List Char) : String :=
  match cs.takeWhile (· != '#') with
  | [] => "/"
  | cs => String.ofList cs

def parse (s : String) : Target :=
  let cs := s.toList
  if cs.head? = some '/' ∨ cs = ['*'] then ⟨pathOf cs, none⟩
  else
    match afterScheme? cs with
    | some rest =>
      ⟨pathOf (rest.dropWhile fun c => !endsAuthority c),
        some (String.ofList (rest.takeWhile fun c => !endsAuthority c))⟩
    | none => ⟨"/", some s⟩

end Target

structure Incoming where
  method : String
  target : Target
  /-- Headers in order of arrival. -/
  headers : List (String × Bytes)
  /-- The octets of the body, or nothing if it is broken. -/
  body : Option Bytes
deriving DecidableEq, Repr

def isBlankOctet (b : UInt8) : Bool := b == 32 || b == 9

/-- A header value without the blanks around it. -/
def trimValue (v : Bytes) : Bytes :=
  ((v.dropWhile isBlankOctet).reverse.dropWhile isBlankOctet).reverse

/-- Whether an octet of a header is visible ASCII or a blank. -/
def isVisible (b : UInt8) : Bool := (32 ≤ b && b < 127) || b == 9

namespace Incoming

/-- The values of a header, given in lower case. -/
def headerValues (headers : List (String × Bytes)) (name : String) : List Bytes :=
  (headers.filter fun h => h.1.map Char.toLower == name).map Prod.snd

/-- A value of a header as text, if it is visible ASCII. -/
def visibleText (v : Bytes) : Option String :=
  if v.all isVisible then some (Utf8.decodeLossy v) else none

/-- The body within the octets behind the headers. -/
def bodyOf (headers : List (String × Bytes)) (raw : Bytes) : Option Bytes :=
  match (headerValues headers "transfer-encoding").getLast? with
  | some coding => if isChunked coding then decodeChunks? raw else none
  | none =>
    match headerValues headers "content-length" with
    | [] => some []
    | v :: _ =>
      (lengthOf v).bind fun n => if n ≤ raw.length then some (raw.take n) else none

/-- The request of its parts; `raw` are the octets behind the headers. -/
def make (method target : String) (headers : List (String × Bytes)) (raw : Bytes) : Incoming :=
  let headers := headers.map fun (name, value) => (name, trimValue value)
  ⟨method, Target.parse target, headers, bodyOf headers raw⟩

/-- The host that a request names. -/
def host? (i : Incoming) : Option String :=
  ((headerValues i.headers "host").head?.bind visibleText).or i.target.authority

end Incoming

/-- The URL of a request, or nothing when even the server's own address makes none. -/
def requestUrl? (scheme : String) (host : Option String) (port : UInt16) (path : String) :
    Option Url :=
  let at' (host : String) : Option Url := (Url.parse (scheme ++ "://" ++ host ++ path)).toOption
  (host.bind at').or (at' ("localhost:" ++ toString port.toNat))

/-- The request that an incoming one is, unless it is broken or has no URL. -/
def Incoming.request? (scheme : String) (port : UInt16) (i : Incoming) : Option Request :=
  i.body.bind fun body =>
    (requestUrl? scheme i.host? port i.target.path).map fun url =>
      .make i.method url (i.headers.map fun (name, value) => (name, Utf8.decodeLossy value)) body

end Testbed.Http
