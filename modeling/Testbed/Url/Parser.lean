import Testbed.Url.Basic
import Testbed.Url.Path

/-!
# Reading URLs

`Url.parse` reads an absolute URL by the rules that web browsers share. Controls and spaces around
the text do not count, and tabs and line breaks count nowhere.

**Schemes.** The special schemes (`http`, `https`, `ws`, `wss`, `ftp`) always have an authority and
a path and take a backslash for a slash. The scheme `file` has a host and a path and also takes
backslashes. Other schemes have an authority only after two slashes, and without a slash their path
is a plain text.
-/

namespace Testbed.Url

/-- How the rest of a URL is read. -/
inductive SchemeKind where
  | special (defaultPort : Nat)
  | file
  | other
deriving DecidableEq, Repr

def schemeKind (scheme : String) : SchemeKind :=
  if scheme = "http" ∨ scheme = "ws" then .special 80
  else if scheme = "https" ∨ scheme = "wss" then .special 443
  else if scheme = "ftp" then .special 21
  else if scheme = "file" then .file
  else .other

/-- Whether backslashes count as slashes. -/
def SchemeKind.isSpecial : SchemeKind → Bool
  | .other => false
  | _ => true

/-- The port that is not written. -/
def SchemeKind.defaultPort : SchemeKind → Option Nat
  | .special p => some p
  | _ => none

def isSchemeChar (c : Char) : Bool := c.isAlphanum || c == '+' || c == '-' || c == '.'

/-- The scheme of a text in lower case, and what follows its colon. -/
def splitScheme (cs : List Char) : Option (String × List Char) :=
  match cs with
  | c :: _ =>
    if c.isAlpha then
      match cs.dropWhile isSchemeChar with
      | ':' :: rest => some (String.ofList ((cs.takeWhile isSchemeChar).map Char.toLower), rest)
      | _ => none
    else none
  | [] => none

/-- What does not count: controls and spaces around a text, tabs and line breaks within it. -/
def clean (cs : List Char) : List Char :=
  let inside := ((cs.dropWhile (· ≤ ' ')).reverse.dropWhile (· ≤ ' ')).reverse
  inside.filter fun c => !(c == '\t' || c == '\n' || c == '\r')

def endsAuthority (kind : SchemeKind) (c : Char) : Bool :=
  c == '/' || c == '?' || c == '#' || (kind.isSpecial && c == '\\')

/-- A text before and behind the last character that is equal to one given. -/
def splitLast (sep : Char) (cs : List Char) : Option (List Char × List Char) :=
  let back := (cs.reverse.takeWhile (· != sep)).reverse
  if back.length = cs.length then none
  else some (cs.take (cs.length - back.length - 1), back)

/-- The host part of a text and what follows it, from the colon of a port on. -/
def splitHost (inBrackets : Bool) : List Char → List Char × List Char
  | [] => ([], [])
  | c :: rest =>
    if c == ':' && !inBrackets then ([], c :: rest)
    else
      let inBrackets := if c == '[' then true else if c == ']' then false else inBrackets
      let (host, rest) := splitHost inBrackets rest
      (c :: host, rest)

/-- The number of some digits. -/
def digitsValue (cs : List Char) : Nat := cs.foldl (fun n c => n * 10 + (c.toNat - 48)) 0

/-- Reads a port after its colon: the port, absent when it is the default, and what follows. -/
def parsePort (kind : SchemeKind) (cs : List Char) : Except Error (Option Nat × List Char) :=
  let digits := cs.takeWhile Char.isDigit
  let rest := cs.dropWhile Char.isDigit
  let value := digitsValue digits
  if 65535 < value then .error .port
  else
    match rest with
    | c :: _ => if c = '\\' then .ok (given digits value, rest) else .error .port
    | [] => .ok (given digits value, [])
where
  /-- The port that is kept of the digits written. -/
  given (digits : List Char) (value : Nat) : Option Nat :=
    if digits.isEmpty ∨ kind.defaultPort = some value then none else some value

/-- User name and password of the text before an at sign. -/
def parseLogin (cs : List Char) : String × String :=
  let encode (l : List Char) := String.ofList (percentEncode inUserSet l)
  match cs.dropWhile (· != ':') with
  | _ :: password => (encode (cs.takeWhile (· != ':')), encode password)
  | [] => (encode cs, "")

/-- Reads the host of a scheme that is not `file`. -/
def parseHost (kind : SchemeKind) (cs : List Char) : Except Error Host :=
  if kind.isSpecial then if cs.isEmpty then .error .emptyHost else Host.parse cs
  else Host.parsePlain cs

/--
Reads an authority; `rest` is what follows it. The answer has what the path is read from, which is
more than `rest` when a port ends at a backslash.
-/
def parseAuthority (kind : SchemeKind) (cs rest : List Char) :
    Except Error (Authority × List Char) := do
  let (login, server) := match splitLast '@' cs with
    | some (login, server) => (some login, server)
    | none => (none, cs)
  if login = some [] ∧ server.isEmpty ∧ !rest.isEmpty then throw .emptyHost
  let (user, password) := parseLogin (login.getD [])
  let (hostText, portText) := splitHost false server
  let host ← parseHost kind hostText
  if host = .domain "" ∧ !portText.isEmpty then throw .emptyHost
  let (port, left) ← match portText with
    | _ :: digits => parsePort kind digits
    | [] => pure (none, [])
  if host = .domain "" ∧ !(user.isEmpty && password.isEmpty) then throw .emptyHost
  return (⟨user, password, host, port⟩, left ++ rest)

def endsPath (c : Char) : Bool := c == '?' || c == '#'

/-- Query and fragment of what follows a path. -/
def parseTail (special : Bool) (cs : List Char) : Option String × Option String :=
  let encodeQuery (l : List Char) :=
    String.ofList (percentEncode (if special then inSpecialQuerySet else inQuerySet) l)
  let fragmentOf : List Char → Option String
    | _ :: l => some (String.ofList (percentEncode inFragmentSet l))
    | [] => none
  match cs with
  | '?' :: rest =>
    (some (encodeQuery (rest.takeWhile (· != '#'))), fragmentOf (rest.dropWhile (· != '#')))
  | rest => (none, fragmentOf rest)

/-- The text without the slash at its front. -/
def dropSlash (special : Bool) : List Char → List Char
  | '/' :: rest => rest
  | '\\' :: rest => if special then rest else '\\' :: rest
  | cs => cs

/-- The path behind an authority, or behind the slash of a URL without one. -/
def parsePath (kind : SchemeKind) (cs : List Char) : String :=
  if !kind.isSpecial ∧ cs.isEmpty then ""
  else
    let special := kind.isSpecial
    String.ofList (pathText (segmentsOf special (kind == .file) (dropSlash special cs)))

/-- A URL of its scheme and authority and the text of the rest. -/
def withRest (scheme : String) (authority : Option Authority) (kind : SchemeKind)
    (cs : List Char) : Url :=
  let (query, fragment) := parseTail kind.isSpecial (cs.dropWhile fun c => !endsPath c)
  ⟨scheme, authority, parsePath kind (cs.takeWhile fun c => !endsPath c), query, fragment⟩

/-- Reads what follows the double slash. -/
def parseWithAuthority (scheme : String) (kind : SchemeKind) (cs : List Char) :
    Except Error Url := do
  let text := cs.takeWhile fun c => !endsAuthority kind c
  let (authority, rest) ←
    parseAuthority kind text (cs.dropWhile fun c => !endsAuthority kind c)
  return withRest scheme (some authority) kind rest

/-- Whether a character is a slash of the scheme `file`. -/
def isSlash (c : Char) : Bool := c == '/' || c == '\\'

/-- An authority that holds a host and nothing else. -/
def Authority.ofHost (host : Host) : Authority := ⟨"", "", host, none⟩

/-- The URL of a file, read after the scheme. -/
def parseFile (cs : List Char) : Except Error Url :=
  match cs with
  | a :: b :: rest =>
    if isSlash a ∧ isSlash b then do
      let ends (c : Char) := endsAuthority .file c
      let hostText := rest.takeWhile fun c => !ends c
      let behind := rest.dropWhile fun c => !ends c
      if isDriveLetter hostText then return local' rest
      if hostText.isEmpty then return local' behind
      let host ← Host.parse hostText
      if host = .domain "localhost" then return local' behind
      let first := (splitAt isSlash
        (dropSlash true (behind.takeWhile fun c => !endsPath c))).head?.getD []
      if isDriveLetter first then return local' behind
      return withRest "file" (some (.ofHost host)) .file behind
    else .ok (local' cs)
  | cs => .ok (local' cs)
where
  /-- The URL of a file without a host. -/
  local' (cs : List Char) : Url := withRest "file" (some (.ofHost (.domain ""))) .file cs

/-- Reads what follows the scheme and its colon. -/
def parseRest (scheme : String) (cs : List Char) : Except Error Url :=
  match schemeKind scheme with
  | .special p => parseWithAuthority scheme (.special p) (cs.dropWhile isSlash)
  | .file => parseFile cs
  | .other =>
    match cs with
    | '/' :: '/' :: rest => parseWithAuthority scheme .other rest
    | '/' :: _ => .ok (withRest scheme none .other cs)
    | _ =>
      let (query, fragment) := parseTail false (cs.dropWhile fun c => !endsPath c)
      .ok ⟨scheme, none,
        String.ofList (percentEncode isControl (cs.takeWhile fun c => !endsPath c)),
        query, fragment⟩

def parse (s : String) : Except Error Url :=
  match splitScheme (clean s.toList) with
  | some (scheme, rest) => parseRest scheme rest
  | none => .error .noScheme

end Testbed.Url
