import Testbed.Url.Host

/-!
# URLs

A URL that has been read: its parts, each in its encoded form, and the text that they make.

**The authority** is present in every URL of a special scheme. It holds the user name and password,
the host, and the port unless that is the one of the scheme.
-/

namespace Testbed

namespace Url

/-- Who and where: what stands between the double slash and the path. -/
structure Authority where
  user : String
  password : String
  host : Host
  port : Option Nat
deriving DecidableEq, Repr

def Authority.text (a : Authority) : String :=
  let password := if a.password.isEmpty then "" else ":" ++ a.password
  let login := if a.user.isEmpty && a.password.isEmpty then "" else a.user ++ password ++ "@"
  let port := match a.port with
    | some p => ":" ++ toString p
    | none => ""
  login ++ a.host.text ++ port

end Url

structure Url where
  scheme : String
  authority : Option Url.Authority
  path : String
  query : Option String
  fragment : Option String
deriving DecidableEq, Repr

namespace Url

/-- A part of a URL with the character before it, if the part is there. -/
def optionalPart (mark : String) : Option String → String
  | some s => mark ++ s
  | none => ""

/--
The text of a URL. A path that starts with an empty segment and has no authority before it is kept
apart from one by `/.`.
-/
def text (u : Url) : String :=
  let front := match u.authority with
    | some a => "//" ++ a.text
    | none => if u.path.startsWith "//" then "/." else ""
  u.scheme ++ ":" ++ front ++ u.path ++ optionalPart "?" u.query ++ optionalPart "#" u.fragment

end Url
end Testbed
