import Testbed.Url.Parser

/-!
# Requests

A request as it was received, its body read in full (`Request`).

**Headers** are looked up by name in any case of the ASCII letters. They are kept by lower-case name
in order of the names, each name once, with its values in order of arrival (`Headers.ofList`); so
the order of headers of different names, and the case of names, leave no trace.
-/

namespace Testbed.Http

/-- Header values by lower-case name, in order of the names. -/
abbrev Headers := List (String × List String)

namespace Headers

def values (headers : Headers) (name : String) : List String := (headers.lookup name).getD []

/-- Adds a value behind those of a lower-case name. -/
def add (name value : String) : Headers → Headers
  | [] => [(name, [value])]
  | (k, vs) :: rest =>
    if name < k then (name, [value]) :: (k, vs) :: rest
    else if name = k then (k, vs ++ [value]) :: rest
    else (k, vs) :: add name value rest

/-- Headers in order of arrival, sorted by name. -/
def ofList (entries : List (String × String)) : Headers :=
  entries.foldl (fun headers (name, value) => add (name.map Char.toLower) value headers) []

end Headers

structure Request where
  /-- The method, in upper case. -/
  method : String
  uri : Url
  headers : Headers
  body : Bytes
deriving DecidableEq, Repr

namespace Request

/-- The request of a method, a URL, headers in order of arrival, and a body. -/
def make (method : String) (uri : Url) (headers : List (String × String)) (body : Bytes) :
    Request :=
  ⟨method.map Char.toUpper, uri, Headers.ofList headers, body⟩

def path (r : Request) : String := r.uri.path

/-- The query that was requested, with its question mark. -/
def query (r : Request) : Option String := r.uri.query.map ("?" ++ ·)

/-- The values of a header, in order of arrival. -/
def headerValues (r : Request) (name : String) : List String :=
  r.headers.values (name.map Char.toLower)

def header? (r : Request) (name : String) : Option String := (r.headerValues name).head?

/-- The names of all headers, in lower case and in order. -/
def headerNames (r : Request) : List String := r.headers.map Prod.fst

/-- The body as text; octets that are not UTF-8 are replaced. -/
def bodyText (r : Request) : String := Utf8.decodeLossy r.body

end Request
end Testbed.Http
