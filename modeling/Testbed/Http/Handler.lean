import Testbed.Http.Route
import Testbed.Http.Script
import Testbed.Json.Printer

/-!
# Handlers

A handler answers requests (`Handler`). It is a script, or it is put together from other handlers:

- `all` runs handlers one after another, up to the first that does not end well;
- `sequential` gives each request to the next handler of a list, and to the last one when the list
  is used up; it counts requests under a number of its own;
- `router` gives a request to the target of a route;
- `record` gives the request to a recorder, which is known by name;
- `switch` gives the request to the present target of a switcher, which is known by name.

The second part has the standard handlers.
-/

namespace Testbed.Http

inductive Handler where
  | script (s : Script)
  | all (handlers : List Handler)
  | sequential (counter : Nat) (handlers : List Handler)
  | router (routes : List (Route Handler))
  | record (recorder : String)
  | switch (switcher : String)

namespace Handler

instance : Inhabited Handler := ⟨.all []⟩

/-! ## Responses -/

def status (code : UInt16) : Handler := .script (.just (.setStatus code))

def header (name value : String) : Handler := .script (.just (.setHeader name value))

def addHeader (name value : String) : Handler := .script (.just (.addHeader name value))

def contentType : String := "Content-Type"

/-- Writes a body and sets its type, if there is one. -/
def body (type : Option String) (data : Bytes) : Handler :=
  .script <| match type with
    | some type => .call (.setHeader contentType type) fun _ => .write data
    | none => .write data

/-- Whether a text has another one somewhere in it. -/
def hasInfix (part : List Char) : List Char → Bool
  | [] => part.isEmpty
  | c :: rest => part.isPrefixOf (c :: rest) || hasInfix part rest

/-- A type of text with its character set, which is UTF-8 unless the type names one. -/
def textType (type : String) : String :=
  if hasInfix "charset=".toList (type.toList.map Char.toLower) then type
  else type ++ ";charset=utf-8"

def bodyText (type text : String) : Handler := body (some (textType type)) (Utf8.encode text)

def bodyJson (value : Json.Value) : Handler :=
  body (some "application/json;charset=utf-8") (Utf8.encode value.render)

/-! ## Waiting -/

/-- Waits some time, less if the server closes or the client leaves. -/
def delay (d : Duration) : Handler := .script (.just (.wait (some d)))

/-- Waits until the server closes or the client leaves. -/
def hang : Handler := .script (.just (.wait none))

/-! ## Streams -/

/-- The type of a stream, with a character set if there is one. -/
def streamType (type : String) (charset : Option String) : String :=
  match charset with
  | some c => type ++ ";charset=" ++ c.map Char.toLower
  | none => type

def startScript (type : String) : Script :=
  .call (.setStatus 200) fun _ =>
  .call (.setHeader contentType type) fun _ =>
  .call .setChunked fun _ =>
  .write []

/-- Begins a streamed response and sends its head. -/
def startChunks (type : String) (charset : Option String) : Handler :=
  .script (startScript (streamType type charset))

def chunk (data : Bytes) : Handler := .script (.write data)

def chunkText (text : String) : Handler := chunk (Utf8.encode text)

end Handler
end Testbed.Http
