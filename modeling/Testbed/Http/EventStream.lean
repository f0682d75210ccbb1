import Testbed.Http.Handler

/-!
# Streams of server-sent events

Handlers that write an event stream. An event is a block of lines that ends with a blank one; its
data is written as one `data` line for each line of text. A comment is a line that starts with a
colon.
-/

namespace Testbed.Http.EventStream

/-- Begins an event stream that is not to be cached. -/
def start : Handler :=
  .script <| .call (.setHeader "Cache-Control" "no-cache") fun _ =>
    Handler.startScript (Handler.streamType "text/event-stream" (some "utf-8"))

/-- The lines of a text, which line feeds separate. -/
def linesOf : List Char → List (List Char)
  | [] => [[]]
  | c :: rest =>
    if c = '\n' then [] :: linesOf rest
    else match linesOf rest with
      | line :: lines => (c :: line) :: lines
      | [] => [[c]]

def eventText (name data : String) : String :=
  let dataLine (line : List Char) : List Char := "data: ".toList ++ line ++ ['\n']
  String.ofList <|
    "event: ".toList ++ name.toList ++ ['\n'] ++ (linesOf data.toList).flatMap dataLine ++ ['\n']

def commentText (text : String) : String := ":" ++ text ++ "\n"

def event (name data : String) : Handler := .chunkText (eventText name data)

/-- Writes the lines of an event as they are given, and the blank line behind them. -/
def raw (content : String) : Handler := .chunkText (content ++ "\n\n")

def comment (text : String) : Handler := .chunkText (commentText text)

/-- Keeps the stream open until the server closes or the client leaves. -/
def leaveOpen : Handler := .hang

end Testbed.Http.EventStream
