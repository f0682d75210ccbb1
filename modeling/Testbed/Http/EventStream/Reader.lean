/-!
# Reading event streams

What a client makes of an event stream (`read`): the name and the data of each event.

**Lines** end at a line feed, a carriage return, or both; an unfinished line does not count. A blank
line ends a block of lines, and a line that starts with a colon is a comment.

**Fields** have a name up to the first colon and a value behind it, less one space. The values of
the `data` fields of a block are joined by line feeds, the last `event` field names it, and a block
without data is no event.
-/

namespace Testbed.Http.EventStream

/-- The lines that end in a text, the first of which begins with the characters given, the last one
first. -/
def readLines (begun : List Char) : List Char → List (List Char)
  | [] => []
  | '\r' :: '\n' :: rest => begun.reverse :: readLines [] rest
  | c :: rest =>
    if c = '\n' ∨ c = '\r' then begun.reverse :: readLines [] rest
    else readLines (c :: begun) rest

def readField (line : List Char) : List Char × List Char :=
  let name := line.takeWhile (· != ':')
  match line.drop (name.length + 1) with
  | ' ' :: value => (name, value)
  | value => (name, value)

/-- The fields of a block that count, as far as they are read. -/
structure Block where
  name : List Char
  /-- The values of the `data` fields, in order. -/
  data : List (List Char)
deriving DecidableEq, Repr

def Block.fresh : Block := ⟨[], []⟩

/-- A block with one more line, which is not blank. -/
def Block.add (b : Block) (line : List Char) : Block :=
  if line.head? = some ':' then b
  else
    let (name, value) := readField line
    if name = "event".toList then { b with name := value }
    else if name = "data".toList then { b with data := b.data ++ [value] }
    else b

/-- The event of a block, if it is one. -/
def Block.event? (b : Block) : Option (String × String) :=
  if b.data.isEmpty then none
  else some (String.ofList b.name, String.ofList ("\n".toList.intercalate b.data))

/-- The events of some lines behind a block that is begun. -/
def readBlocks (b : Block) : List (List Char) → List (String × String)
  | [] => []
  | line :: rest =>
    if line.isEmpty then b.event?.toList ++ readBlocks .fresh rest
    else readBlocks (b.add line) rest

/-- The names and data of the events of a stream. -/
def read (stream : String) : List (String × String) :=
  readBlocks .fresh (readLines [] stream.toList)

end Testbed.Http.EventStream
