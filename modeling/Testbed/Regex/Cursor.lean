import Testbed.Text.Blank
import Testbed.Regex.Fault

/-!
# Reading a pattern

A cursor is the rest of a pattern, where it starts, and whether blanks and comments are skipped in
it (free spacing). A comment goes from `#` to the end of its line.
-/

namespace Testbed.Regex

/-- A rest without the blanks and comments in front; `comment` tells whether it starts in a
comment. -/
def skipBlanks (comment : Bool) : List Char → Position → List Char × Position
  | [], p => ([], p)
  | c :: rest, p =>
    if comment then skipBlanks (c != '\n') rest (p.after c)
    else if Text.isBlank c then skipBlanks false rest (p.after c)
    else if c = '#' then skipBlanks true rest (p.after c)
    else (c :: rest, p)

/-- What is still to be read. -/
structure Cursor where
  rest : List Char
  loc : Position
  free : Bool

namespace Cursor

def ofString (pattern : String) : Cursor := ⟨pattern.toList, .first, false⟩

def next (c : Cursor) : Cursor :=
  match c.rest with
  | [] => c
  | a :: rest => { c with rest := rest, loc := c.loc.after a }

/-- Past the blanks and comments that free spacing skips. -/
def skip (c : Cursor) : Cursor :=
  if c.free then
    let (rest, loc) := skipBlanks false c.rest c.loc
    { c with rest := rest, loc := loc }
  else c

/-- Past one character and what free spacing skips after it. -/
def advance (c : Cursor) : Cursor := c.next.skip

/-- Past the blanks in front, whatever the spacing. -/
def dropBlanks (c : Cursor) : Cursor :=
  { c with
    rest := c.rest.dropWhile Text.isBlank
    loc := (c.rest.takeWhile Text.isBlank).foldl Position.after c.loc }

def atEnd (c : Cursor) : Bool := c.rest.isEmpty

/-- Whether a character comes next. -/
def sees (c : Cursor) (a : Char) : Bool := c.rest.head? == some a

/-- Whether a text comes next; it is passed then. -/
def pass? (c : Cursor) (text : String) : Option Cursor :=
  let chars := text.toList
  if chars.isPrefixOf c.rest then
    some { c with rest := c.rest.drop chars.length, loc := chars.foldl Position.after c.loc }
  else none

/-- The character after the next one. -/
def second? (c : Cursor) : Option Char := c.rest.tail.head?

/-- The first of some characters that is not blank, and not a `#` unless an earlier one was. -/
def solid? (hash : Bool) : List Char → Option Char
  | [] => none
  | c :: rest =>
    if Text.isBlank c then solid? hash rest
    else if c = '#' ∧ ¬ hash then solid? true rest
    else some c

/-- The character after the next one as free spacing sees it. -/
def secondSolid? (c : Cursor) : Option Char :=
  if c.free then
    match solid? false c.rest.tail with
    | some a => some a
    | none => c.second?
  else c.second?

def charSpan (c : Cursor) : Span :=
  match c.rest with
  | [] => .point c.loc
  | a :: _ => ⟨c.loc, c.loc.after a⟩

/-- The empty span in front of the next character. -/
def point (c : Cursor) : Span := .point c.loc

def fail {α : Type} (cause : Cause) (span : Span) : Except Fault α := .error { cause, span }

end Cursor
end Testbed.Regex
