import Testbed.Text.Letters
import Testbed.Regex.Ast
import Testbed.Regex.Cursor

/-!
# Openings of groups

A group opens with `(`, with a name (`(?P<name>` or `(?<name>`), or with flags (`(?i-x:`). Flags
closed by `)` instead of `:` open nothing: they hold up to the end of the group around them. Looking
ahead and behind is refused.
-/

namespace Testbed.Regex

/-- A name in use and where it was given. -/
structure NamedGroup where
  name : String
  span : Span

/-- What an opening says. -/
inductive Opening where
  /-- A group whose content is kept, perhaps under a name. -/
  | capture (name : Option NamedGroup)
  /-- A group that sets flags and keeps nothing. -/
  | plain (signs : List FlagSign)
  /-- Flags for what follows. -/
  | flags (signs : List FlagSign)

namespace Opening

def isNameChar (first : Bool) (c : Char) : Bool :=
  if first then c = '_' || Text.isAlphabetic c
  else c = '_' || c = '.' || c = '[' || c = ']' || Text.isAlphabetic c || Text.isNumeric c

/-- Reads the characters of a name up to `>`; `fuel` bounds their number. -/
def nameChars : Nat → List Char → Cursor → Except Fault (List Char × Cursor)
  | 0, name, c => .ok (name.reverse, c)
  | fuel + 1, name, c =>
    match c.rest with
    | [] => .ok (name.reverse, c)
    | a :: _ =>
      if a = '>' then .ok (name.reverse, c)
      else if isNameChar name.isEmpty a then nameChars fuel (a :: name) c.next
      else Cursor.fail .groupNameInvalid c.charSpan

/-- Reads a name and its `>`; it must differ from the names in use. -/
def name (used : List NamedGroup) (c : Cursor) : Except Fault (NamedGroup × Cursor) := do
  let start := c.loc
  let (chars, c) ← nameChars c.rest.length [] c
  if c.atEnd then Cursor.fail .groupNameUnclosed c.point
  if chars.isEmpty then Cursor.fail .groupNameEmpty (.point start)
  let group : NamedGroup := ⟨String.ofList chars, ⟨start, c.loc⟩⟩
  match used.find? (·.name = group.name) with
  | some earlier =>
    throw { cause := .groupNameDuplicate, span := group.span, other := earlier.span }
  | none => return (group, c.next)

def flag? : Char → Option Flag
  | 'i' => some .ignoreCase
  | 'm' => some .multiLine
  | 's' => some .dotAll
  | 'U' => some .swapGreed
  | 'u' => some .unicode
  | 'R' => some .crlf
  | 'x' => some .freeSpacing
  | _ => none

/-- Reads the signs of flags up to `:` or `)`. The signs read so far come with their spans, the last
one first; `fuel` bounds their number. -/
def signs : Nat → List (FlagSign × Span) → Cursor → Except Fault (List FlagSign × Cursor)
  | 0, _, c => Cursor.fail .flagIncomplete c.point
  | fuel + 1, done, c => do
    match c.rest with
    | [] => Cursor.fail .flagIncomplete c.point
    | a :: _ =>
      if a = ':' ∨ a = ')' then
        match done with
        | (.negation, span) :: _ => Cursor.fail .flagDanglingNegation span
        | _ => return (done.reverse.map (·.1), c)
      else
        let sign ← if a = '-' then pure FlagSign.negation else
          match flag? a with
          | some f => pure (FlagSign.flag f)
          | none => Cursor.fail .flagUnknown c.charSpan
        match done.find? (·.1 = sign) with
        | some (_, earlier) =>
          let cause := if a = '-' then Cause.flagRepeatedNegation else .flagDuplicate
          throw { cause, span := c.charSpan, other := earlier }
        | none => signs fuel ((sign, c.charSpan) :: done) c.next

/-- Whether looking ahead or behind follows; it is passed then. -/
def lookAround? (c : Cursor) : Option Cursor :=
  c.pass? "?=" <|> c.pass? "?!" <|> c.pass? "?<=" <|> c.pass? "?<!"

/-- Reads an opening; the cursor is at its parenthesis. -/
def read (used : List NamedGroup) (c : Cursor) : Except Fault (Opening × Cursor) := do
  let start := c.loc
  let paren := c.charSpan
  let c := c.advance
  match lookAround? c with
  | some after => Cursor.fail .lookAround ⟨start, after.loc⟩
  | none =>
    match c.pass? "?P<" <|> c.pass? "?<" with
    | some c =>
      let (group, c) ← name used c
      return (.capture (some group), c)
    | none =>
      match c.pass? "?" with
      | none => return (.capture none, c)
      | some inner =>
        if inner.atEnd then Cursor.fail .groupUnclosed paren
        else
          let (given, stop) ← signs inner.rest.length [] inner
          if stop.sees ')' then
            if given.isEmpty then Cursor.fail .repetitionMissing c.point
            else return (.flags given, stop.next)
          else return (.plain given, stop.next)

end Opening
end Testbed.Regex
