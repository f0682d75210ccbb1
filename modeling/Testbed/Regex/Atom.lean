import Testbed.Text.Utf8
import Testbed.Regex.Ast
import Testbed.Regex.Cursor

/-!
# Atoms

The smallest parts of a pattern: a character, an escape, a dot, an assertion. An escape names a
character by itself (`\.`), by a letter (`\n`) or by a number (`\x41`, `\u{1F600}`), a class (`\d`,
`\pL`, `\p{Greek}`), or a required place (`\b`, `\A`).
-/

namespace Testbed.Regex

/-- A smallest part. -/
inductive Atom where
  | literal (l : Literal)
  | dot (span : Span)
  | assertion (span : Span) (kind : Assertion)
  | letter (span : Span) (negated : Bool) (kind : LetterClass)
  | property (span : Span) (negated : Bool) (query : PropertyQuery)

namespace Atom

def span : Atom → Span
  | literal l => l.span
  | dot s | assertion s _ | letter s _ _ | property s _ _ => s

def toAst : Atom → Ast
  | literal l => .literal l
  | dot s => .dot s
  | assertion s k => .assertion s k
  | letter s n k => .letter s n k
  | property s n q => .property s n q

/-- Whether a character has a meaning of its own in a pattern. -/
def isMeta (c : Char) : Bool := "\\.+*?()|[]\x7b\x7d^$#&-~".toList.contains c

/-- Whether a backslash before a character changes nothing. -/
def isSuperfluous (c : Char) : Bool := c.toNat < 128 && !c.isAlphanum && c != '<' && c != '>'

/-! ## Numbers of characters -/

/-- The character with a number written in hexadecimal digits. -/
def charOfHex? (digits : List Char) : Option Char :=
  let n := digits.foldl (fun n d => n * 16 + (hexValue? d).getD 0) 0
  if h : n.isValidChar then some (Char.ofNatAux n h) else none

def isHex (c : Char) : Bool := (hexValue? c).isSome

/-- Reads a given number of hexadecimal digits. -/
def fixedHex : Nat → List Char → Cursor → Except Fault (List Char × Cursor)
  | 0, digits, c => .ok (digits.reverse, c)
  | n + 1, digits, c =>
    match c.rest with
    | [] => Cursor.fail .escapeIncomplete c.point
    | d :: _ =>
      if isHex d then fixedHex n (d :: digits) c.advance
      else Cursor.fail .hexDigitInvalid c.charSpan

/-- Reads hexadecimal digits up to a closing brace; `fuel` bounds their number. -/
def bracedHex : Nat → List Char → Cursor → Except Fault (List Char × Cursor)
  | 0, digits, c => .ok (digits.reverse, c)
  | fuel + 1, digits, c =>
    match c.rest with
    | [] => .ok (digits.reverse, c)
    | d :: _ =>
      if d = '\x7d' then .ok (digits.reverse, c)
      else if isHex d then bracedHex fuel (d :: digits) c.advance
      else Cursor.fail .hexDigitInvalid c.charSpan

/-- How many digits follow a letter that announces a number. -/
def digitCount (c : Char) : Nat := if c = 'x' then 2 else if c = 'u' then 4 else 8

/-- Reads a character by its number; the cursor is at the letter that announces it. -/
def numbered (start : Position) (kind : Char) (c : Cursor) : Except Fault (Atom × Cursor) :=
  let c := c.advance
  if c.atEnd then Cursor.fail .escapeIncomplete c.point
  else if c.sees '\x7b' then
    let brace := c.loc
    let digitsStart := c.next.loc
    match bracedHex c.rest.length [] c.advance with
    | .error f => .error f
    | .ok (digits, c) =>
      if c.atEnd then Cursor.fail .escapeIncomplete ⟨brace, c.loc⟩
      else
        let digitsEnd := c.loc
        let c := c.advance
        if digits.isEmpty then Cursor.fail .hexEmpty ⟨brace, c.loc⟩
        else match charOfHex? digits with
          | none => Cursor.fail .hexInvalid ⟨digitsStart, digitsEnd⟩
          | some a => .ok (literal { span := ⟨start, c.loc⟩, char := a }, c)
  else
    let digitsStart := c.loc
    match fixedHex (digitCount kind) [] c with
    | .error f => .error f
    | .ok (digits, c) =>
      match charOfHex? digits with
      | none => Cursor.fail .hexInvalid ⟨digitsStart, c.loc⟩
      | some a => .ok (literal { span := ⟨start, c.loc⟩, char := a, isByte := kind = 'x' }, c)

/-! ## Classes -/

/-- A text cut at the first place where a separator stands. -/
def cutAt (separator : List Char) : List Char → Option (List Char × List Char)
  | [] => none
  | c :: rest =>
    if separator.isPrefixOf (c :: rest) then some ([], (c :: rest).drop separator.length)
    else (cutAt separator rest).map fun (front, back) => (c :: front, back)

/-- The question between the braces of a property. -/
def queryOf (name : List Char) : PropertyQuery :=
  match cutAt ['!', '='] name <|> cutAt [':'] name <|> cutAt ['='] name with
  | some (front, back) => .valued (String.ofList front) (String.ofList back)
  | none => .named (String.ofList name)

/-- Reads a name up to a closing brace; `fuel` bounds its length. -/
def bracedName : Nat → List Char → Cursor → List Char × Cursor
  | 0, name, c => (name.reverse, c)
  | fuel + 1, name, c =>
    match c.rest with
    | [] => (name.reverse, c)
    | a :: _ => if a = '\x7d' then (name.reverse, c) else bracedName fuel (a :: name) c.advance

/-- Reads the property after `\p` or `\P`; the cursor is at the letter. -/
def propertyClass (start : Position) (c : Cursor) : Except Fault (Atom × Cursor) :=
  let negated := c.sees 'P'
  let c := c.advance
  match c.rest with
  | [] => Cursor.fail .escapeIncomplete c.point
  | a :: _ =>
    if a = '\x7b' then
      let (name, c) := bracedName c.rest.length [] c.advance
      if c.atEnd then Cursor.fail .escapeIncomplete c.point
      else
        let c := c.next
        .ok (property ⟨start, c.loc⟩ negated (queryOf name), c)
    else if a = '\\' then Cursor.fail .propertyClassInvalid c.charSpan
    else
      let c := c.advance
      .ok (property ⟨start, c.loc⟩ negated (.named (String.ofList [a])), c)

def letterClass? : Char → Option (Bool × LetterClass)
  | 'd' => some (false, .digit)
  | 'D' => some (true, .digit)
  | 's' => some (false, .space)
  | 'S' => some (true, .space)
  | 'w' => some (false, .word)
  | 'W' => some (true, .word)
  | _ => none

/-! ## Places -/

/-- Whether a character can stand in the braces of a boundary. -/
def isBoundaryChar (c : Char) : Bool := c.isAlpha || c = '-'

def boundary? : String → Option Assertion
  | "start" => some .wordStart
  | "end" => some .wordEnd
  | "start-half" => some .wordStartHalf
  | "end-half" => some .wordEndHalf
  | _ => none

def boundaryName : Nat → List Char → Cursor → List Char × Cursor
  | 0, name, c => (name.reverse, c)
  | fuel + 1, name, c =>
    match c.rest with
    | [] => (name.reverse, c)
    | a :: _ => if isBoundaryChar a then boundaryName fuel (a :: name) c.advance
      else (name.reverse, c)

/-- Reads the braces after `\b`; they are left to a repetition unless a letter follows. -/
def boundaryBraces (start : Position) (c : Cursor) : Except Fault (Option Assertion × Cursor) :=
  let inner := c.advance
  match inner.rest with
  | [] => Cursor.fail .boundaryIncomplete ⟨start, inner.loc⟩
  | a :: _ =>
    if !isBoundaryChar a then .ok (none, c)
    else
      let (name, after) := boundaryName inner.rest.length [] inner
      if !after.sees '\x7d' then Cursor.fail .boundaryUnclosed ⟨c.loc, after.loc⟩
      else match boundary? (String.ofList name) with
        | some kind => .ok (some kind, after.next)
        | none => Cursor.fail .boundaryUnknown ⟨inner.loc, after.loc⟩

def control? : Char → Option Char
  | 'a' => some '\x07'
  | 'f' => some '\x0c'
  | 't' => some '\t'
  | 'n' => some '\n'
  | 'r' => some '\r'
  | 'v' => some '\x0b'
  | _ => none

/-- The place of a letter or bracket. -/
def place? : Char → Option Assertion
  | 'A' => some .textStart
  | 'z' => some .textEnd
  | 'B' => some .notWordBoundary
  | '<' => some .wordStart
  | '>' => some .wordEnd
  | _ => none

/-! ## Reading an atom -/

/-- Reads an escape; the cursor is at the backslash. -/
def escape (c : Cursor) : Except Fault (Atom × Cursor) :=
  let start := c.loc
  let c := c.next
  match c.rest with
  | [] => Cursor.fail .escapeIncomplete ⟨start, c.loc⟩
  | a :: _ =>
    let after := c.next
    let span : Span := ⟨start, after.loc⟩
    if a.isDigit then Cursor.fail .backreference span
    else if a = 'x' ∨ a = 'u' ∨ a = 'U' then numbered start a c
    else if a = 'p' ∨ a = 'P' then propertyClass start c
    else match letterClass? a with
      | some (negated, kind) => .ok (letter span negated kind, after)
      | none =>
        if isMeta a ∨ isSuperfluous a then .ok (literal { span, char := a }, after)
        else match control? a, place? a with
          | some b, _ => .ok (literal { span, char := b }, after)
          | none, some kind => .ok (assertion span kind, after)
          | none, none =>
            if a = 'b' then
              if after.sees '\x7b' then
                match boundaryBraces start after with
                | .error f => .error f
                | .ok (some kind, c) => .ok (assertion ⟨start, c.loc⟩ kind, c)
                | .ok (none, c) => .ok (assertion span .wordBoundary, c)
              else .ok (assertion span .wordBoundary, after)
            else Cursor.fail .escapeUnknown span

/-- Reads an atom outside a class; the cursor is at its first character. -/
def read (c : Cursor) : Except Fault (Atom × Cursor) :=
  match c.rest with
  | [] => Cursor.fail .escapeIncomplete c.point
  | a :: _ =>
    if a = '\\' then escape c
    else if a = '.' then .ok (dot c.charSpan, c.next)
    else if a = '^' then .ok (assertion c.charSpan .lineStart, c.next)
    else if a = '$' then .ok (assertion c.charSpan .lineEnd, c.next)
    else .ok (literal { span := c.charSpan, char := a }, c.next)

/-- Reads an atom inside a class; the cursor is at its first character. -/
def readInClass (c : Cursor) : Except Fault (Atom × Cursor) :=
  match c.rest with
  | [] => Cursor.fail .escapeIncomplete c.point
  | a :: _ =>
    if a = '\\' then escape c
    else .ok (literal { span := c.charSpan, char := a }, c.next)

end Atom
end Testbed.Regex
