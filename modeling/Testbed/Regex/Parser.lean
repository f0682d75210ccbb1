import Testbed.Regex.Bracket
import Testbed.Regex.Group

/-!
# Reading a pattern

`Ast.parse` reads a pattern into its shape. One step reads one part: an opening or closing of a
group, a bar, a class, a repetition of the part before it, or an atom. What is open is a stack of
frames: the groups around the place of reading, each under the branches that were read in it.

**Depth.** A pattern whose parts are nested more than `nestLimit` deep is refused.
-/

namespace Testbed.Regex

/-- Parts that follow one another, the last one first, and where they start. -/
structure Sequence where
  start : Position
  parts : List Ast

/-- The parts as one pattern that ends at a place. -/
def Sequence.close (s : Sequence) (stop : Position) : Ast :=
  match s.parts with
  | [] => .empty ⟨s.start, stop⟩
  | [a] => a
  | parts => .concat ⟨s.start, stop⟩ parts.reverse

/-- What is open while a pattern is read. -/
inductive Frame where
  /-- A group: the parts before it, the span of its parenthesis, and the spacing outside. -/
  | group (outer : Sequence) (span : Span) (kind : GroupKind) (free : Bool)
  /-- The branches so far, the last one first, and where the first one starts. -/
  | branches (start : Position) (done : List Ast)

/-- Where the reading of a pattern stands. -/
structure Reading where
  cursor : Cursor
  frames : List Frame := []
  current : Sequence
  /-- How many groups are kept so far. -/
  groups : Nat := 0
  names : List NamedGroup := []

namespace Reading

def ofString (pattern : String) : Reading :=
  { cursor := .ofString pattern, current := ⟨.first, []⟩ }

/-- With one more part, after which a place follows. -/
def push (r : Reading) (a : Ast) (c : Cursor) : Reading :=
  { r with cursor := c, current := ⟨r.current.start, a :: r.current.parts⟩ }

/-! ## Repetitions -/

/-- The part that a repetition applies to, and the parts before it. -/
def operand (r : Reading) : Except Fault (Ast × Sequence) :=
  match r.current.parts with
  | [] => Cursor.fail .repetitionMissing r.cursor.point
  | .empty _ :: _ => Cursor.fail .repetitionMissing r.cursor.point
  | .flags _ _ :: _ => Cursor.fail .repetitionMissing r.cursor.point
  | a :: before => .ok (a, ⟨r.current.start, before⟩)

/-- Passes the mark of a repetition that prefers fewer. -/
def lazily (c : Cursor) : Bool × Cursor := if c.sees '?' then (false, c.next) else (true, c)

def sign (r : Reading) (low : Nat) (high : Option Nat) : Except Fault Reading := do
  let (body, before) ← r.operand
  let (greedy, c) := lazily r.cursor.next
  let part := Ast.repetition (body.span.upTo c.loc) low high greedy body
  return { r with cursor := c, current := ⟨before.start, part :: before.parts⟩ }

def digits : Nat → List Char → Cursor → List Char × Cursor
  | 0, done, c => (done.reverse, c)
  | fuel + 1, done, c =>
    match c.rest with
    | [] => (done.reverse, c)
    | a :: _ => if a.isDigit then digits fuel (a :: done) c.advance else (done.reverse, c)

/-- Reads a count with the blanks around it. -/
def count (c : Cursor) : Except Fault Nat × Cursor :=
  let c := c.dropBlanks
  let start := c.loc
  let (done, c) := digits c.rest.length [] c
  let span : Span := ⟨start, c.loc⟩
  let n := done.foldl (fun n d => n * 10 + (d.toNat - '0'.toNat)) 0
  let result := if done.isEmpty then Cursor.fail .repetitionCountEmpty span
    else if n < UInt32.size then .ok n
    else Cursor.fail .decimalInvalid span
  (result, c.dropBlanks)

/-- Reads the counts of a repetition up to the closing brace. A fault in the first count is told
after one in the form of the braces. -/
def bounds (start : Position) (c : Cursor) : Except Fault ((Nat × Option Nat) × Cursor) := do
  let unclosed (c : Cursor) : Except Fault ((Nat × Option Nat) × Cursor) :=
    Cursor.fail .repetitionUnclosed ⟨start, c.loc⟩
  if c.atEnd then unclosed c
  else
    let (first, c) := count c
    if c.atEnd then unclosed c
    else if c.sees ',' then
      let c := c.advance
      if c.atEnd then unclosed c
      else if c.sees '\x7d' then return ((← first, none), c)
      else
        let low ← first
        let (second, c) := count c
        let high ← second
        if c.sees '\x7d' then return ((low, some high), c) else unclosed c
    else
      let n ← first
      if c.sees '\x7d' then return ((n, some n), c) else unclosed c

/-- Reads a repetition with counts in braces. -/
def counted (r : Reading) : Except Fault Reading := do
  let start := r.cursor.loc
  let (body, before) ← r.operand
  let ((low, high), c) ← bounds start r.cursor.advance
  let (greedy, c) := lazily c.advance
  if (high.map fun h => decide (h < low)).getD false then
    Cursor.fail .repetitionRangeInvalid ⟨start, c.loc⟩
  else
    let part := Ast.repetition (body.span.upTo c.loc) low high greedy body
    return { r with cursor := c, current := ⟨before.start, part :: before.parts⟩ }

/-! ## Groups and branches -/

/-- Opens a group around what follows. -/
def enter (r : Reading) (kind : GroupKind) (free : Bool) (c : Cursor) : Reading :=
  { r with
    cursor := { c with free := free }
    frames := .group r.current r.cursor.charSpan kind r.cursor.free :: r.frames
    current := ⟨c.loc, []⟩ }

def openGroup (r : Reading) : Except Fault Reading := do
  let (opening, c) ← Opening.read r.names r.cursor
  match opening with
  | .flags signs =>
    let free := (FlagSign.state? signs .freeSpacing).getD c.free
    return r.push (.flags ⟨r.cursor.loc, c.loc⟩ signs) { c with free := free }
  | .plain signs =>
    return r.enter (.plain signs) ((FlagSign.state? signs .freeSpacing).getD c.free) c
  | .capture name =>
    let r := { r with groups := r.groups + 1, names := name.toList ++ r.names }
    return r.enter (.capture r.groups) c.free c

def bar (r : Reading) : Reading :=
  let branch := r.current.close r.cursor.loc
  let frames := match r.frames with
    | .branches start done :: rest => .branches start (branch :: done) :: rest
    | frames => .branches r.current.start [branch] :: frames
  let c := r.cursor.next
  { r with cursor := c, frames := frames, current := ⟨c.loc, []⟩ }

/-- The content of the innermost group or of the whole, which ends at a place, and the frames
below. -/
def content (r : Reading) (stop : Position) : Ast × List Frame :=
  let branch := r.current.close stop
  match r.frames with
  | .branches start done :: rest => (.alternation ⟨start, stop⟩ (branch :: done).reverse, rest)
  | frames => (branch, frames)

def closeGroup (r : Reading) : Except Fault Reading :=
  let (body, frames) := r.content r.cursor.loc
  match frames with
  | .group outer span kind free :: rest =>
    let c := { r.cursor.next with free := free }
    let part := Ast.group (span.upTo c.loc) kind body
    .ok { r with cursor := c, frames := rest, current := ⟨outer.start, part :: outer.parts⟩ }
  | _ => Cursor.fail .groupUnopened r.cursor.charSpan

/-- The whole pattern, when all of it is read. -/
def finish (r : Reading) : Except Fault Ast :=
  let (body, frames) := r.content r.cursor.loc
  match frames with
  | .group _ span _ _ :: _ => Cursor.fail .groupUnclosed span
  | _ => .ok body

/-! ## Steps -/

/-- Reads one part, which starts with a character. -/
def step (r : Reading) (a : Char) : Except Fault Reading :=
  match a with
  | '(' => r.openGroup
  | ')' => r.closeGroup
  | '|' => .ok r.bar
  | '[' => (Bracket.read r.cursor).map fun (part, c) => r.push part c
  | '?' => r.sign 0 (some 1)
  | '*' => r.sign 0 none
  | '+' => r.sign 1 none
  | '\x7b' => r.counted
  | _ => (Atom.read r.cursor).map fun (atom, c) => r.push atom.toAst c

/-- Reads to the end; `fuel` bounds the steps. -/
def run : Nat → Reading → Except Fault Ast
  | 0, r => r.finish
  | fuel + 1, r =>
    let r := { r with cursor := r.cursor.skip }
    match r.cursor.rest with
    | [] => r.finish
    | a :: _ =>
      match r.step a with
      | .ok r => run fuel r
      | .error f => .error f

end Reading

/-! ## Depth -/

/-- How deep parts may be nested. -/
def nestLimit : Nat := 250

def tooDeep (span : Span) : Fault := { cause := .nestedTooDeep nestLimit, span }

mutual

/-- The first part of a class that is nested too deep, when the class has a depth around it. -/
def ClassTerm.tooDeep? (depth : Nat) : ClassTerm → Option Fault
  | .bracketed span _ body =>
    if nestLimit ≤ depth then some (tooDeep span) else body.tooDeep? (depth + 1)
  | .union span items =>
    if nestLimit ≤ depth then some (tooDeep span) else ClassTerm.tooDeepIn? (depth + 1) items
  | .op span _ left right =>
    if nestLimit ≤ depth then some (tooDeep span)
    else (left.tooDeep? (depth + 1)).or (right.tooDeep? (depth + 1))
  | _ => none

/-- The same for the items of a class. -/
def ClassTerm.tooDeepIn? (depth : Nat) : List ClassTerm → Option Fault
  | [] => none
  | t :: rest => (t.tooDeep? depth).or (ClassTerm.tooDeepIn? depth rest)

end

mutual

/-- The first part that is nested too deep, when the pattern has a depth around it. -/
def Ast.tooDeep? (depth : Nat) : Ast → Option Fault
  | .bracketed span _ body =>
    if nestLimit ≤ depth then some (tooDeep span) else body.tooDeep? (depth + 1)
  | .repetition span _ _ _ body =>
    if nestLimit ≤ depth then some (tooDeep span) else body.tooDeep? (depth + 1)
  | .group span _ body =>
    if nestLimit ≤ depth then some (tooDeep span) else body.tooDeep? (depth + 1)
  | .concat span parts =>
    if nestLimit ≤ depth then some (tooDeep span) else Ast.tooDeepIn? (depth + 1) parts
  | .alternation span branches =>
    if nestLimit ≤ depth then some (tooDeep span) else Ast.tooDeepIn? (depth + 1) branches
  | _ => none

/-- The same for parts in order. -/
def Ast.tooDeepIn? (depth : Nat) : List Ast → Option Fault
  | [] => none
  | a :: rest => (a.tooDeep? depth).or (Ast.tooDeepIn? depth rest)

end

def Ast.parse (pattern : String) : Except Fault Ast :=
  match (Reading.ofString pattern).run (pattern.toList.length + 1) with
  | .error f => .error f
  | .ok a =>
    match a.tooDeep? 0 with
    | some f => .error f
    | none => .ok a

end Testbed.Regex
