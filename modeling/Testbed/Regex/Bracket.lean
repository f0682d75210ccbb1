import Testbed.Regex.Atom

/-!
# Bracketed classes

A class between brackets lists characters, ranges and other classes. It may start with `^` for all
others, hold further brackets, and combine what is left and right of `&&`, `--` and `~~`; the
operators group from the left.

**First places.** Directly after the bracket hyphens stand for themselves, and so does a closing
bracket when no hyphen came before it: no class is empty as written.

**Levels.** What is open is a stack: for each open bracket the items of the class around it, and
above it the operator that waits for its right side.
-/

namespace Testbed.Regex

/-- The items read so far, the last one first, and the span they cover. -/
structure Items where
  span : Span
  items : List ClassTerm

namespace Items

def emptyAt (p : Position) : Items := ⟨.point p, []⟩

def push (s : Items) (t : ClassTerm) : Items :=
  ⟨⟨if s.items.isEmpty then t.span.start else s.span.start, t.span.stop⟩, t :: s.items⟩

/-- The items as one class. -/
def close (s : Items) : ClassTerm :=
  match s.items with
  | [] => .empty s.span
  | [t] => t
  | ts => .union s.span ts.reverse

end Items

/-- What is open while a class is read. -/
inductive Level where
  /-- A bracket: the items of the class around it, the span of its opening, and whether it
  negates. -/
  | opened (outer : Items) (span : Span) (negated : Bool)
  /-- An operator whose left side is known. -/
  | waiting (kind : ClassOp) (left : ClassTerm)

namespace Bracket

def namedClass? : String → Option NamedClass
  | "alnum" => some .alnum
  | "alpha" => some .alpha
  | "ascii" => some .ascii
  | "blank" => some .blank
  | "cntrl" => some .cntrl
  | "digit" => some .digit
  | "graph" => some .graph
  | "lower" => some .lower
  | "print" => some .print
  | "punct" => some .punct
  | "space" => some .space
  | "upper" => some .upper
  | "word" => some .word
  | "xdigit" => some .xdigit
  | _ => none

/-- Reads `[:name:]` or `[:^name:]`, if that is what follows. -/
def named? (c : Cursor) : Option (ClassTerm × Cursor) := do
  let inner ← c.pass? "[:"
  let (negated, inner) := match inner.pass? "^" with
    | some after => (true, after)
    | none => (false, inner)
  let name := inner.rest.takeWhile (· != ':')
  let stop : Cursor :=
    { inner with rest := inner.rest.drop name.length, loc := name.foldl Position.after inner.loc }
  let after ← stop.pass? ":]"
  let kind ← namedClass? (String.ofList name)
  return (.named ⟨c.loc, after.loc⟩ negated kind, after)

/-- The fault of a class that does not end: it shows the innermost open bracket. -/
def unclosed : List Level → Fault
  | [] => { cause := .classUnclosed, span := .point .first }
  | .opened _ span _ :: _ => { cause := .classUnclosed, span }
  | .waiting _ _ :: rest => unclosed rest

/-- Reads the hyphens that stand for themselves; `fuel` bounds their number. -/
def hyphens (start : Position) : Nat → Items → Cursor → Except Fault (Items × Cursor)
  | 0, items, c => .ok (items, c)
  | fuel + 1, items, c =>
    if c.sees '-' then
      let items := items.push (.literal { span := c.charSpan, char := '-' })
      let c := c.advance
      if c.atEnd then Cursor.fail .classUnclosed (.point start) else hyphens start fuel items c
    else .ok (items, c)

/-- Reads an opening bracket and what stands for itself after it. -/
def opening (c : Cursor) : Except Fault (Span × Bool × Items × Cursor) := do
  let start := c.loc
  let c := c.advance
  if c.atEnd then Cursor.fail .classUnclosed ⟨start, c.loc⟩
  let negated := c.sees '^'
  let c := if negated then c.advance else c
  if c.atEnd then Cursor.fail .classUnclosed ⟨start, c.loc⟩
  let (items, c) ← hyphens start c.rest.length (.emptyAt c.loc) c
  if items.items.isEmpty && c.sees ']' then
    let items := items.push (.literal { span := c.charSpan, char := ']' })
    let c := c.advance
    if c.atEnd then Cursor.fail .classUnclosed ⟨start, c.loc⟩
    return (⟨start, c.loc⟩, negated, items, c)
  else return (⟨start, c.loc⟩, negated, items, c)

/-- An atom as an item of a class. -/
def item (a : Atom) : Except Fault ClassTerm :=
  match a with
  | .literal l => .ok (.literal l)
  | .letter s n k => .ok (.letter s n k)
  | .property s n q => .ok (.property s n q)
  | .dot s => Cursor.fail .classEscapeInvalid s
  | .assertion s _ => Cursor.fail .classEscapeInvalid s

/-- An atom as an end of a range. -/
def rangeEnd (a : Atom) : Except Fault Literal :=
  match a with
  | .literal l => .ok l
  | other => Cursor.fail .classRangeLiteral other.span

def rangeOrItem (levels : List Level) (c : Cursor) : Except Fault (ClassTerm × Cursor) := do
  let (first, c) ← Atom.readInClass c
  let c := c.skip
  if c.atEnd then throw (unclosed levels)
  if !c.sees '-' || c.secondSolid? == some ']' || c.secondSolid? == some '-' then
    return (← item first, c)
  let c := c.advance
  if c.atEnd then throw (unclosed levels)
  let (second, c) ← Atom.readInClass c
  let low ← rangeEnd first
  let high ← rangeEnd second
  let span : Span := ⟨low.span.start, high.span.stop⟩
  if high.char < low.char then Cursor.fail .classRangeInvalid span
  else return (.range span low high, c)

/-- Joins a right side to the operator that waits for it, if there is one. -/
def join (levels : List Level) (right : ClassTerm) : ClassTerm × List Level :=
  match levels with
  | .waiting kind left :: rest => (.op ⟨left.span.start, right.span.stop⟩ kind left right, rest)
  | _ => (right, levels)

def operator? (c : Cursor) : Option (ClassOp × Cursor) :=
  (c.pass? "&&").map (.intersection, ·) <|> (c.pass? "--").map (.difference, ·) <|>
    (c.pass? "~~").map (.symmetricDifference, ·)

/-- Reads up to the bracket that closes the first one; `fuel` bounds the steps. -/
def loop : Nat → List Level → Items → Cursor → Except Fault (Ast × Cursor)
  | 0, levels, _, _ => throw (unclosed levels)
  | fuel + 1, levels, items, c => do
    let c := c.skip
    if c.atEnd then throw (unclosed levels)
    if c.sees '[' then
      match (if levels.isEmpty then none else named? c) with
      | some (t, c) => loop fuel levels (items.push t) c
      | none =>
        let (span, negated, inner, c) ← opening c
        loop fuel (.opened items span negated :: levels) inner c
    else if c.sees ']' then
      let (body, levels) := join levels items.close
      match levels with
      | .opened outer span negated :: rest =>
        let c := c.next
        let span := span.upTo c.loc
        if rest.isEmpty then return (.bracketed span negated body, c)
        else loop fuel rest (outer.push (.bracketed span negated body)) c
      | _ => throw (unclosed levels)
    else match operator? c with
      | some (kind, c) =>
        let (left, levels) := join levels items.close
        loop fuel (.waiting kind left :: levels) (.emptyAt c.loc) c
      | none =>
        let (t, c) ← rangeOrItem levels c
        loop fuel levels (items.push t) c

/-- Reads a bracketed class; the cursor is at its bracket. -/
def read (c : Cursor) : Except Fault (Ast × Cursor) :=
  loop (c.rest.length + 1) [] (.emptyAt c.loc) c

end Bracket
end Testbed.Regex
