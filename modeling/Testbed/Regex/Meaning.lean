import Testbed.Regex.Parser
import Testbed.Regex.Node
import Testbed.Regex.Property

/-!
# From the shape of a pattern to its meaning

Flags hold from where they are set to the end of the group around them, across bars. A class is
folded to both cases before it is negated. Without the flag `u` a pattern is about bytes, and since
a text is never cut inside a character, whatever could match a byte beyond ASCII is refused.
-/

namespace Testbed.Regex

/-- The flags that decide what a part means. -/
structure Switches where
  ignoreCase : Bool := false
  multiLine : Bool := false
  dotAll : Bool := false
  swapGreed : Bool := false
  unicode : Bool := true
  crlf : Bool := false

/-- The switches after a list of signs. -/
def Switches.set (w : Switches) (signs : List FlagSign) : Switches where
  ignoreCase := (FlagSign.state? signs .ignoreCase).getD w.ignoreCase
  multiLine := (FlagSign.state? signs .multiLine).getD w.multiLine
  dotAll := (FlagSign.state? signs .dotAll).getD w.dotAll
  swapGreed := (FlagSign.state? signs .swapGreed).getD w.swapGreed
  unicode := (FlagSign.state? signs .unicode).getD w.unicode
  crlf := (FlagSign.state? signs .crlf).getD w.crlf

/-! ## Classes -/

def NamedClass.members : NamedClass → CharSet
  | alnum => .ofText "30-39 41-5a 61-7a"
  | alpha => .ofText "41-5a 61-7a"
  | ascii => .ofText "0-7f"
  | blank => .ofText "9 20"
  | cntrl => .ofText "0-1f 7f"
  | digit => .ofText "30-39"
  | graph => .ofText "21-7e"
  | lower => .ofText "61-7a"
  | print => .ofText "20-7e"
  | punct => .ofText "21-2f 3a-40 5b-60 7b-7e"
  | space => .ofText "9-d 20"
  | upper => .ofText "41-5a"
  | word => .ofText "30-39 41-5a 5f 61-7a"
  | xdigit => .ofText "30-39 41-46 61-66"

/-- The members of a class with a letter; ASCII alone without the flag `u`. -/
def LetterClass.members (unicode : Bool) : LetterClass → CharSet
  | digit => .ofText "30-39"
  | space => .ofText "9-d 20"
  | word =>
    if unicode then .ofText "30-39 41-5a 5f 61-7a 17f 212a"
    else .ofText "30-39 41-5a 5f 61-7a"

/-- A class folded if case is ignored, and then negated. -/
def foldAndNegate (w : Switches) (span : Span) (negated : Bool) (s : CharSet) :
    Except Fault CharSet :=
  let s := if w.ignoreCase then s.foldCase w.unicode else s
  if !negated then .ok s
  else if w.unicode then .ok s.compl
  else Cursor.fail .invalidUtf8 span

/-- A character in a class. -/
def Literal.member (w : Switches) (l : Literal) : Except Fault Char :=
  if w.unicode ∨ l.char.toNat < 128 then .ok l.char
  else if l.isByte ∧ l.char.toNat < 256 then Cursor.fail .invalidUtf8 l.span
  else Cursor.fail .unicodeNotAllowed l.span

def letterMeaning (w : Switches) (span : Span) (negated : Bool) (kind : LetterClass) :
    Except Fault CharSet :=
  let s := kind.members w.unicode
  if !negated then .ok s
  else if w.unicode then .ok s.compl
  else Cursor.fail .invalidUtf8 span

def propertyMeaning (w : Switches) (span : Span) (negated : Bool) (query : PropertyQuery) :
    Except Fault CharSet :=
  if !w.unicode then Cursor.fail .unicodeNotAllowed span
  else
    let found := match query with
      | .named name => Property.named name
      | .valued name value => Property.valued name value
    match found with
    | .ok s => foldAndNegate w span negated s
    | .error cause => Cursor.fail cause span

mutual

/-- The members of a class. -/
def ClassTerm.meaning (w : Switches) : ClassTerm → Except Fault CharSet
  | .empty _ => .ok .none
  | .literal l => (l.member w).map .single
  | .range _ low high => do
    let low ← low.member w
    let high ← high.member w
    return .range low.toNat high.toNat
  | .named span negated kind => foldAndNegate w span negated kind.members
  | .letter span negated kind => letterMeaning w span negated kind
  | .property span negated query => propertyMeaning w span negated query
  | .bracketed span negated body => do foldAndNegate w span negated (← body.meaning w)
  | .union _ items => ClassTerm.meaningOfAny w items
  | .op _ kind left right => do
    let left ← left.meaning w
    let right ← right.meaning w
    let left := if w.ignoreCase then left.foldCase w.unicode else left
    let right := if w.ignoreCase then right.foldCase w.unicode else right
    return match kind with
      | .intersection => left.inter right
      | .difference => left.diff right
      | .symmetricDifference => left.symmDiff right

/-- The members of any of some classes. -/
def ClassTerm.meaningOfAny (w : Switches) : List ClassTerm → Except Fault CharSet
  | [] => .ok .none
  | t :: rest => do
    let s ← t.meaning w
    let others ← ClassTerm.meaningOfAny w rest
    return s.union others

end

/-! ## Patterns -/

def Assertion.meaning (w : Switches) : Assertion → Look
  | lineStart => if !w.multiLine then .textStart else if w.crlf then .crlfStart else .lineStart
  | lineEnd => if !w.multiLine then .textEnd else if w.crlf then .crlfEnd else .lineEnd
  | textStart => .textStart
  | textEnd => .textEnd
  | wordBoundary => .word
  | notWordBoundary => .notWord
  | wordStart => .wordStart
  | wordEnd => .wordEnd
  | wordStartHalf => .wordStartHalf
  | wordEndHalf => .wordEndHalf

def dotMeaning (w : Switches) (span : Span) : Except Fault CharSet :=
  if !w.unicode then Cursor.fail .invalidUtf8 span
  else if w.dotAll then .ok Property.any
  else if w.crlf then .ok (CharSet.unions [.single '\n', .single '\r']).compl
  else .ok (CharSet.single '\n').compl

/-- The class of a character outside classes. -/
def Literal.meaning (w : Switches) (l : Literal) : Except Fault CharSet :=
  if !w.unicode ∧ l.isByte ∧ 128 ≤ l.char.toNat then Cursor.fail .invalidUtf8 l.span
  else
    let s := CharSet.single l.char
    .ok (if w.ignoreCase ∧ (w.unicode ∨ l.char.toNat < 128) then s.foldCase w.unicode else s)

mutual

/-- The meaning of a pattern, and the switches after it. -/
def Ast.meaning (w : Switches) : Ast → Except Fault (Node × Switches)
  | .empty _ => .ok (.empty, w)
  | .flags _ signs => .ok (.empty, w.set signs)
  | .literal l => (l.meaning w).map fun s => (.set s, w)
  | .dot span => (dotMeaning w span).map fun s => (.set s, w)
  | .assertion _ kind => .ok (.look (kind.meaning w), w)
  | .letter span negated kind => (letterMeaning w span negated kind).map fun s => (.set s, w)
  | .property span negated query =>
    (propertyMeaning w span negated query).map fun s => (.set s, w)
  | .bracketed span negated body => do
    let s ← foldAndNegate w span negated (← body.meaning w)
    return (.set s, w)
  | .repetition _ low high greedy body => do
    let (node, w) ← body.meaning w
    return (.repetition low high (greedy != w.swapGreed) node, w)
  | .group _ kind body => do
    match kind with
    | .capture index =>
      let (node, _) ← body.meaning w
      return (.capture index node, w)
    | .plain signs =>
      let (node, _) ← body.meaning (w.set signs)
      return (node, w)
  | .concat _ parts => do
    let (nodes, w) ← Ast.meanings w parts
    return (.seqs nodes, w)
  | .alternation _ branches => do
    let (nodes, w) ← Ast.meanings w branches
    return (.alts nodes, w)

/-- The meanings of parts in order. -/
def Ast.meanings (w : Switches) : List Ast → Except Fault (List Node × Switches)
  | [] => .ok ([], w)
  | a :: rest => do
    let (node, w) ← a.meaning w
    let (nodes, w) ← Ast.meanings w rest
    return (node :: nodes, w)

end

end Testbed.Regex
