import Testbed.Regex.CharSet

/-!
# What a pattern means

A pattern without its notation: which characters, in which order, with which groups kept.

**Repetitions.** A part that can match nothing but the empty text is never repeated more than once
(`Node.repetition`), a part repeated no times is dropped together with its groups, and a part
repeated once is itself.
-/

namespace Testbed.Regex

/-- What a place in a text is required to be. -/
inductive Look where
  | textStart
  | textEnd
  | lineStart
  | lineEnd
  | crlfStart
  | crlfEnd
  | word
  | notWord
  | wordStart
  | wordEnd
  | wordStartHalf
  | wordEndHalf
  deriving DecidableEq

def isWordChar (c : Char) : Bool := c.isAlphanum || c = '_'

/-- Whether a place is as required, by the characters before and after it. -/
def Look.holds (l : Look) (before after : Option Char) : Bool :=
  let wordBefore := before.any isWordChar
  let wordAfter := after.any isWordChar
  match l with
  | textStart => before.isNone
  | textEnd => after.isNone
  | lineStart => before.all (· = '\n')
  | lineEnd => after.all (· = '\n')
  | crlfStart => before.all fun c => c = '\n' || (c = '\r' && after != some '\n')
  | crlfEnd => after.all fun c => c = '\r' || (c = '\n' && before != some '\r')
  | word => wordBefore != wordAfter
  | notWord => wordBefore == wordAfter
  | wordStart => !wordBefore && wordAfter
  | wordEnd => wordBefore && !wordAfter
  | wordStartHalf => !wordBefore
  | wordEndHalf => !wordAfter

/-- The meaning of a pattern. -/
inductive Node where
  | empty
  | set (s : CharSet)
  /-- A place as required. -/
  | look (l : Look)
  /-- A part that is kept as a group, by its number from 1. -/
  | capture (index : Nat) (body : Node)
  | seq (first second : Node)
  /-- One part or another, the first one preferred. -/
  | alt (first second : Node)
  /-- A part repeated, more times preferred if `greedy`. -/
  | loop (low : Nat) (high : Option Nat) (greedy : Bool) (body : Node)

namespace Node

/-- Parts that follow one another. -/
def seqs : List Node → Node
  | [] => empty
  | [a] => a
  | a :: rest => seq a (seqs rest)

/-- Parts of which one is taken. -/
def alts : List Node → Node
  | [] => set .none
  | [a] => a
  | a :: rest => alt a (alts rest)

/-- Whether nothing but the empty text can match. -/
def isHollow : Node → Bool
  | empty => true
  | set _ => false
  | look _ => true
  | capture _ body => body.isHollow
  | seq a b => a.isHollow && b.isHollow
  | alt a b => a.isHollow && b.isHollow
  | loop _ _ _ body => body.isHollow

/-- A part repeated, where repeating makes a difference. -/
def repetition (low : Nat) (high : Option Nat) (greedy : Bool) (body : Node) : Node :=
  let low := if body.isHollow then min low 1 else low
  let high := if body.isHollow then some (min (high.getD 1) 1) else high
  if low = 0 ∧ high = some 0 then empty
  else if low = 1 ∧ high = some 1 then body
  else loop low high greedy body

def groups : Node → Nat
  | empty => 0
  | set _ => 0
  | look _ => 0
  | capture i body => max i body.groups
  | seq a b => max a.groups b.groups
  | alt a b => max a.groups b.groups
  | loop _ _ _ body => body.groups

end Node
end Testbed.Regex
