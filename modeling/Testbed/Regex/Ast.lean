import Testbed.Regex.Position

/-!
# The shape of a pattern

A pattern as it is written: what stands where, with the spans that reports of faults need, before
flags are applied and properties are looked up.
-/

namespace Testbed.Regex

/-- A character, however it is written. -/
structure Literal where
  span : Span
  char : Char
  /-- Whether it is written as a backslash, `x` and two digits, which can stand for a byte. -/
  isByte : Bool := false

/-- The classes with a letter of their own. -/
inductive LetterClass where
  | digit
  | space
  | word

/-- The classes with a name between `[:` and `:]`. -/
inductive NamedClass where
  | alnum
  | alpha
  | ascii
  | blank
  | cntrl
  | digit
  | graph
  | lower
  | print
  | punct
  | space
  | upper
  | word
  | xdigit

/-- Which property a class asks for. -/
inductive PropertyQuery where
  | named (name : String)
  | valued (name value : String)

/-- How two classes are combined. -/
inductive ClassOp where
  | intersection
  | difference
  | symmetricDifference

/-- A class: an item, or an operation on classes. -/
inductive ClassTerm where
  | empty (span : Span)
  | literal (l : Literal)
  | range (span : Span) (low high : Literal)
  | named (span : Span) (negated : Bool) (kind : NamedClass)
  | letter (span : Span) (negated : Bool) (kind : LetterClass)
  | property (span : Span) (negated : Bool) (query : PropertyQuery)
  | bracketed (span : Span) (negated : Bool) (body : ClassTerm)
  | union (span : Span) (items : List ClassTerm)
  | op (span : Span) (kind : ClassOp) (left right : ClassTerm)

def ClassTerm.span : ClassTerm → Span
  | empty s | range s _ _ | named s _ _ | letter s _ _ | property s _ _ | bracketed s _ _
  | union s _ | op s _ _ _ => s
  | literal l => l.span

/-- What a place in a text is required to be. -/
inductive Assertion where
  | lineStart
  | lineEnd
  | textStart
  | textEnd
  | wordBoundary
  | notWordBoundary
  | wordStart
  | wordEnd
  | wordStartHalf
  | wordEndHalf

/-- The switches of a pattern. -/
inductive Flag where
  | ignoreCase
  | multiLine
  | dotAll
  | swapGreed
  | unicode
  | crlf
  | freeSpacing
  deriving DecidableEq

/-- A sign in a list of flags: what follows a negation is switched off. -/
inductive FlagSign where
  | negation
  | flag (f : Flag)
  deriving DecidableEq

/-- What a list of signs says about a flag. -/
def FlagSign.state? (signs : List FlagSign) (f : Flag) (negated : Bool := false) : Option Bool :=
  match signs with
  | [] => none
  | .negation :: rest => state? rest f true
  | .flag g :: rest => if g = f then some !negated else state? rest f negated

/-- What a group is for. -/
inductive GroupKind where
  /-- What it matches is kept, under a number. -/
  | capture (index : Nat)
  /-- It only holds together, and sets flags. -/
  | plain (signs : List FlagSign)

inductive Ast where
  | empty (span : Span)
  | flags (span : Span) (signs : List FlagSign)
  | literal (l : Literal)
  | dot (span : Span)
  | assertion (span : Span) (kind : Assertion)
  | letter (span : Span) (negated : Bool) (kind : LetterClass)
  | property (span : Span) (negated : Bool) (query : PropertyQuery)
  | bracketed (span : Span) (negated : Bool) (body : ClassTerm)
  | repetition (span : Span) (low : Nat) (high : Option Nat) (greedy : Bool) (body : Ast)
  | group (span : Span) (kind : GroupKind) (body : Ast)
  | concat (span : Span) (parts : List Ast)
  | alternation (span : Span) (branches : List Ast)

def Ast.span : Ast → Span
  | empty s | flags s _ | dot s | assertion s _ | letter s _ _ | property s _ _ | bracketed s _ _
  | repetition s _ _ _ _ | group s _ _ | concat s _ | alternation s _ => s
  | literal l => l.span

end Testbed.Regex
