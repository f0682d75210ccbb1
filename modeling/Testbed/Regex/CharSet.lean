import Testbed.Text.Ranges

/-!
# Classes of characters

A pattern is held against paths, which are ASCII text. What a class means for them is its members
among the ASCII characters; two more characters count because they are a lower case `s` and an upper
case `k` to a pattern that ignores case: `ſ` and the Kelvin sign. A class is the set of its members
among these 130 characters, the *letters* below.
-/

namespace Testbed.Regex

def letterCount : Nat := 130

/-- The number of a code point among the letters. -/
def letterOf? (code : Nat) : Option Nat :=
  if code < 128 then some code
  else if code = 0x17F then some 128
  else if code = 0x212A then some 129
  else none

/-- A class, by its letters. -/
structure CharSet where
  letters : BitVec letterCount
  deriving DecidableEq

namespace CharSet

/-- Whether a character is a letter of a class. -/
def contains (s : CharSet) (c : Char) : Bool :=
  match letterOf? c.toNat with
  | some i => s.letters.getLsbD i
  | none => false

def none : CharSet := ⟨0#_⟩

/-- The letters with numbers below a bound. -/
def below (n : Nat) : BitVec letterCount := BitVec.ofNat letterCount (1 <<< n - 1)

/-- The ASCII characters between two code points. -/
def ascii (low high : Nat) : CharSet :=
  ⟨below (min (high + 1) 128) &&& ~~~below (min low 128)⟩

def range (low high : Nat) : CharSet :=
  let single (code i : Nat) : BitVec letterCount :=
    if low ≤ code ∧ code ≤ high then BitVec.twoPow letterCount i else 0#_
  ⟨(ascii low high).letters ||| single 0x17F 128 ||| single 0x212A 129⟩

/-- A character alone. -/
def single (c : Char) : CharSet := range c.toNat c.toNat

def union (s t : CharSet) : CharSet := ⟨s.letters ||| t.letters⟩

def inter (s t : CharSet) : CharSet := ⟨s.letters &&& t.letters⟩

def diff (s t : CharSet) : CharSet := ⟨s.letters &&& ~~~t.letters⟩

/-- The members of exactly one of two classes. -/
def symmDiff (s t : CharSet) : CharSet := ⟨s.letters ^^^ t.letters⟩

def compl (s : CharSet) : CharSet := ⟨~~~s.letters⟩

def unions (sets : List CharSet) : CharSet := sets.foldl union none

/-- The characters in ranges that are written as text. -/
def ofText (text : String) : CharSet :=
  unions ((CodeRanges.ofText text).toList.map fun (low, high) => range low high)

def upper : BitVec letterCount := (ascii 0x41 0x5A).letters

def lower : BitVec letterCount := (ascii 0x61 0x7A).letters

/-- A class with all letters when it has one of them. -/
def closeOver (variants s : BitVec letterCount) : BitVec letterCount :=
  if s &&& variants = 0#_ then s else s ||| variants

/-- A class with the other case of each ASCII member; beyond ASCII if `wide`. -/
def foldCase (wide : Bool) (s : CharSet) : CharSet :=
  let both := s.letters ||| ((s.letters &&& upper) <<< 32) ||| ((s.letters &&& lower) >>> 32)
  let letters := if wide then
      closeOver (unions [single 's', single 'S', single 'ſ']).letters
        (closeOver (unions [single 'k', single 'K', single '\u212a']).letters both)
    else both
  ⟨letters⟩

end CharSet
end Testbed.Regex
