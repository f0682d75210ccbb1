import Testbed.Url.Idna.Label
import Testbed.Url.Punycode

/-!
# International domain names

A domain name in ASCII. Every character is brought to its form in names, the name to its composed
form, and each label that is not ASCII is written as `xn--` and its code. A label that comes with
`xn--` must be the code of a label that could have been written without it.

A name in small letters, digits, hyphens and dots has nothing to be brought to (`isFinal`), and is
not looked up.
-/

namespace Testbed.Url.Idna

/-- The labels of a name: the parts between dots. -/
def labelsOf : List Char → List (List Char)
  | [] => [[]]
  | c :: rest =>
    if c = '.' then [] :: labelsOf rest
    else match labelsOf rest with
      | label :: labels => (c :: label) :: labels
      | [] => [[c]]

def isAscii (cs : List Char) : Bool := cs.all fun c => c.toNat < 128

/-- What the code of a label follows. -/
def codeMark : List Char := ['x', 'n', '-', '-']

/-- The label that a label stands for: itself, or what its code says. -/
def decodeLabel? (label : List Char) : Option (List Char) :=
  if codeMark.isPrefixOf label then
    match Punycode.decode (label.drop codeMark.length) with
    | none => none
    | some plain =>
      if isAscii plain ∨ codeMark.isPrefixOf plain ∨ ¬ isLabel plain then none else some plain
  else if isAscii label ∨ isLabel label then some label
  else none

def encodeLabel (label : List Char) : List Char :=
  if isAscii label then label else codeMark ++ Punycode.encode label

/-- Labels with dots between them. -/
def join : List (List Char) → List Char
  | [] => []
  | [label] => label
  | label :: rest => label ++ '.' :: join rest

/-- Whether a name is as it should be: in ASCII without capitals, and no label of it is a code. -/
def isFinal (cs : List Char) : Bool :=
  (cs.all fun c => c.isLower || c.isDigit || c == '-' || c == '.') &&
    !(labelsOf cs).any codeMark.isPrefixOf

/-- A domain name in ASCII, if it is one. -/
def toAscii (cs : List Char) : Option (List Char) :=
  if isFinal cs then some cs
  else do
    let mapped ← cs.mapM mapChar?
    let labels ← (labelsOf (compose mapped.flatten)).mapM decodeLabel?
    if labels.any isRightToLeft ∧ ¬ labels.all hasOneDirection then none
    else some (join (labels.map encodeLabel))

end Testbed.Url.Idna
