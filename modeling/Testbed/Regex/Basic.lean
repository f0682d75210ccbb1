import Testbed.Regex.Meaning
import Testbed.Regex.Search

/-!
# Regular expressions

`Regex.compile` makes an expression from a pattern and says what is wrong with a pattern that makes
none; `Regex.captures` holds it against a text of ASCII characters.

**Size.** A pattern whose program would be too large makes no expression. The size of a program is
not known here, so `compile` is given the patterns that stay within the limit (`Budget`).

**Preference.** A match starts as early as possible. Of the matches that start there, the one is
taken that the pattern prefers: earlier branches, and more or fewer rounds of a repetition as it is
written.
-/

namespace Testbed

structure Regex where
  node : Regex.Node
  program : Array Regex.Inst

namespace Regex

/-- How many bytes a program may take. -/
def sizeLimit : Nat := 10485760

/-- Why a pattern makes no expression. -/
inductive Error where
  | faulty (pattern : String) (fault : Fault)
  | tooLarge

def Error.message : Error → String
  | faulty pattern fault => fault.report pattern
  | tooLarge => "Compiled regex exceeds size limit of " ++ toString sizeLimit ++ " bytes."

/-- Which patterns have programs that do not take too many bytes. How many a program takes is up to
the engine. -/
abbrev Budget := String → Bool

def ofNode (node : Node) : Regex := ⟨node, node.code.toArray⟩

def compile (budget : Budget) (pattern : String) : Except Error Regex :=
  match Ast.parse pattern with
  | .error fault => .error (.faulty pattern fault)
  | .ok shape =>
    match shape.meaning {} with
    | .error fault => .error (.faulty pattern fault)
    | .ok (node, _) => if budget pattern then .ok (ofNode node) else .error .tooLarge

/-- The text between two places. -/
def between (text : Array Char) (start stop : Nat) : String :=
  String.ofList (text.extract start stop).toList

/-- What the groups of the first match keep, in the order of their numbers; nothing for a group that
took no part. -/
def captures (r : Regex) (text : String) : Option (List (Option String)) :=
  let chars := text.toList.toArray
  (search r.program (2 * r.node.groups + 2) chars).map fun t =>
    (List.range r.node.groups).map fun i =>
      match t.slots.getD (2 * i + 2) none, t.slots.getD (2 * i + 3) none with
      | some start, some stop => some (between chars start stop)
      | _, _ => none

end Regex
end Testbed
