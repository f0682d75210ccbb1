import Testbed.Regex.Node

/-!
# Programs

A pattern as instructions. Every instruction goes on to the next one unless it says otherwise, so
the program of a part is a list that can stand anywhere. The text is matched when the end is
reached.

**Order.** Where there are two ways on, the first one is preferred. A part repeated any number of
times is entered through one fork and repeated through another one behind it, so that a round that
matches the empty text is not followed by one more.
-/

namespace Testbed.Regex

inductive Inst where
  /-- Passes one character of a class. -/
  | set (s : CharSet)
  /-- Goes on at a place as required. -/
  | look (l : Look)
  | save (slot : Nat)
  /-- Goes on, or skips instructions; going on is preferred if `greedy`. -/
  | fork (span : Nat) (greedy : Bool)
  /-- Goes back by instructions, or on; going back is preferred if `greedy`. -/
  | again (back : Nat) (greedy : Bool)
  | jump (span : Nat)

namespace Node

def copies (n : Nat) (code : List Inst) : List Inst := (List.replicate n code).flatten

/-- A program up to `n` times: before each round the rest can be skipped, which is `n + 1` rounds
and the forks before the last `n` of them. -/
def upTo (greedy : Bool) (code : List Inst) : Nat → List Inst
  | 0 => []
  | n + 1 => .fork ((n + 1) * code.length + n) greedy :: (code ++ upTo greedy code n)

/-- The program of a pattern. -/
def code : Node → List Inst
  | empty => []
  | set s => [.set s]
  | look l => [.look l]
  | capture i body => .save (2 * i) :: (body.code ++ [.save (2 * i + 1)])
  | seq a b => a.code ++ b.code
  | alt a b => .fork (a.code.length + 1) true :: (a.code ++ .jump b.code.length :: b.code)
  | loop low none greedy body =>
    let one := body.code
    if low = 0 then .fork (one.length + 1) greedy :: (one ++ [.again one.length greedy])
    else copies low one ++ [.again one.length greedy]
  | loop low (some high) greedy body =>
    let one := body.code
    copies low one ++ upTo greedy one (high - low)

end Node
end Testbed.Regex
