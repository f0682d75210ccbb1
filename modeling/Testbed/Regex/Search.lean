import Testbed.Regex.Program

/-!
# Searching

A search tries the ways through a program one after another, the preferred ones first, from every
place of the text in order. A pair of instruction and place that was tried once is not tried again:
what follows from it does not depend on how it was reached. So the first way found is the preferred
one, and the steps are bounded by the product of the two sizes.
-/

namespace Testbed.Regex

/-- A way through a program that is to be followed. -/
structure Thread where
  next : Nat
  place : Nat
  /-- The places noted so far, by slot. -/
  slots : Array (Option Nat)

namespace Thread

/-- The same way after an instruction that passes no text. -/
def goTo (t : Thread) (next : Nat) : Thread := { t with next := next }

def before (text : Array Char) (place : Nat) : Option Char :=
  match place with
  | 0 => none
  | n + 1 => text[n]?

/-- The ways on after an instruction, the preferred one first. -/
def follow (text : Array Char) (t : Thread) : Inst → List Thread
  | .set s =>
    match text[t.place]? with
    | some c => if s.contains c then [{ t with next := t.next + 1, place := t.place + 1 }] else []
    | none => []
  | .look l =>
    if l.holds (before text t.place) text[t.place]? then [t.goTo (t.next + 1)] else []
  | .save slot =>
    [{ t with next := t.next + 1, slots := t.slots.setIfInBounds slot (some t.place) }]
  | .fork span greedy =>
    let on := t.goTo (t.next + 1)
    let skip := t.goTo (t.next + 1 + span)
    if greedy then [on, skip] else [skip, on]
  | .again back greedy =>
    let round := t.goTo (t.next - back)
    let on := t.goTo (t.next + 1)
    if greedy then [round, on] else [on, round]
  | .jump span => [t.goTo (t.next + 1 + span)]

end Thread

/-- Follows threads in order until one reaches the end of the program. `tried` tells the pairs of
instruction and place that were tried; `fuel` bounds the steps. -/
def explore (code : Array Inst) (text : Array Char) :
    Nat → List Thread → Array Bool → Option Thread
  | 0, _, _ => none
  | _ + 1, [], _ => none
  | fuel + 1, t :: rest, tried =>
    match code[t.next]? with
    | none => some t
    | some inst =>
      let pair := t.next * (text.size + 1) + t.place
      if tried.getD pair true then explore code text fuel rest tried
      else explore code text fuel (t.follow text inst ++ rest) (tried.setIfInBounds pair true)

/-- The preferred way through a program from the first place where there is one. -/
def search (code : Array Inst) (slots : Nat) (text : Array Char) : Option Thread :=
  let places := text.size + 1
  let pairs := code.size * places
  let starts := (List.range places).map fun place => ⟨0, place, Array.replicate slots none⟩
  explore code text (2 * pairs + places + 1) starts (Array.replicate pairs false)

end Testbed.Regex
