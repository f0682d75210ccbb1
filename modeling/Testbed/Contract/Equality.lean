import Testbed.Contract.Factory

/-!
# The contract of equality and hashing

`checkEquality` draws values from factories and tests that values of one factory are equal in both
directions with equal hashes, and that values of different factories are unequal in both
directions.

**Order.** The pairs of factories are visited in lexicographic order; for each pair a value of the
first and then a value of the second is drawn, also when they are the same factory. The first
violation ends the check.
-/

namespace Testbed.Contract

variable {α : Type}

/-- How values are compared and hashed. -/
structure Behaviour (α : Type) where
  eq : α → α → Bool
  hash : α → UInt64

/-- A violation of the contract by values drawn. -/
inductive Violation (α : Type) where
  | notReflexive (a : α)
  | notEqual (a b : α)
  | notSymmetric (a b : α)
  | hashesDiffer (a b : α) (hashA hashB : UInt64)
  /-- The first value, of one factory, says that it equals the second, of another. -/
  | equalAcross (a b : α)
deriving Repr

/-- The report of a violation, given how values are shown. -/
def Violation.message (render : α → String) : Violation α → String
  | notReflexive a => s!"value was not equal to itself: {render a}"
  | notEqual a b => s!"({render a}) == ({render b}) was false"
  | notSymmetric a b =>
    s!"({render a}) == ({render b}) was true, but ({render b}) == ({render a}) was false"
  | hashesDiffer a b hashA hashB =>
    s!"hash of ({render a}) was {hashA} but hash of ({render b}) was {hashB}"
  | equalAcross a b => s!"({render a}) == ({render b}) was true"

/-- Tests two values of one factory. -/
def checkAlike (m : Behaviour α) (a b : α) : Except (Violation α) Unit :=
  if !m.eq a a then .error (.notReflexive a)
  else if !m.eq a b then .error (.notEqual a b)
  else if !m.eq b a then .error (.notSymmetric a b)
  else if m.hash a ≠ m.hash b then .error (.hashesDiffer a b (m.hash a) (m.hash b))
  else .ok ()

/-- Tests two values of different factories. -/
def checkApart (m : Behaviour α) (a b : α) : Except (Violation α) Unit :=
  if m.eq a b then .error (.equalAcross a b)
  else if m.eq b a then .error (.equalAcross b a)
  else .ok ()

/-- Draws the next value of the factory at a place. -/
def draw (factories : List (Factory α)) (i : Nat) : Option (α × List (Factory α)) :=
  match factories[i]? with
  | some f => some (f.next.1, factories.set i f.next.2)
  | none => none

/-- Draws a pair and tests it. -/
def checkPair (m : Behaviour α) (factories : List (Factory α)) (i j : Nat) :
    Except (Violation α) Unit × List (Factory α) :=
  match draw factories i with
  | none => (.ok (), factories)
  | some (a, factories) =>
    match draw factories j with
    | none => (.ok (), factories)
    | some (b, factories) =>
      (if i = j then checkAlike m a b else checkApart m a b, factories)

/-- Visits pairs of places until one fails. -/
def checkPairs (m : Behaviour α) (factories : List (Factory α)) :
    List (Nat × Nat) → Except (Violation α) Unit × List (Factory α)
  | [] => (.ok (), factories)
  | (i, j) :: rest =>
    match checkPair m factories i j with
    | (.error v, factories) => (.error v, factories)
    | (.ok (), factories) => checkPairs m factories rest

/-- The pairs of the first `n` places, in lexicographic order. -/
def pairs (n : Nat) : List (Nat × Nat) :=
  (List.range n).flatMap fun i => (List.range n).map fun j => (i, j)

/-- Tests the contract; gives the first violation, and the factories after all that was drawn. -/
def checkEquality (m : Behaviour α) (factories : List (Factory α)) :
    Except (Violation α) Unit × List (Factory α) :=
  checkPairs m factories (pairs factories.length)

end Testbed.Contract
