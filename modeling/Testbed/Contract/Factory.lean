/-!
# Factories

A factory gives its instances one after another, from the first again after the last. It counts how
often it was asked.
-/

namespace Testbed

/-- Instances to be given in turn, at least one, and how many were given so far. -/
structure Factory (α : Type) where
  first : α
  others : List α
  calls : Nat
deriving DecidableEq, Repr

namespace Factory

variable {α : Type}

/-- A factory was wanted for no instances at all. -/
inductive EmptyError where
  | noInstances
deriving DecidableEq, Repr

def EmptyError.message : EmptyError → String
  | noInstances => "value factory requires at least one instance"

def ofInstances : List α → Except EmptyError (Factory α)
  | [] => .error .noInstances
  | a :: rest => .ok ⟨a, rest, 0⟩

/-- The instances in order. -/
def instances (f : Factory α) : List α := f.first :: f.others

/-- The instance that call number `k`, from zero, gives. -/
def instanceAt (f : Factory α) (k : Nat) : α :=
  (f.instances[k % f.instances.length]?).getD f.first

/-- The next instance, and the factory after that call. -/
def next (f : Factory α) : α × Factory α := (f.instanceAt f.calls, { f with calls := f.calls + 1 })

/-- The next `n` instances, and the factory after these calls. -/
def take (f : Factory α) : Nat → List α × Factory α
  | 0 => ([], f)
  | n + 1 =>
    let (a, f) := f.next
    let (rest, f) := f.take n
    (a :: rest, f)

end Factory
end Testbed
