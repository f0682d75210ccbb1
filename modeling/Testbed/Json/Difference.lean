import Testbed.Json.Compare
import Testbed.Json.Location
import Testbed.Json.Printer

/-!
# Differences between JSON values

`differences mode e a` lists where `a` fails to meet `e`, as entries: a location, and the two
values there or their absence. It descends into two objects and into two arrays of one length,
and only there; other pairs have no list.

**Order.** Fields come in order of their names and items in order of their indices, so the entries
are in the order of their locations.

**Amending.** `Value.amend` puts what was expected at the location of each entry.
-/

namespace Testbed.Json

/-- One difference: where, what was expected there, and what was found. -/
structure Entry where
  location : Location
  expected : Option Value
  actual : Option Value
deriving Repr

def sideText : Option Value → String
  | some v => v.render
  | none => "<absent>"

def Entry.line (d : Entry) : String :=
  "at \"" ++ d.location.text ++ "\": expected = " ++ sideText d.expected ++ ", actual = " ++
    sideText d.actual

/-- The entries of fields that only the actual object has. -/
def addedFields (mode : Mode) (loc : Location) (fields : List (String × Value)) : List Entry :=
  match mode with
  | .exact => fields.map fun (name, a) => ⟨loc ++ [.field name], none, some a⟩
  | .subset => []

/--
The entries of a pair: none when the comparison accepts it, else those found inside it, or the pair
as a whole when there are none inside.
-/
def pairEntries (mode : Mode) (loc : Location) (e a : Value) (inner : List Entry) : List Entry :=
  if mode.accepts e a then []
  else if inner.isEmpty then [⟨loc, some e, some a⟩]
  else inner

mutual

/-- The entries inside two values that can be descended into. -/
def innerDifferences (mode : Mode) (loc : Location) : Value → Value → List Entry
  | .object es, .object as => fieldDifferences mode loc es as
  | .array es, .array as =>
    if es.length = as.length then itemDifferences mode loc 0 es as else []
  | _, _ => []

/-- The entries of the fields of two objects, both in order of their names. -/
def fieldDifferences (mode : Mode) (loc : Location) :
    List (String × Value) → List (String × Value) → List Entry
  | [], as => addedFields mode loc as
  | (name, e) :: es, as =>
    let here := loc ++ [.field name]
    addedFields mode loc (as.takeWhile fun f => f.1 < name) ++
      match as.dropWhile fun f => f.1 < name with
      | (k, a) :: rest =>
        if k = name then
          pairEntries mode here e a (innerDifferences mode here e a) ++
            fieldDifferences mode loc es rest
        else ⟨here, some e, none⟩ :: fieldDifferences mode loc es ((k, a) :: rest)
      | [] => ⟨here, some e, none⟩ :: fieldDifferences mode loc es []

/-- The entries of the items of two arrays, from an index on. -/
def itemDifferences (mode : Mode) (loc : Location) (index : Nat) :
    List Value → List Value → List Entry
  | e :: es, a :: as =>
    let here := loc ++ [.item index]
    pairEntries mode here e a (innerDifferences mode here e a) ++
      itemDifferences mode loc (index + 1) es as
  | _, _ => []

end

/-- The entries of two whole values; none when they cannot be descended into. -/
def differences (mode : Mode) (e a : Value) : List Entry := innerDifferences mode [] e a

/-- A value with what was expected put at the location of each entry. -/
def Value.amend (a : Value) (entries : List Entry) : Value :=
  entries.foldl (fun v d => v.put d.expected d.location) a

end Testbed.Json
