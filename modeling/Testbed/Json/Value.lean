import Testbed.Number.Binary64

/-!
# JSON values

The value of a JSON text.

**Numbers.** A number is an integer of the range `-2 ^ 63 … 2 ^ 64 - 1`, or a finite binary64
number; the reader decides which (`Json.parse`).

**Objects.** The fields of an object are sorted by name, each name once, so equal objects have
equal field lists. `Fields.insert` is the only way the reader builds them, and a later field of a
name replaces an earlier one.
-/

namespace Testbed.Json

inductive Number where
  | integer (i : Int)
  | real (x : Binary64)
deriving DecidableEq, Repr, Inhabited

inductive Value where
  | null
  | bool (b : Bool)
  | number (n : Number)
  | string (s : String)
  | array (items : List Value)
  | object (fields : List (String × Value))
deriving Repr, Inhabited

/-- The fields of an object, in order of their names. -/
abbrev Fields := List (String × Value)

namespace Fields

def get? (fields : Fields) (name : String) : Option Value := fields.lookup name

/-- The fields with one set, replacing an earlier one of that name. -/
def insert (name : String) (value : Value) : Fields → Fields
  | [] => [(name, value)]
  | (k, v) :: rest =>
    if name < k then (name, value) :: (k, v) :: rest
    else if name = k then (name, value) :: rest
    else (k, v) :: insert name value rest

/-- The fields without one. -/
def erase (name : String) (fields : Fields) : Fields := fields.filter fun f => f.1 != name

/-- Fields given in any order, the last one of each name kept. -/
def ofList (entries : List (String × Value)) : Fields :=
  entries.foldl (fun fields (k, v) => insert k v fields) []

end Fields
end Testbed.Json
