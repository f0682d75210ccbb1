import Testbed.Json.Value

/-!
# Locations in JSON values

The way from the root of a value to a value inside it (`Location`): its text, what stands there
(`Value.find?`), and the value with something else put there (`Value.put`).

**The text** joins names with points and puts indices in brackets. A name is written bare when
nothing was written before it, which is also so behind an empty name at the root.
-/

namespace Testbed.Json

/-- One step into a value. -/
inductive Step where
  | field (name : String)
  | item (index : Nat)
deriving DecidableEq, Repr

/-- The way from the root to a value inside it. -/
abbrev Location := List Step

/-- The text of a longer location, from that of the shorter one. -/
def Location.extendText (text : String) : Step → String
  | .field name => if text.isEmpty then name else text ++ "." ++ name
  | .item index => text ++ "[" ++ toString index ++ "]"

def Location.text (l : Location) : String := l.foldl Location.extendText ""

namespace Value

def step? : Value → Step → Option Value
  | .object fields, .field name => Fields.get? fields name
  | .array items, .item i => items[i]?
  | _, _ => none

/-- What stands at a location. -/
def find? (v : Value) : Location → Option Value
  | [] => some v
  | s :: rest => (v.step? s).bind fun inner => find? inner rest

/-- The value with something put behind one step, or the field there taken away. -/
def putStep (v : Value) (s : Step) (new : Option Value) : Value :=
  match v, s, new with
  | .object fields, .field name, some w => .object (Fields.insert name w fields)
  | .object fields, .field name, none => .object (Fields.erase name fields)
  | .array items, .item i, some w => .array (items.set i w)
  | v, _, _ => v

/-- The value with something put at a location, or the field there taken away; a location that leads
nowhere changes nothing. -/
def put (v : Value) (new : Option Value) : Location → Value
  | [] => new.getD v
  | [s] => v.putStep s new
  | s :: rest =>
    match v.step? s with
    | some inner => v.putStep s (some (put inner new rest))
    | none => v

end Value
end Testbed.Json
