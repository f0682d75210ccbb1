import Testbed.Json.Value

/-!
# Comparing JSON values

Two relations on values.

- `Value.agrees e a` is deep equality. Numbers agree when they are the same integer, or when the
  binary64 numbers nearest to them are numerically equal, so `1` agrees with `1.0`.
- `Value.within e a` allows the objects of `a` to have more fields than those of `e`; arrays must
  still have the same length.

Both recurse on the first value.
-/

namespace Testbed.Json

/-- The nearest binary64 number; every integer of the number range has one. -/
def Number.nearest : Number → Option Binary64
  | .integer i => Binary64.ofInt? i
  | .real x => some x

/-- Whether two numbers count as equal. -/
def Number.agrees : Number → Number → Bool
  | .integer i, .integer j =>
    i == j || match (Number.integer i).nearest, (Number.integer j).nearest with
      | some x, some y => x.same y
      | _, _ => false
  | m, n =>
    match m.nearest, n.nearest with
    | some x, some y => x.same y
    | _, _ => false

mutual

/-- Deep equality. -/
def Value.agrees : Value → Value → Bool
  | .null, .null => true
  | .bool b, .bool c => b == c
  | .number m, .number n => m.agrees n
  | .string s, .string t => s == t
  | .array es, .array as => es.length == as.length && itemsAgree es as
  | .object es, .object as => es.length == as.length && fieldsAgree es as
  | _, _ => false

/-- Whether the items of two arrays agree, as far as both go. -/
def itemsAgree : List Value → List Value → Bool
  | e :: es, a :: as => e.agrees a && itemsAgree es as
  | _, _ => true

/-- Whether every field of the first object agrees with that of the second. -/
def fieldsAgree : List (String × Value) → Fields → Bool
  | [], _ => true
  | (name, e) :: es, as =>
    (match Fields.get? as name with
      | some a => e.agrees a
      | none => false) && fieldsAgree es as

end

mutual

/-- Whether everything in the first value is in the second. -/
def Value.within : Value → Value → Bool
  | .array es, .array as => es.length == as.length && itemsWithin es as
  | .object es, .object as => fieldsWithin es as
  | e, a => e.agrees a

def itemsWithin : List Value → List Value → Bool
  | e :: es, a :: as => e.within a && itemsWithin es as
  | _, _ => true

def fieldsWithin : List (String × Value) → Fields → Bool
  | [], _ => true
  | (name, e) :: es, as =>
    (match Fields.get? as name with
      | some a => e.within a
      | none => false) && fieldsWithin es as

end

/-- How an expected value is compared with an actual one. -/
inductive Mode where
  | exact
  /-- Actual objects may have more fields. -/
  | subset
deriving DecidableEq, Repr

def Mode.accepts : Mode → Value → Value → Bool
  | .exact => Value.agrees
  | .subset => Value.within

end Testbed.Json
