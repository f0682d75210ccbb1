import Testbed.Json.Difference
import Testbed.Json.Parser

/-!
# Assertions on JSON texts

`assertEqual` and `assertSubset` read two texts and compare the values. A failed comparison
reports its differences, followed by the whole actual text; two values that cannot be descended
into are reported by their whole texts.
-/

namespace Testbed.Json

/-- Why an assertion on two texts fails. -/
inductive Failure where
  | expectedInvalid (fault : Fault)
  | actualInvalid (fault : Fault)
  | mismatch (mode : Mode) (entries : List Entry)

/-- The first line of a report. -/
def Mode.header : Mode → String
  | .exact => "JSON strings did not match"
  | .subset => "JSON string did not contain expected properties"

def Failure.message (expected actual : String) : Failure → String
  | expectedInvalid f =>
    "expected string is not valid JSON: " ++ f.message (Utf8.encode expected)
  | actualInvalid f => "actual string is not valid JSON: " ++ f.message (Utf8.encode actual)
  | mismatch mode [] => s!"{mode.header}\nexpected: {expected}\nactual: {actual}"
  | mismatch mode entries =>
    let lines := "\n".intercalate (entries.map Entry.line)
    s!"{mode.header}\n{lines}\nfull actual JSON string: {actual}"

/-- Reads two texts and compares their values. -/
def assertWith (mode : Mode) (expected actual : String) : Except Failure Unit := do
  let e ← (parse (Utf8.encode expected)).mapError .expectedInvalid
  let a ← (parse (Utf8.encode actual)).mapError .actualInvalid
  if mode.accepts e a then .ok () else .error (.mismatch mode (differences mode e a))

def assertEqual : String → String → Except Failure Unit := assertWith .exact

/-- Asserts that all that the first text holds is in the second. -/
def assertSubset : String → String → Except Failure Unit := assertWith .subset

end Testbed.Json
