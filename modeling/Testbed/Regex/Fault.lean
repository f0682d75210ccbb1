import Testbed.Regex.Position

/-!
# What is wrong with a pattern

A fault has a cause and the part of the pattern that shows it; a name or a flag that is given twice
shows the first place as well.

**The report.** A pattern of one line is written with an indent of four, carets stand under the
parts in a line of their own, and the cause follows. The lines of a longer pattern are numbered and
stand between two rules; a part that covers several lines is described below them.
-/

namespace Testbed.Regex

/-- Why a pattern is refused. -/
inductive Cause where
  | classEscapeInvalid
  | classRangeInvalid
  | classRangeLiteral
  | classUnclosed
  | decimalEmpty
  | decimalInvalid
  | hexEmpty
  | hexInvalid
  | hexDigitInvalid
  | escapeIncomplete
  | escapeUnknown
  | flagDanglingNegation
  | flagDuplicate
  | flagRepeatedNegation
  | flagIncomplete
  | flagUnknown
  | groupNameDuplicate
  | groupNameEmpty
  | groupNameInvalid
  | groupNameUnclosed
  | groupUnclosed
  | groupUnopened
  | nestedTooDeep (limit : Nat)
  | repetitionRangeInvalid
  | repetitionCountEmpty
  | repetitionUnclosed
  | repetitionMissing
  | boundaryUnclosed
  | boundaryUnknown
  | boundaryIncomplete
  | propertyClassInvalid
  | backreference
  | lookAround
  | unicodeNotAllowed
  | invalidUtf8
  | propertyNotFound
  | propertyValueNotFound
  deriving DecidableEq

def Cause.message : Cause → String
  | classEscapeInvalid => "invalid escape sequence found in character class"
  | classRangeInvalid => "invalid character class range, the start must be <= the end"
  | classRangeLiteral => "invalid range boundary, must be a literal"
  | classUnclosed => "unclosed character class"
  | decimalEmpty => "decimal literal empty"
  | decimalInvalid => "decimal literal invalid"
  | hexEmpty => "hexadecimal literal empty"
  | hexInvalid => "hexadecimal literal is not a Unicode scalar value"
  | hexDigitInvalid => "invalid hexadecimal digit"
  | escapeIncomplete => "incomplete escape sequence, reached end of pattern prematurely"
  | escapeUnknown => "unrecognized escape sequence"
  | flagDanglingNegation => "dangling flag negation operator"
  | flagDuplicate => "duplicate flag"
  | flagRepeatedNegation => "flag negation operator repeated"
  | flagIncomplete => "expected flag but got end of regex"
  | flagUnknown => "unrecognized flag"
  | groupNameDuplicate => "duplicate capture group name"
  | groupNameEmpty => "empty capture group name"
  | groupNameInvalid => "invalid capture group character"
  | groupNameUnclosed => "unclosed capture group name"
  | groupUnclosed => "unclosed group"
  | groupUnopened => "unopened group"
  | nestedTooDeep limit =>
    "exceed the maximum number of nested parentheses/brackets (" ++ toString limit ++ ")"
  | repetitionRangeInvalid => "invalid repetition count range, the start must be <= the end"
  | repetitionCountEmpty => "repetition quantifier expects a valid decimal"
  | repetitionUnclosed => "unclosed counted repetition"
  | repetitionMissing => "repetition operator missing expression"
  | boundaryUnclosed =>
    "special word boundary assertion is either unclosed or contains an invalid character"
  | boundaryUnknown =>
    "unrecognized special word boundary assertion, valid choices are: start, end, start-half or end-half"
  | boundaryIncomplete =>
    "found either the beginning of a special word boundary or a bounded repetition on a \\b with an opening brace, but no closing brace"
  | propertyClassInvalid => "invalid Unicode character class"
  | backreference => "backreferences are not supported"
  | lookAround => "look-around, including look-ahead and look-behind, is not supported"
  | unicodeNotAllowed => "Unicode not allowed here"
  | invalidUtf8 => "pattern can match invalid UTF-8"
  | propertyNotFound => "Unicode property not found"
  | propertyValueNotFound => "Unicode property value not found"

/-- A cause and where it shows. -/
structure Fault where
  cause : Cause
  span : Span
  /-- The first of two places that clash. -/
  other : Option Span := none
  deriving DecidableEq

namespace Fault

/-- The parts that a report marks, in their order. -/
def spans (f : Fault) : List Span :=
  match f.other with
  | none => [f.span]
  | some s => if s.before f.span then [s, f.span] else [f.span, s]

def linesOf (pattern : String) : List String :=
  let pieces := pattern.splitOn "\n"
  let ended := pieces.dropLast.map fun l =>
    match l.toList.reverse with
    | '\r' :: rest => String.ofList rest.reverse
    | _ => l
  match pieces.getLast? with
  | some "" => ended
  | some l => ended ++ [l]
  | none => ended

def fill (c : Char) (n : Nat) : String := String.ofList (List.replicate n c)

/-- Carets under parts of one line, after `written` columns. -/
def carets : Nat → List Span → String
  | _, [] => ""
  | written, s :: rest =>
    let blanks := s.start.column - 1 - written
    let marks := max 1 (s.stop.column - s.start.column)
    fill ' ' blanks ++ fill '^' marks ++ carets (written + blanks + marks) rest

/-- The lines of a pattern, each after its label and above its carets. -/
def marked (width : Nat) (spans : List Span) (lines : List String) : String :=
  String.join <| lines.zipIdx.map fun (line, i) =>
    let number := toString (i + 1)
    let label := if width = 0 then "    " else fill ' ' (width - number.length) ++ number ++ ": "
    let here := spans.filter fun s => s.inOneLine && s.start.line == i + 1
    let below := if here.isEmpty then ""
      else fill ' ' (if width = 0 then 4 else width + 2) ++ carets 0 here ++ "\n"
    label ++ line ++ "\n" ++ below

/-- What is said of a part that covers several lines. -/
def longNote (s : Span) : String :=
  "on line " ++ toString s.start.line ++ " (column " ++ toString s.start.column ++
    ") through line " ++ toString s.stop.line ++ " (column " ++ toString (s.stop.column - 1) ++ ")"

/-- The text that shows a fault in its pattern. -/
def report (f : Fault) (pattern : String) : String :=
  let lines := linesOf pattern
  let last := "error: " ++ f.cause.message
  if pattern.contains '\n' then
    let count := lines.length + (if pattern.endsWith "\n" then 1 else 0)
    let width := if count ≤ 1 then 0 else (toString count).length
    let rule := fill '~' 79 ++ "\n"
    let long := f.spans.filter fun s => !s.inOneLine
    "regex parse error:\n" ++ rule ++ marked width f.spans lines ++ rule ++
      (if long.isEmpty then "" else "\n".intercalate (long.map longNote) ++ "\n") ++ last
  else "regex parse error:\n" ++ marked 0 f.spans lines ++ last

end Fault

end Testbed.Regex
