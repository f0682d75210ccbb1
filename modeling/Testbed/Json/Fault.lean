import Testbed.Text.Utf8

/-!
# Faults of a JSON text

Why a text is not JSON (`Cause`), and where: a fault remembers how many octets of the text were
still unread, from which `Position.ofUnread` computes the line and the column. Both count from
the start of the text; columns count octets, and the column of a fault met while looking ahead
is that of the octet looked at.
-/

namespace Testbed.Json

/-- Why a text is not JSON. -/
inductive Cause where
  | endInArray
  | endInObject
  | endInString
  | endInValue
  | missingColon
  | missingArraySeparator
  | missingObjectSeparator
  | unknownWord
  | notAValue
  | badEscape
  | badNumber
  | numberTooLarge
  | controlCharacter
  | keyNotString
  | loneSurrogate
  | trailingComma
  | trailingCharacters
  | brokenSurrogatePair
  | tooDeep
deriving DecidableEq, Repr

def Cause.message : Cause → String
  | endInArray => "EOF while parsing a list"
  | endInObject => "EOF while parsing an object"
  | endInString => "EOF while parsing a string"
  | endInValue => "EOF while parsing a value"
  | missingColon => "expected `:`"
  | missingArraySeparator => "expected `,` or `]`"
  | missingObjectSeparator => "expected `,` or `\x7d`"
  | unknownWord => "expected ident"
  | notAValue => "expected value"
  | badEscape => "invalid escape"
  | badNumber => "invalid number"
  | numberTooLarge => "number out of range"
  | controlCharacter => "control character (\\u0000-\\u001F) found while parsing a string"
  | keyNotString => "key must be a string"
  | loneSurrogate => "lone leading surrogate in hex escape"
  | trailingComma => "trailing comma"
  | trailingCharacters => "trailing characters"
  | brokenSurrogatePair => "unexpected end of hex escape"
  | tooDeep => "recursion limit exceeded"

/-- A cause, and how many octets of the text were unread when it was met. -/
structure Fault where
  cause : Cause
  unread : Nat
deriving DecidableEq, Repr

/-- A place in a text: lines count from one, columns are the octets passed on the line. -/
structure Position where
  line : Nat
  column : Nat
deriving DecidableEq, Repr

def Position.after : Bytes → Position :=
  List.foldl (fun p b => if b == 10 then ⟨p.line + 1, 0⟩ else ⟨p.line, p.column + 1⟩) ⟨1, 0⟩

/-- The place in a text before its last `unread` octets. -/
def Position.ofUnread (text : Bytes) (unread : Nat) : Position :=
  .after (text.take (text.length - unread))

def Fault.message (text : Bytes) (f : Fault) : String :=
  let p := Position.ofUnread text f.unread
  s!"{f.cause.message} at line {p.line} column {p.column}"

end Testbed.Json
