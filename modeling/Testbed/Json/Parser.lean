import Testbed.Json.Numeral

/-!
# Reading JSON

`parse` reads one JSON text, with white space around it, to a `Value` or to the first fault.

**Depth.** Arrays and objects may nest 127 deep; the next opening bracket is a fault.

**Recursion.** Each bracket, separator, item and character takes at least one octet, so the readers
are bounded by a count of calls that starts above the length of the text (`parse`) and never runs
out.
-/

namespace Testbed.Json

namespace Parser

/-- A fault met after the octets before `rest`. -/
def faultAt {α : Type} (cause : Cause) (rest : Bytes) : Except Fault α :=
  .error ⟨cause, rest.length⟩

/-- A fault of the octet at the front of `rest`, or of the end of the text. -/
def faultOf {α : Type} (cause : Cause) (rest : Bytes) : Except Fault α :=
  .error ⟨cause, rest.length - 1⟩

def isSpace (b : UInt8) : Bool := b == 32 || b == 10 || b == 9 || b == 13

def skipSpace : Bytes → Bytes
  | [] => []
  | b :: rest => if isSpace b then skipSpace rest else b :: rest

/-- Passes the rest of a word that is known by its first letter. -/
def word : List UInt8 → Bytes → Except Fault (Unit × Bytes)
  | [], s => .ok ((), s)
  | _ :: _, [] => faultAt .endInValue []
  | w :: ws, b :: rest => if b = w then word ws rest else faultAt .unknownWord rest

/-- The value of an octet as a hexadecimal digit. -/
def hexOf (b : UInt8) : Option Nat := hexValue? (Char.ofNat b.toNat)

def fourHex : Bytes → Except Fault (Nat × Bytes)
  | a :: b :: c :: d :: rest =>
    match hexOf a, hexOf b, hexOf c, hexOf d with
    | some a, some b, some c, some d => .ok (((a * 16 + b) * 16 + c) * 16 + d, rest)
    | _, _, _, _ => faultAt .badEscape rest
  | _ => faultAt .endInString []

/-- The second half of a surrogate pair, whose first half was `first`. -/
def secondHalf (first : Nat) : Bytes → Except Fault (Char × Bytes)
  | [] => faultAt .endInString []
  | 92 :: [] => faultAt .endInString []
  | 92 :: 117 :: rest => do
    let (second, rest) ← fourHex rest
    if second < 0xDC00 ∨ 0xDFFF < second then faultAt .loneSurrogate rest
    else .ok (Char.ofNat ((first - 0xD800) * 0x400 + (second - 0xDC00) + 0x10000), rest)
  | 92 :: _ :: rest => faultAt .brokenSurrogatePair rest
  | _ :: rest => faultAt .brokenSurrogatePair rest

/-- The character of an escape, read after its backslash. -/
def escape : Bytes → Except Fault (Char × Bytes)
  | [] => faultAt .endInString []
  | 34 :: rest => .ok ('"', rest)
  | 92 :: rest => .ok ('\\', rest)
  | 47 :: rest => .ok ('/', rest)
  | 98 :: rest => .ok ('\x08', rest)
  | 102 :: rest => .ok ('\x0c', rest)
  | 110 :: rest => .ok ('\n', rest)
  | 114 :: rest => .ok ('\r', rest)
  | 116 :: rest => .ok ('\t', rest)
  | 117 :: rest => do
    let (n, rest) ← fourHex rest
    if 0xDC00 ≤ n ∧ n ≤ 0xDFFF then faultAt .loneSurrogate rest
    else if 0xD800 ≤ n ∧ n ≤ 0xDBFF then secondHalf n rest
    else .ok (Char.ofNat n, rest)
  | _ :: rest => faultAt .badEscape rest

/-- The octets of a string up to its closing quote, given backwards what was read before. -/
def stringBody : Nat → Bytes → Bytes → Except Fault (Bytes × Bytes)
  | 0, _, s => faultAt .endInString s
  | _ + 1, _, [] => faultAt .endInString []
  | fuel + 1, acc, b :: rest =>
    if b = 34 then .ok (acc.reverse, rest)
    else if b = 92 then do
      let (c, rest) ← escape rest
      stringBody fuel ((String.utf8EncodeChar c).reverse ++ acc) rest
    else if b < 32 then faultAt .controlCharacter rest
    else stringBody fuel (b :: acc) rest

/-- A string after its opening quote. -/
def string (fuel : Nat) (s : Bytes) : Except Fault (String × Bytes) := do
  let (bytes, rest) ← stringBody fuel [] s
  .ok (Utf8.decodeLossy bytes, rest)

mutual

/-- A value; `depth` is how many brackets may still be opened, plus one. -/
def value : Nat → Nat → Bytes → Except Fault (Value × Bytes)
  | 0, _, s => faultOf .endInValue s
  | fuel + 1, depth, s =>
    match skipSpace s with
    | [] => faultOf .endInValue []
    | 110 :: rest => do
      let ((), rest) ← word [117, 108, 108] rest
      .ok (.null, rest)
    | 116 :: rest => do
      let ((), rest) ← word [114, 117, 101] rest
      .ok (.bool true, rest)
    | 102 :: rest => do
      let ((), rest) ← word [97, 108, 115, 101] rest
      .ok (.bool false, rest)
    | 34 :: rest => do
      let (t, rest) ← string fuel rest
      .ok (.string t, rest)
    | 91 :: rest =>
      if depth ≤ 1 then faultOf .tooDeep (91 :: rest)
      else do
        let (items, rest) ← items fuel (depth - 1) true [] rest
        .ok (.array items, rest)
    | 123 :: rest =>
      if depth ≤ 1 then faultOf .tooDeep (123 :: rest)
      else do
        let (fields, rest) ← fields fuel (depth - 1) true [] rest
        .ok (.object fields, rest)
    | 45 :: rest => do
      let (n, rest) ← Numeral.read true rest
      .ok (.number n, rest)
    | b :: rest =>
      if (Numeral.digit? b).isSome then do
        let (n, rest) ← Numeral.read false (b :: rest)
        .ok (.number n, rest)
      else faultOf .notAValue (b :: rest)

/-- The items of an array after its bracket, given backwards those already read. -/
def items : Nat → Nat → Bool → List Value → Bytes → Except Fault (List Value × Bytes)
  | 0, _, _, _, s => faultOf .endInArray s
  | fuel + 1, depth, first, acc, s =>
    match skipSpace s with
    | [] => faultOf .endInArray []
    | 93 :: rest => .ok (acc.reverse, rest)
    | b :: rest =>
      if first then do
        let (v, rest) ← value fuel depth (b :: rest)
        items fuel depth false (v :: acc) rest
      else if b = 44 then
        match skipSpace rest with
        | [] => faultOf .endInValue []
        | 93 :: rest => faultOf .trailingComma (93 :: rest)
        | s => do
          let (v, rest) ← value fuel depth s
          items fuel depth false (v :: acc) rest
      else faultOf .missingArraySeparator (b :: rest)

/-- The fields of an object after its brace, given those already read. -/
def fields : Nat → Nat → Bool → Fields → Bytes → Except Fault (Fields × Bytes)
  | 0, _, _, _, s => faultOf .endInObject s
  | fuel + 1, depth, first, acc, s =>
    match skipSpace s with
    | [] => faultOf .endInObject []
    | 125 :: rest => .ok (acc, rest)
    | b :: rest =>
      if first then
        if b = 34 then field fuel depth acc rest else faultOf .keyNotString (b :: rest)
      else if b = 44 then
        match skipSpace rest with
        | 34 :: rest => field fuel depth acc rest
        | 125 :: rest => faultOf .trailingComma (125 :: rest)
        | [] => faultOf .endInValue []
        | s => faultOf .keyNotString s
      else faultOf .missingObjectSeparator (b :: rest)

/-- A field after the opening quote of its name, and the fields behind it. -/
def field : Nat → Nat → Fields → Bytes → Except Fault (Fields × Bytes)
  | 0, _, _, s => faultOf .endInObject s
  | fuel + 1, depth, acc, s => do
    let (name, rest) ← string fuel s
    match skipSpace rest with
    | [] => faultOf .endInObject []
    | 58 :: rest =>
      let (v, rest) ← value fuel depth rest
      fields fuel depth false (Fields.insert name v acc) rest
    | s => faultOf .missingColon s

end

end Parser

/-- How many brackets may be open at once, plus one. -/
def depthLimit : Nat := 128

def parse (text : Bytes) : Except Fault Value := do
  let (v, rest) ← Parser.value (2 * text.length + 2) depthLimit text
  match Parser.skipSpace rest with
  | [] => .ok v
  | s => Parser.faultOf .trailingCharacters s

end Testbed.Json
