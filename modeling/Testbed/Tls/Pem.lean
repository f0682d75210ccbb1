import Testbed.Tls.Base64

/-!
# Sections of text

A section starts with a line `-----BEGIN label-----` and ends with a line `-----END label-----`;
between them stands Base64. What is outside of sections is ignored, and so is a section with an
unknown label. A new start inside a section begins another one, which keeps the lines read so far.
-/

namespace Testbed.Tls.Pem

/-- What a section holds. -/
inductive Label where
  | certificate
  | publicKey
  | rsaPrivateKey
  | privateKey
  | ecPrivateKey
  | revocationList
  | certificateRequest
  | echConfig
  deriving DecidableEq

def label? : String → Option Label
  | "CERTIFICATE" => some .certificate
  | "PUBLIC KEY" => some .publicKey
  | "RSA PRIVATE KEY" => some .rsaPrivateKey
  | "PRIVATE KEY" => some .privateKey
  | "EC PRIVATE KEY" => some .ecPrivateKey
  | "X509 CRL" => some .revocationList
  | "CERTIFICATE REQUEST" => some .certificateRequest
  | "ECHCONFIG" => some .echConfig
  | _ => none

/-- What is wrong with a text of sections. -/
inductive Fault where
  | missingEnd (marker : Bytes)
  | illegalStart (line : Bytes)
  | base64 (fault : Base64.Fault)
  | noItems

/-- Octets as a list of numbers. -/
def listText (bytes : Bytes) : String :=
  "[" ++ ", ".intercalate (bytes.map fun b => toString b.toNat) ++ "]"

def Fault.message : Fault → String
  | missingEnd marker => "missing section end marker: " ++ listText marker
  | illegalStart line => "illegal section start: " ++ listText line
  | base64 fault => "base64 decode error: " ++ fault.message
  | noItems => "no items found"

/-- The lines of a text: each is ended by a line feed or a carriage return, or by the end of the
text. -/
def linesOf : Bytes → List Bytes
  | [] => []
  | b :: rest =>
    if b = 10 ∨ b = 13 then [] :: linesOf rest
    else match rest, linesOf rest with
      | [], _ => [[b]]
      | _, line :: lines => (b :: line) :: lines
      | _, [] => [[b]]

/-- What a line that starts a section begins with. -/
def beginMark : Bytes := Utf8.encode "-----BEGIN "

/-- The label in a line that starts a section: five hyphens follow it, with blanks at most among
them. -/
def startLabel? (line : Bytes) : Option Bytes :=
  let reversed := line.reverse
  let tail := reversed.takeWhile fun b => b == 45 || b == 32
  if tail.count 45 = 5 then
    let blanksAfterLabel := (tail.reverse.takeWhile (· == 32)).length
    some ((line.take (line.length - tail.length + blanksAfterLabel)).drop beginMark.length)
  else none

/-- The line that ends a section. -/
def endMark (label : Bytes) : Bytes := Utf8.encode "-----END " ++ label ++ Utf8.encode "-----"

/-- The first section that is wanted. The label of the section being read comes with the lines in
it. -/
def scan {κ : Type} (wanted : Label → Option κ) :
    Option Bytes → Bytes → List Bytes → Except Fault (κ × Bytes)
  | some label, _, [] => .error (.missingEnd (endMark label))
  | none, _, [] => .error .noItems
  | current, body, line :: rest =>
    if beginMark.isPrefixOf line then
      match startLabel? line with
      | some label => scan wanted (some label) body rest
      | none => .error (.illegalStart line)
    else match current with
      | none => scan wanted none body rest
      | some label =>
        if (endMark label).isPrefixOf line then
          match (Utf8.decode? label).bind label? with
          | none => scan wanted none [] rest
          | some kind =>
            match Base64.decode body with
            | .error f => .error (.base64 f)
            | .ok octets =>
              match wanted kind with
              | some k => .ok (k, octets)
              | none => scan wanted none [] rest
        else scan wanted current (body ++ line) rest

/-- The first section of a text that is wanted. -/
def first {κ : Type} (wanted : Label → Option κ) (text : String) : Except Fault (κ × Bytes) :=
  scan wanted none [] (linesOf (Utf8.encode text))

/-! ## Writing -/

def Label.text : Label → String
  | certificate => "CERTIFICATE"
  | publicKey => "PUBLIC KEY"
  | rsaPrivateKey => "RSA PRIVATE KEY"
  | privateKey => "PRIVATE KEY"
  | ecPrivateKey => "EC PRIVATE KEY"
  | revocationList => "X509 CRL"
  | certificateRequest => "CERTIFICATE REQUEST"
  | echConfig => "ECHCONFIG"

/-- Characters in lines of 64; `fuel` bounds the lines. -/
def wrapped : Nat → List Char → List Char
  | 0, _ => []
  | _ + 1, [] => []
  | fuel + 1, cs => cs.take 64 ++ '\n' :: wrapped fuel (cs.drop 64)

/-- The section that holds octets. -/
def write (label : Label) (octets : Bytes) : String :=
  let signs := (Base64.encode octets).map fun b => Char.ofNat b.toNat
  "-----BEGIN " ++ label.text ++ "-----\n" ++ String.ofList (wrapped signs.length signs) ++
    "-----END " ++ label.text ++ "-----\n"

end Testbed.Tls.Pem
