import Testbed.Url.Address
import Testbed.Url.Idna
import Testbed.Url.PercentEncoding

/-!
# Hosts

The host of a URL is a domain, an address of version 4 or 6, or, for schemes without rules of their
own, any text without the characters that delimit a host.

A domain is read back from percent-encoding, brought to its ASCII form, and refused when it holds a
character that no domain may hold. A domain that ends in a number must be an address.
-/

namespace Testbed

namespace Url

/-- Why a text is not a URL. -/
inductive Error where
  | emptyHost
  | domainName
  | domainCharacter
  | ipv4
  | ipv6
  | port
  | noScheme
deriving DecidableEq, Repr

def Error.message : Error → String
  | emptyHost => "empty host"
  | domainName => "invalid international domain name"
  | domainCharacter => "invalid domain character"
  | ipv4 => "invalid IPv4 address"
  | ipv6 => "invalid IPv6 address"
  | port => "invalid port number"
  | noScheme => "relative URL without a base"

inductive Host where
  | domain (name : String)
  | ipv4 (address : Nat)
  | ipv6 (pieces : List Nat)
deriving DecidableEq, Repr

namespace Host

def text : Host → String
  | domain name => name
  | ipv4 a => ipv4Text a
  | ipv6 pieces => "[" ++ ipv6Text pieces ++ "]"

/-- What no host may hold. -/
def isForbidden (c : Char) : Bool :=
  ['\x00', '\t', '\n', '\r', ' ', '#', '/', ':', '<', '>', '?', '@', '[', '\\', ']', '^',
    '|'].contains c

/-- What no domain may hold. -/
def isForbiddenInDomain (c : Char) : Bool := isForbidden c || isControl c || c == '%'

/-- Reads an address of version 6 in brackets, its opening bracket already read. -/
def parseBracketed (cs : List Char) : Except Error Host :=
  match cs.getLast? with
  | some ']' =>
    match ipv6Address cs.dropLast with
    | some pieces => .ok (.ipv6 pieces)
    | none => .error .ipv6
  | _ => .error .ipv6

/-- Reads the host of a special scheme. -/
def parse : List Char → Except Error Host
  | '[' :: rest => parseBracketed rest
  | cs =>
    match Idna.toAscii (Utf8.decodeFrom none (percentDecode cs)) with
    | none => .error .domainName
    | some name =>
      if name.any isForbiddenInDomain then .error .domainName
      else if name.isEmpty then .error .emptyHost
      else if endsInNumber name then
        match ipv4Address name with
        | some a => .ok (.ipv4 a)
        | none => .error .ipv4
      else .ok (.domain (String.ofList name))

/-- Reads the host of a scheme without rules of its own. -/
def parsePlain : List Char → Except Error Host
  | '[' :: rest => parseBracketed rest
  | cs =>
    if cs.any isForbidden then .error .domainCharacter
    else .ok (.domain (String.ofList (percentEncode isControl cs)))

end Host
end Url
end Testbed
