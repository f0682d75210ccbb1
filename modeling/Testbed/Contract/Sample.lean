import Testbed.Contract.SipHash
import Testbed.Text.Quoted

/-!
# Sample values

Values on which the assertions are tried: plain data, and custom values that choose what they
equal and what they hash to. A custom value names the labels of the custom values it equals, so
its equality need be neither reflexive nor symmetric.
-/

namespace Testbed

inductive Sample where
  | null
  | bool (b : Bool)
  | int (i : Int)
  | text (s : String)
  | list (items : List Sample)
  /-- A value that equals the custom values whose labels it lists. -/
  | custom (label : String) (equals : List String) (hash : UInt64)
deriving Repr, Inhabited

namespace Sample

mutual

/-- Whether the first value says that it equals the second. -/
def eq : Sample → Sample → Bool
  | null, null => true
  | bool a, bool b => a == b
  | int i, int j => i == j
  | text s, text t => s == t
  | list as, list bs => eqItems as bs
  | custom _ equals _, custom label _ _ => equals.contains label
  | _, _ => false

/-- Whether two lists have the same length and equal items. -/
def eqItems : List Sample → List Sample → Bool
  | [], [] => true
  | a :: as, b :: bs => eq a b && eqItems as bs
  | _, _ => false

end

/-- A number as octets, the lowest first. -/
def littleEndian : Nat → Nat → Bytes
  | 0, _ => []
  | width + 1, n => UInt8.ofNat (n % 256) :: littleEndian width (n / 256)

mutual

/-- The octets that a value gives to a hash. -/
def octets : Sample → Bytes
  | null => []
  | bool b => [if b then 1 else 0]
  | int i => littleEndian 8 (BitVec.ofInt 64 i).toNat
  | text s => Utf8.encode s ++ [0xff]
  | list items => littleEndian 8 items.length ++ itemOctets items
  | custom _ _ h => littleEndian 8 h.toNat

/-- The octets of some values, one after another. -/
def itemOctets : List Sample → Bytes
  | [] => []
  | v :: rest => octets v ++ itemOctets rest

end

def hash (v : Sample) : UInt64 := SipHash.hash v.octets

mutual

/-- How a value is shown. -/
def shown : Sample → String
  | null => "null"
  | bool b => if b then "true" else "false"
  | int i => toString i
  | text s => Text.quote s
  | list items => "[" ++ shownItems items ++ "]"
  | custom label _ _ => label

/-- How values are shown in a list. -/
def shownItems : List Sample → String
  | [] => ""
  | [v] => shown v
  | v :: rest => shown v ++ ", " ++ shownItems rest

end
end Sample
end Testbed
