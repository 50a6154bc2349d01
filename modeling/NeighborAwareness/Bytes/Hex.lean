import NeighborAwareness.Bytes.Basic

/-!
# Hexadecimal text

Octets are shown as two lowercase hexadecimal digits each.
-/

namespace NeighborAwareness.Hex

/-- The lowercase hexadecimal digit of a number below sixteen. -/
def digit (n : Nat) : Char :=
  Nat.digitChar n

/-- The two digits of an octet, the high one first. -/
def octet (b : UInt8) : List Char :=
  [digit (b.toNat / 16), digit (b.toNat % 16)]

/-- Octets as text, two digits each. -/
def encode (bytes : Bytes) : String :=
  String.ofList (bytes.flatMap octet)

end NeighborAwareness.Hex
