import NeighborAwareness.Bytes.Basic

/-!
# Little-endian words

Every number on the air and in a netlink message is written with its lowest octet first. One pair
of functions serves all widths.

## Main definitions

* `LittleEndian.limit` : how many numbers fit a width.
* `LittleEndian.encode` : the low `8 * width` bits of a number, lowest octet first.
* `LittleEndian.decode` : the number that octets spell.
* `LittleEndian.read?` : the number of exactly `width` octets.

## Main results

* `LittleEndian.decode_encode` : a number that fits the width reads back.
* `LittleEndian.encode_decode` : octets are written back as they were read.
* `LittleEndian.decode_lt` : octets spell a number below the limit of their width.
-/

namespace NeighborAwareness.LittleEndian

/-- How many numbers fit so many octets. -/
def limit : Nat → Nat
  | 0 => 1
  | width + 1 => 256 * limit width

/-- The low `8 * width` bits of `n`, lowest octet first. -/
def encode : Nat → Nat → Bytes
  | 0, _ => []
  | width + 1, n => UInt8.ofNat n :: encode width (n / 256)

/-- The number spelled by octets, lowest first. -/
def decode : Bytes → Nat
  | [] => 0
  | b :: rest => b.toNat + 256 * decode rest

/-- The number spelled by `bytes` when there are exactly `width` of them. -/
def read? (width : Nat) (bytes : Bytes) : Option Nat :=
  if bytes.length = width then some (decode bytes) else none

@[simp] theorem length_encode (width n : Nat) : (encode width n).length = width := by
  induction width generalizing n with
  | zero => rfl
  | succ width ih => simp [encode, ih]

/-- A number that fits the width reads back. -/
theorem decode_encode {width n : Nat} (h : n < limit width) : decode (encode width n) = n := by
  induction width generalizing n with
  | zero => simp only [limit] at h; simp only [encode, decode]; omega
  | succ width ih =>
    have hdiv : n / 256 < limit width := by
      simp only [limit] at h
      omega
    simp only [encode, decode, ih hdiv, UInt8.toNat_ofNat']
    omega

/-- Octets spell a number below the limit of their width. -/
theorem decode_lt (bytes : Bytes) : decode bytes < limit bytes.length := by
  induction bytes with
  | nil => simp [decode, limit]
  | cons b rest ih =>
    have hb := b.toNat_lt
    simp only [decode, List.length_cons, limit]
    omega

/-- Octets are written back as they were read. -/
theorem encode_decode (bytes : Bytes) : encode bytes.length (decode bytes) = bytes := by
  induction bytes with
  | nil => rfl
  | cons b rest ih =>
    have hb := b.toNat_lt
    have hdiv : (b.toNat + 256 * decode rest) / 256 = decode rest := by omega
    have hmod : UInt8.ofNat (b.toNat + 256 * decode rest) = b := by
      apply UInt8.toNat_inj.1
      rw [UInt8.toNat_ofNat']
      omega
    simp only [List.length_cons, decode, encode, hdiv, hmod, ih]

end NeighborAwareness.LittleEndian
