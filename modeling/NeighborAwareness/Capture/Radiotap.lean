import NeighborAwareness.Bytes.LittleEndian

/-!
# Radiotap headers

Captured frames stand behind a radiotap header: a version, a length, words whose bits name the
fields present, and the fields. Only three things matter here: whether the header decodes, how
long it is, and whether its flags say that a checksum ends the frame. All fields up to the last
have to be walked for that, because each is aligned and some can be wrong in themselves.

## Main definitions

* `Radiotap.Slot` : an entry of the field area, standard or of a vendor.
* `Radiotap.presence` : the entries that the presence words announce.
* `Radiotap.walk` : the entries taken from the field area.
* `RadiotapHeader.ofBytes?` : the decoded header of a packet.

## Assumptions

Headers are decoded by the `radiotap` library, version 1.3.0, of which no more is used than success,
length and flags. The following is assumed of it.

* The version has to be zero, and the length may not exceed the packet. It may be less than the
  presence words take, which are read up to the end of the packet.
* Entries follow the last presence word in the order of the bits, each aligned from the beginning of
  the packet. One that goes beyond the length of the header is an error, be it a field or the
  stretch of a vendor, even if the packet goes on that far.
* Bits for fields above number 22 are passed over, and so are all bits in the namespace of a vendor.
* Fields 19, 21 and 22 are errors if they hold impossible values; all others decode whatever they
  hold. Of several flags fields the last one counts.
-/

namespace NeighborAwareness

namespace Radiotap

/-- An entry of the field area. -/
inductive Slot where
  /-- A standard field, by its number. -/
  | field (number : Nat)
  /-- A stretch that a vendor defines. -/
  | vendor
  deriving DecidableEq, Repr

/-- The largest number of a field whose size is known. -/
def lastField : Nat := 22

/-! ### Presence words -/

/-- The standard fields that a presence word names, `count` words after the namespace began. Fields
of unknown size take no room. -/
def namedFields (count word : Nat) : List Slot :=
  (List.range 29).filterMap fun bit =>
    let number := 32 * count + bit
    if word.testBit bit && number ≤ lastField then some (.field number) else none

/-- The entries that presence words announce, and how many octets the words take. In a vendor's
namespace the bits name nothing known. Bit 29 returns to the standard namespace, bit 30 enters a
vendor's, and bit 31 says that another word follows. -/
def presence (vendor : Bool) (count : Nat) : Bytes → Option (List Slot × Nat)
  | a :: b :: c :: d :: rest =>
    let word := LittleEndian.decode [a, b, c, d]
    let fields := if vendor then [] else namedFields count word
    let enters := !word.testBit 29 && word.testBit 30
    let switches := word.testBit 29 || word.testBit 30
    let slots := if enters then fields ++ [.vendor] else fields
    if word.testBit 31 then
      let inVendor := if switches then enters else vendor
      match presence inVendor (if switches then 0 else count + 1) rest with
      | some (more, length) => some (slots ++ more, length + 4)
      | none => none
    else some (slots, 4)
  | _ => none

/-! ### Fields -/

/-- Alignment of a standard field, from the beginning of the packet. -/
def alignment : Nat → Nat
  | 0 => 8
  | 3 | 4 | 7 | 8 | 9 | 14 | 15 | 21 => 2
  | 18 | 20 => 4
  | 22 => 8
  | _ => 1

/-- Octets of a standard field. -/
def size : Nat → Nat
  | 0 => 8
  | 3 => 4
  | 4 | 7 | 8 | 9 | 14 | 15 => 2
  | 18 | 20 => 8
  | 19 => 3
  | 21 | 22 => 12
  | _ => 1

/-- The next multiple of `step` from `offset` on. -/
def align (offset step : Nat) : Nat :=
  (offset + step - 1) / step * step

/-- Channel width by the bandwidth code of a very high throughput field. -/
def channelWidth (bandwidth : Nat) : Nat :=
  if bandwidth = 0 then 20
  else if bandwidth ≤ 3 then 40
  else if bandwidth ≤ 10 then 80
  else 160

/-- Whether a very high throughput rate is defined for a number of streams, a modulation index and
a channel width. -/
def rateExists (streams index width : Nat) : Bool :=
  if width = 20 then streams < 5 && (index ≠ 9 || streams = 3)
  else if width = 40 then streams < 5
  else if width = 80 then
    !((streams = 3 && index = 6) || (streams = 6 && index = 9) || (streams = 7 && index = 6))
  else !(streams = 3 && index = 9)

/-- Whether the octet of one user of a very high throughput field is possible. -/
def userValid (width : Nat) (user : UInt8) : Bool :=
  let streams := (user &&& 0x0F).toNat
  let index := (user >>> 4).toNat
  streams = 0 || (index ≤ 9 && streams ≤ 8 && rateExists streams index width)

/-- Whether the octets of a standard field are possible. -/
def fieldValid (number : Nat) (data : Bytes) : Bool :=
  match number, data with
  | 19, known :: _ :: index :: _ =>
    !(known &&& 0x01 != 0 && known &&& 0x04 != 0 && index > 31)
  | 21, known :: _ :: _ :: bandwidth :: u0 :: u1 :: u2 :: u3 :: _ =>
    let code := (bandwidth &&& 0x1F).toNat
    if known &&& 0x40 = 0 then true
    else
      code ≤ 25 &&
        (known &&& 0x04 = 0 || [u0, u1, u2, u3].all (userValid (channelWidth code)))
  | 22, _ =>
    match data[10]? with
    | some b => (b &&& 0x0F) ≤ 2
    | none => false
  | _, _ => true

/-- Number of the flags field. -/
def flagsField : Nat := 1

/-- The flag that says a checksum ends the frame. -/
def checksumFlag : UInt8 := 0x10

/-- The octets in front of a vendor's own: its identifier, a selector and a count. -/
def vendorHeader : Nat := 6

/-- Takes the entries in order from `offset` on, none beyond `length`. The result is whether the
last flags field, if any, announced a checksum; `checksum` is what has been seen so far. -/
def walk (packet : Bytes) (length : Nat) (offset : Nat) (checksum : Bool) :
    List Slot → Option Bool
  | [] => some checksum
  | .field number :: rest =>
    let start := align offset (alignment number)
    let next := start + size number
    let data := (packet.drop start).take (size number)
    if next ≤ length ∧ fieldValid number data then
      let announced :=
        if number = flagsField then data.any fun flags => flags &&& checksumFlag != 0
        else checksum
      walk packet length next announced rest
    else none
  | .vendor :: rest =>
    let start := align offset 2
    let body := start + vendorHeader
    let skipped := LittleEndian.decode ((packet.drop (start + 4)).take 2)
    if body + skipped ≤ length then walk packet length (body + skipped) checksum rest
    else none

end Radiotap

/-- What is needed of a radiotap header. -/
structure RadiotapHeader where
  /-- Where the frame begins. -/
  length : Nat
  /-- Whether a checksum ends the frame. -/
  checksum : Bool
  deriving DecidableEq, Repr

/-- The header in front of a captured frame. Its version is zero and the packet is at least as long
as it says; it may say less than its own presence words take when they name no field. -/
def RadiotapHeader.ofBytes? (packet : Bytes) : Option RadiotapHeader :=
  match packet with
  | version :: _ :: low :: high :: rest =>
    let length := LittleEndian.decode [low, high]
    if version ≠ 0 ∨ packet.length < length then none
    else do
      let (slots, words) ← Radiotap.presence false 0 rest
      let checksum ← Radiotap.walk packet length (4 + words) false slots
      return { length, checksum }
  | _ => none

end NeighborAwareness
