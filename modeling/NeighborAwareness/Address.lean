import NeighborAwareness.Bytes.Hex

/-!
# Hardware addresses

The 48 bit address of a radio interface or of a peer.

## Main definitions

* `Address` : six octets.
* `Address.ofBytes?` : the address at the beginning of octets.
* `Address.text` : the colon separated form.
-/

namespace NeighborAwareness

/-- A 48 bit hardware address. -/
structure Address where
  /-- The octets in the order they are sent. -/
  octets : Bytes
  length_octets : octets.length = 6 := by decide
  deriving DecidableEq, Repr

namespace Address

/-- The address every station listens to. -/
def broadcast : Address where
  octets := [0xFF, 0xFF, 0xFF, 0xFF, 0xFF, 0xFF]

/-- The address of an interface that reported none. -/
def zero : Address where
  octets := [0, 0, 0, 0, 0, 0]

instance : Inhabited Address := ⟨zero⟩

/-- The first six octets of `bytes`, nothing when there are fewer. -/
def ofBytes? (bytes : Bytes) : Option Address :=
  if h : (bytes.take 6).length = 6 then some ⟨bytes.take 6, h⟩ else none

/-- Six pairs of hexadecimal digits with colons between them. -/
def text (a : Address) : String :=
  ":".intercalate (a.octets.map fun b => Hex.encode [b])

theorem ofBytes?_append (a : Address) (rest : Bytes) :
    ofBytes? (a.octets ++ rest) = some a := by
  have h : (a.octets ++ rest).take 6 = a.octets := by
    rw [← a.length_octets, List.take_left]
  simp [ofBytes?, h, a.length_octets]

end Address

end NeighborAwareness
