import NeighborAwareness.Frame.Layout

/-!
# Management headers

The part of a received frame that says what it is and who sent it.

## Main definitions

* `FrameKind` : beacon, action or something else.
* `FrameHeader.ofBytes?` : the header of a frame, nothing when it is too short for one.
* `FrameHeader.read?` : the same with a check of every range.
-/

namespace NeighborAwareness

/-- What a frame is, by its frame control field. -/
inductive FrameKind where
  | beacon
  | action
  | other (type subtype : UInt8)
  deriving DecidableEq, Repr

/-- The kind that the first octet of a frame control field says. -/
def FrameKind.ofControl (control : UInt8) : FrameKind :=
  let type := (control >>> 2) &&& 0x03
  let subtype := (control >>> 4) &&& 0x0F
  if type = 0 ∧ subtype = 8 then .beacon
  else if type = 0 ∧ subtype = 13 then .action
  else .other type subtype

/-- The decoded management header. -/
structure FrameHeader where
  kind : FrameKind
  receiver : Address
  transmitter : Address
  network : Address
  deriving DecidableEq, Repr

/-- The header of `frame`, nothing when it is shorter than a management header. -/
def FrameHeader.ofBytes? (frame : Bytes) : Option FrameHeader :=
  if frame.length < Frame.headerLength then none
  else do
    let control ← frame.head?
    let receiver ← Address.ofBytes? (frame.drop Frame.receiverOffset)
    let transmitter ← Address.ofBytes? (frame.drop Frame.sourceOffset)
    let network ← Address.ofBytes? (frame.drop Frame.networkOffset)
    return { kind := .ofControl control, receiver, transmitter, network }

/-- The management header of a frame. -/
def FrameHeader.read? (frame : Bytes) : Option (Option FrameHeader) :=
  if frame.length < Frame.headerLength then some none
  else do
    let control ← frame[0]?
    let receiver ← Bytes.slice? frame Frame.receiverOffset (Frame.receiverOffset + 6)
    let transmitter ← Bytes.slice? frame Frame.sourceOffset (Frame.sourceOffset + 6)
    let network ← Bytes.slice? frame Frame.networkOffset (Frame.networkOffset + 6)
    return do
      let receiver ← Address.ofBytes? receiver
      let transmitter ← Address.ofBytes? transmitter
      let network ← Address.ofBytes? network
      return { kind := .ofControl control, receiver, transmitter, network }

end NeighborAwareness
