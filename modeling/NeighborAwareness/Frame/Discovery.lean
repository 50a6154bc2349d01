import NeighborAwareness.Bytes.LittleEndian
import NeighborAwareness.Frame.Layout

/-!
# Service discovery frames

A discovery frame announces the service (publish) or asks for it (subscribe). Behind the action
head it holds the device capability, availability, service extension and service descriptor
attributes; the descriptor ends with the payload. The attributes are put one behind the other; that
of the service is a template in which its lengths and its control are filled in.

## Main definitions

* `Frame.descriptorLength` : the length field of the service descriptor.
* `Frame.discovery` : the octets of a discovery frame.
* `Frame.descriptorTemplate`, `Frame.descriptorFields` : the template and what is filled in.
* `Scratch.composeDiscovery`, `Scratch.putDiscovery` : a discovery frame put together in scratch
  memory.

## Main results

* `Scratch.composeDiscovery_eq` : what is put together is the discovery frame.
-/

namespace NeighborAwareness

namespace Frame

/-- Device capability attribute, the lower band only. -/
def deviceCapability : Bytes :=
  [0x0F, 0x09, 0x00, 0x00, 0x01, 0x00, 0x04, 0x01, 0x00, 0x00, 0x14, 0x00]

/-- Availability attribute. -/
def availability : Bytes :=
  [0x12, 0x1B, 0x00, 0x0B, 0x01, 0x00, 0x16, 0x00, 0x1A, 0x10, 0x18, 0x00,
   0x04, 0xFE, 0xFF, 0xFF, 0x3F, 0x31, 0x51, 0xFF, 0x07, 0x00, 0x80, 0x20,
   0x00, 0x0F, 0x80, 0x01, 0x00, 0x0F]

/-- Instance number of the local service. -/
def localInstance : UInt8 := 1

/-- Service extension attribute. -/
def serviceExtension : Bytes :=
  [0x0E, 0x04, 0x00, localInstance, 0x00, 0x02, 0x02]

/-- Service control of a publish. -/
def controlPublish : UInt8 := 0x10

/-- Service control of a subscribe. -/
def controlSubscribe : UInt8 := 0x11

/-- Octets of a service descriptor attribute in front of its payload. -/
def descriptorFixed : Nat := 13

/-- Offset of the service descriptor attribute. -/
def descriptorOffset : Nat := 79

/-- Octets of a discovery frame in front of its payload. -/
def discoveryFixed : Nat := 92

/-- The length field of a service descriptor: its fixed part without identifier and length, and
the payload. The field has 16 bits and wraps. -/
def descriptorLength (payloadLength : Nat) : UInt16 :=
  UInt16.ofNat (descriptorFixed - 3 + payloadLength)

/-- A service descriptor attribute that ends with `payload`. -/
def serviceDescriptor (sender requestor control : UInt8) (payload : Bytes) : Bytes :=
  [0x03] ++ LittleEndian.encode 2 (descriptorLength payload.length).toNat ++ serviceId
    ++ [sender, requestor, control, UInt8.ofNat payload.length] ++ payload

/-- A discovery frame from `source` to the group. -/
def discovery (source : Address) (payload : Bytes) (publish : Bool) : Bytes :=
  actionHead groupAddress source ++ deviceCapability ++ availability ++ serviceExtension
    ++ serviceDescriptor localInstance 0x00 (if publish then controlPublish else controlSubscribe)
        payload

theorem length_discovery (source : Address) (payload : Bytes) (publish : Bool) :
    (discovery source payload publish).length = discoveryFixed + payload.length := by
  have h := source.length_octets
  simp [discovery, actionHead, managementHeader, actionBody, deviceCapability, availability,
    serviceExtension, serviceDescriptor, serviceId, actionControl, networkId, groupAddress,
    discoveryFixed, h]
  omega

/-- The descriptor of a publish in front of its payload, with the lengths to be filled in. -/
def descriptorTemplate : Bytes :=
  [0x03, 0x00, 0x00, 0x75, 0x94, 0x31, 0x93, 0xEA, 0xC9, localInstance, 0x00, 0x10, 0x00]

/-- Offset of the service control in a descriptor. -/
def descriptorControlOffset : Nat := 11

/-- Offset of the payload length in a descriptor. -/
def descriptorPayloadOffset : Nat := 12

/-- The fields of a descriptor. -/
def descriptorFields (payloadLength : Nat) (publish : Bool) : List (Nat × Bytes) :=
  [(1, LittleEndian.encode 2 (descriptorLength payloadLength).toNat),
   (descriptorControlOffset, [if publish then controlPublish else controlSubscribe]),
   (descriptorPayloadOffset, [UInt8.ofNat payloadLength])]

theorem descriptorFields_inside (payloadLength : Nat) (publish : Bool) :
    ∀ field ∈ descriptorFields payloadLength publish,
      field.1 + field.2.length ≤ descriptorTemplate.length := by
  simp [descriptorFields, descriptorTemplate, descriptorControlOffset, descriptorPayloadOffset]

theorem patch_descriptorTemplate (payload : Bytes) (publish : Bool) :
    descriptorTemplate.patch (descriptorFields payload.length publish) ++ payload
      = serviceDescriptor localInstance 0x00 (if publish then controlPublish else controlSubscribe)
          payload := rfl

/-- What stands between the action head and the service descriptor. -/
def discoveryAttributes : List Bytes :=
  [deviceCapability, availability, serviceExtension]

/-- All of a discovery frame in front of the service descriptor. -/
def discoveryFront (source : Address) : Bytes :=
  actionHead groupAddress source ++ discoveryAttributes.flatten

/-- A discovery frame is the front, the template with its fields and the payload. -/
theorem discovery_eq_patch (source : Address) (payload : Bytes) (publish : Bool) :
    discovery source payload publish
      = discoveryFront source ++ descriptorTemplate.patch (descriptorFields payload.length publish)
          ++ payload := by
  rw [List.append_assoc, patch_descriptorTemplate, discovery, discoveryFront]
  simp only [discoveryAttributes, List.flatten_cons, List.flatten_nil, List.append_nil,
    List.append_assoc]

theorem length_discoveryFront (source : Address) :
    (discoveryFront source).length = descriptorOffset := by
  have h := source.length_octets
  simp [discoveryFront, actionHead, managementHeader, actionBody, discoveryAttributes,
    deviceCapability, availability, serviceExtension, actionControl, networkId, groupAddress,
    descriptorOffset, h]

end Frame

namespace Scratch

/-- A discovery frame put together in scratch memory: its length, or why it is refused. -/
def composeDiscovery (s : Scratch) (source : Address) (payload : Bytes) (publish : Bool) :
    Except Failure Nat × Scratch :=
  match Frame.checkPayload payload Frame.discoveryFixed with
  | .error failure => (.error failure, s)
  | .ok () =>
    let (offset, s) := s.putActionHead Frame.groupAddress source
    let (descriptor, s) := s.putAll offset Frame.discoveryAttributes
    let s := s.put descriptor Frame.descriptorTemplate
    let s := s.patch descriptor (Frame.descriptorFields payload.length publish)
    let offset := descriptor + Frame.descriptorTemplate.length
    (.ok (offset + payload.length), s.put offset payload)

/-- A discovery frame with its length, unless it is refused. -/
def putDiscovery (s : Scratch) (source : Address) (payload : Bytes) (publish : Bool) :
    Except Failure (Nat × Scratch) :=
  composed (s.composeDiscovery source payload publish)

/-- What is put together is the discovery frame. -/
theorem composeDiscovery_eq (s : Scratch) (source : Address) (payload : Bytes) (publish : Bool) :
    s.composeDiscovery source payload publish
      = match Frame.checkPayload payload Frame.discoveryFixed with
        | .error failure => (.error failure, s)
        | .ok () =>
          (.ok (Frame.discovery source payload publish).length,
            s.write (Frame.discovery source payload publish)) := by
  rw [composeDiscovery]
  cases hcheck : Frame.checkPayload payload Frame.discoveryFixed with
  | error failure => rfl
  | ok =>
    have hroom := Frame.add_length_le_of_checkPayload (by decide) hcheck
    have hfront := Frame.length_discoveryFront source
    have hfits : (Frame.discoveryFront source ++ Frame.descriptorTemplate).length + payload.length
        ≤ Frame.capacity := by
      rwa [List.length_append, hfront]
    have hattributes : (Frame.discoveryFront source).length ≤ Frame.capacity := by
      rw [hfront]
      decide
    dsimp only
    rw [putActionHead_eq]
    dsimp only
    rw [write_putAll s hattributes, ← Frame.discoveryFront]
    dsimp only
    rw [write_put_patch_put s (Frame.descriptorFields_inside payload.length publish) hfits,
      ← Frame.discovery_eq_patch, Frame.length_discovery, hfront]
    rfl

end Scratch

end NeighborAwareness
