import NeighborAwareness.Frame.Discovery

/-!
# Follow-up frames

A follow-up delivers a small payload to one peer: an action frame with a single service descriptor
attribute, in which the requestor instance is the service that the peer listens on. The descriptor is
put behind the action head piece by piece.

## Main definitions

* `Frame.followUp` : the octets of a follow-up frame.
* `Frame.followUpPieces` : the pieces of its descriptor.
* `Scratch.composeFollowUp`, `Scratch.putFollowUp` : a follow-up frame put together in scratch memory.

## Main results

* `Scratch.composeFollowUp_eq` : what is put together is the follow-up frame.
-/

namespace NeighborAwareness

namespace Frame

/-- Instance number of the sending service. -/
def followUpInstance : UInt8 := 0x80

/-- Service control of a follow-up. -/
def controlFollowUp : UInt8 := 0x12

/-- Octets of a follow-up frame in front of its payload. -/
def followUpFixed : Nat := 43

/-- A follow-up frame from `source` to `receiver`. -/
def followUp (source receiver : Address) (requestor : UInt8) (payload : Bytes) : Bytes :=
  actionHead receiver source
    ++ serviceDescriptor followUpInstance requestor controlFollowUp payload

theorem length_followUp (source receiver : Address) (requestor : UInt8) (payload : Bytes) :
    (followUp source receiver requestor payload).length = followUpFixed + payload.length := by
  have hs := source.length_octets
  have hr := receiver.length_octets
  simp [followUp, actionHead, managementHeader, actionBody, serviceDescriptor, serviceId,
    actionControl, networkId, followUpFixed, hs, hr]
  omega

/-- The service descriptor of a follow-up frame, piece by piece: identifier, length, service,
instances with control and payload length, payload. -/
def followUpPieces (requestor : UInt8) (payload : Bytes) : List Bytes :=
  [[0x03], LittleEndian.encode 2 (UInt16.ofNat (payload.length + 10)).toNat, serviceId,
   [followUpInstance, requestor, controlFollowUp, UInt8.ofNat payload.length], payload]

theorem followUp_eq_pieces (source receiver : Address) (requestor : UInt8) (payload : Bytes) :
    followUp source receiver requestor payload
      = actionHead receiver source ++ (followUpPieces requestor payload).flatten := by
  rw [followUp, serviceDescriptor, descriptorLength, followUpPieces, descriptorFixed, Nat.add_comm]
  simp only [List.flatten_cons, List.flatten_nil, List.append_nil, List.append_assoc,
    Nat.reduceSub]

end Frame

namespace Scratch

/-- A follow-up frame put together in scratch memory: its length, or why it is refused. -/
def composeFollowUp (s : Scratch) (source receiver : Address) (requestor : UInt8)
    (payload : Bytes) : Except Failure Nat × Scratch :=
  match Frame.checkPayload payload Frame.followUpFixed with
  | .error failure => (.error failure, s)
  | .ok () =>
    let (offset, s) := s.putActionHead receiver source
    let (length, s) := s.putAll offset (Frame.followUpPieces requestor payload)
    (.ok length, s)

/-- A follow-up frame with its length, unless it is refused. -/
def putFollowUp (s : Scratch) (source receiver : Address) (requestor : UInt8) (payload : Bytes) :
    Except Failure (Nat × Scratch) :=
  composed (s.composeFollowUp source receiver requestor payload)

/-- What is put together is the follow-up frame. -/
theorem composeFollowUp_eq (s : Scratch) (source receiver : Address) (requestor : UInt8)
    (payload : Bytes) :
    s.composeFollowUp source receiver requestor payload
      = match Frame.checkPayload payload Frame.followUpFixed with
        | .error failure => (.error failure, s)
        | .ok () =>
          (.ok (Frame.followUp source receiver requestor payload).length,
            s.write (Frame.followUp source receiver requestor payload)) := by
  rw [composeFollowUp]
  cases hcheck : Frame.checkPayload payload Frame.followUpFixed with
  | error failure => rfl
  | ok =>
    have hroom := Frame.add_length_le_of_checkPayload (by decide) hcheck
    rw [← Frame.length_followUp source receiver requestor payload, Frame.followUp_eq_pieces] at hroom
    dsimp only
    rw [putActionHead_eq]
    dsimp only
    rw [write_putAll s hroom, ← Frame.followUp_eq_pieces]

end Scratch

end NeighborAwareness
