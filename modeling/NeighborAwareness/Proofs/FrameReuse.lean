import NeighborAwareness.Frame.Beacon
import NeighborAwareness.Frame.FollowUp

/-!
# Frames in used scratch memory

One scratch memory serves all frames of a session, of any kind and length. What is read of a frame is
what would be read if it was the first one, and a frame changes nothing behind its end. A refused
payload changes nothing at all.

## Main definitions

* `Frame.Order` : a frame to be put together.
* `Scratch.compose`, `Scratch.composeAll` : one frame put together, and frames one after the other.

## Main results

* `Scratch.compose_eq` : putting a frame together writes its octets, or nothing if it is refused.
* `Scratch.no_earlier_frame_shows` : what is read after any frames.
-/

namespace NeighborAwareness

namespace Frame

/-- A frame to be put together. -/
inductive Order where
  | beacon (mac : Address) (sync : Bool) (timestamp : UInt64)
  | discovery (source : Address) (payload : Bytes) (publish : Bool)
  | followUp (source receiver : Address) (requestor : UInt8) (payload : Bytes)
  deriving DecidableEq, Repr

namespace Order

/-- The payload that is to travel in the frame, nothing in a beacon. -/
def payload : Order → Bytes
  | beacon .. => []
  | discovery _ payload _ => payload
  | followUp _ _ _ payload => payload

/-- The octets of the frame. -/
def octets : Order → Bytes
  | beacon mac sync timestamp => Frame.beacon mac sync timestamp
  | discovery source payload publish => Frame.discovery source payload publish
  | followUp source receiver requestor payload => Frame.followUp source receiver requestor payload

/-- Octets in front of the payload. -/
def fixed : Order → Nat
  | beacon .. => beaconLength
  | discovery .. => discoveryFixed
  | followUp .. => followUpFixed

theorem length_octets (order : Order) :
    order.octets.length = order.fixed + order.payload.length := by
  cases order with
  | beacon mac sync timestamp => exact length_beacon mac sync timestamp
  | discovery source payload publish => exact length_discovery source payload publish
  | followUp source receiver requestor payload =>
    exact length_followUp source receiver requestor payload

theorem length_octets_le {order : Order} (h : order.payload.length ≤ maxPayload) :
    order.octets.length ≤ capacity := by
  have hfixed : order.fixed + maxPayload ≤ capacity := by
    cases order with
    | beacon => exact (by decide : beaconLength + maxPayload ≤ capacity)
    | discovery => exact (by decide : discoveryFixed + maxPayload ≤ capacity)
    | followUp => exact (by decide : followUpFixed + maxPayload ≤ capacity)
  rw [length_octets]
  omega

end Order

end Frame

namespace Scratch

/-- A frame put together: its length, or why it is refused. -/
def compose (s : Scratch) : Frame.Order → Except Failure Nat × Scratch
  | .beacon mac sync timestamp =>
    let (length, s) := s.putBeacon mac sync timestamp
    (.ok length, s)
  | .discovery source payload publish => s.composeDiscovery source payload publish
  | .followUp source receiver requestor payload =>
    s.composeFollowUp source receiver requestor payload

/-- The memory after frames were put together one after the other, of which some may have been
refused. -/
def composeAll (s : Scratch) (orders : List Frame.Order) : Scratch :=
  orders.foldl (fun s order => (s.compose order).2) s

/-- Putting a frame together writes its octets over the front, or nothing if the payload is too
large. -/
theorem compose_eq (s : Scratch) (order : Frame.Order) :
    s.compose order
      = if order.payload.length ≤ Frame.maxPayload then
          (.ok order.octets.length, s.write order.octets)
        else
          (.error (.of (.payloadTooLarge order.payload.length Frame.maxPayload)), s) := by
  cases order with
  | beacon mac sync timestamp =>
    have hempty : (Frame.Order.beacon mac sync timestamp).payload.length ≤ Frame.maxPayload :=
      Nat.zero_le _
    rw [if_pos hempty, compose, putBeacon_eq, Frame.Order.octets, Frame.length_beacon]
  | discovery source payload publish =>
    rw [compose, composeDiscovery_eq, Frame.checkPayload_eq payload (by decide), Frame.Order.payload]
    by_cases h : payload.length ≤ Frame.maxPayload
    · rw [if_pos h, if_pos h, Frame.Order.octets]
    · rw [if_neg h, if_neg h]
  | followUp source receiver requestor payload =>
    rw [compose, composeFollowUp_eq, Frame.checkPayload_eq payload (by decide), Frame.Order.payload]
    by_cases h : payload.length ≤ Frame.maxPayload
    · rw [if_pos h, if_pos h, Frame.Order.octets]
    · rw [if_neg h, if_neg h]

/-- Whatever frames were put together before: a frame that is put together is read as from fresh
memory, fits into the memory, and leaves all octets behind it as they were. It is refused just if its
payload is longer than one octet can say, and then the memory stays as it was. -/
theorem no_earlier_frame_shows (earlier : List Frame.Order) (order : Frame.Order) :
    let s := empty.composeAll earlier
    let after := (s.compose order).2
    let fresh := empty.compose order
    (∀ length, (s.compose order).1 = .ok length →
        fresh.1 = .ok length ∧ after.frame length = fresh.2.frame length
          ∧ length ≤ Frame.capacity ∧ (after.frame length).length = length
          ∧ after.bytes.drop length = s.bytes.drop length)
      ∧ ((∃ failure, (s.compose order).1 = .error failure) ↔ 255 < order.payload.length)
      ∧ ∀ failure, (s.compose order).1 = .error failure → after = s := by
  intro s after fresh
  have hafter : after = (s.compose order).2 := rfl
  have hfresh : fresh = empty.compose order := rfl
  rw [compose_eq] at hafter hfresh
  rw [compose_eq]
  by_cases h : order.payload.length ≤ Frame.maxPayload
  · have hfits := Frame.Order.length_octets_le h
    rw [if_pos h] at hafter hfresh ⊢
    refine ⟨fun length hlength => ?_, iff_of_false nofun (Nat.not_lt.2 h), nofun⟩
    cases hlength
    rw [hafter, hfresh]
    refine ⟨rfl, ?_, hfits, ?_, drop_write s hfits⟩
    · rw [frame_write s hfits, frame_write empty hfits]
    · rw [frame_write s hfits]
  · rw [if_neg h] at hafter ⊢
    exact ⟨nofun, iff_of_true ⟨_, rfl⟩ (Nat.not_le.1 h), fun _ _ => hafter⟩

end Scratch

end NeighborAwareness
