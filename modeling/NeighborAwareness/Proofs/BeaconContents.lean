import NeighborAwareness.Frame.Beacon
import NeighborAwareness.Proofs.Reception

/-!
# What a beacon says

A beacon is put together from a template, and everything that receivers look for in it is there:
a management header, the timestamp, and behind the capabilities one vendor element that reaches to
the end of the frame and holds three attributes. Nothing that it was put together from is lost.

## Main definitions

* `Frame.beaconElements` : the attributes of a beacon.

## Main results

* `Frame.beacon_eq_iff` : different beacons have different octets.
* `Scratch.beacon_says_everything` : what receivers find in a beacon.
-/

namespace NeighborAwareness

namespace Frame

/-- Offset of the capabilities. -/
def capabilityOffset : Nat := 34

/-- The identifier of vendor elements. -/
def vendorElement : UInt8 := 0xDD

/-- The attributes of a beacon: the preference to be master, the cluster, which begins with the
master, and the list of services. -/
def beaconElements (master : Address) : List Element :=
  [⟨0x00, masterPreference.drop Element.headerLength⟩,
   ⟨0x01, master.octets ++ [0xFE, 0x8C, 0x00, 0x00, 0x00, 0x00, 0x00]⟩,
   ⟨0x02, serviceId⟩]

variable (mac : Address) (sync : Bool) (timestamp : UInt64)

/-- Behind the organisation and its type a vendor element is its encoded attributes. -/
theorem encodeAll_beaconElements :
    Element.encodeAll (beaconElements mac)
      = .ok (masterPreference ++ (clusterAttribute mac ++ serviceList)) := by
  have hpreference : Element.encode ⟨0x00, masterPreference.drop Element.headerLength⟩
      = .ok masterPreference := rfl
  have hlist : Element.encode ⟨0x02, serviceId⟩ = .ok serviceList := rfl
  have hlength : (mac.octets ++ [0xFE, 0x8C, 0x00, 0x00, 0x00, 0x00, 0x00]).length = 13 := by
    rw [List.length_append, mac.length_octets]
    rfl
  have hcluster : Element.encode ⟨0x01, mac.octets ++ [0xFE, 0x8C, 0x00, 0x00, 0x00, 0x00, 0x00]⟩
      = .ok (clusterAttribute mac) := by
    rw [Element.encode, hlength, if_pos (by decide), clusterAttribute, List.append_assoc]
    rfl
  simp only [beaconElements, Element.encodeAll, hpreference, hcluster, hlist, bind, Except.bind,
    pure, Except.pure, List.append_nil]

/-- A beacon is a management header with fixed fields and the vendor element behind it. -/
theorem beacon_eq :
    beacon mac sync timestamp
      = managementHeader [0x80, 0x00] .broadcast mac
        ++ (LittleEndian.encode 8 timestamp.toNat
          ++ ((if sync then syncInterval else offsetInterval)
            ++ ([0x20, 0x04] ++ beaconElement mac))) := by
  rw [beacon, List.append_assoc, List.append_assoc, List.append_assoc, beaconControl]

theorem drop_beacon :
    (beacon mac sync timestamp).drop headerLength
      = LittleEndian.encode 8 timestamp.toNat
        ++ ((if sync then syncInterval else offsetInterval)
          ++ ([0x20, 0x04] ++ beaconElement mac)) := by
  rw [beacon_eq, drop_headerLength]

theorem timestamp_beacon :
    ((beacon mac sync timestamp).drop timestampOffset).take 8
      = LittleEndian.encode 8 timestamp.toNat := by
  rw [show timestampOffset = headerLength from rfl, drop_beacon,
    List.take_left' (LittleEndian.length_encode 8 timestamp.toNat)]

theorem drop_intervalOffset :
    (beacon mac sync timestamp).drop intervalOffset
      = (if sync then syncInterval else offsetInterval)
        ++ ([0x20, 0x04] ++ beaconElement mac) := by
  rw [show intervalOffset = headerLength + 8 from rfl, ← List.drop_drop, drop_beacon,
    List.drop_left' (LittleEndian.length_encode 8 timestamp.toNat)]

theorem drop_capabilityOffset :
    (beacon mac sync timestamp).drop capabilityOffset = [0x20, 0x04] ++ beaconElement mac := by
  rw [show capabilityOffset = intervalOffset + 2 from rfl, ← List.drop_drop, drop_intervalOffset]
  cases sync <;> rfl

theorem header_beacon :
    FrameHeader.ofBytes? (beacon mac sync timestamp)
      = some ⟨.beacon, .broadcast, mac, networkId⟩ := by
  rw [beacon_eq]
  exact FrameHeader.ofBytes?_managementHeader 0x80 0x00 _ _ _

variable {mac sync timestamp}

/-- Beacons that differ in their sender, interval or timestamp have different octets. -/
theorem beacon_eq_iff {mac' : Address} {sync' : Bool} {timestamp' : UInt64} :
    beacon mac sync timestamp = beacon mac' sync' timestamp'
      ↔ mac = mac' ∧ sync = sync' ∧ timestamp = timestamp' := by
  refine ⟨fun h => ⟨?_, ?_, ?_⟩, fun ⟨hmac, hsync, htimestamp⟩ => by rw [hmac, hsync, htimestamp]⟩
  · have hheader := header_beacon mac sync timestamp
    rw [h, header_beacon] at hheader
    exact (FrameHeader.mk.inj (Option.some.inj hheader)).2.2.1.symm
  · have hinterval := drop_intervalOffset mac sync timestamp
    rw [h, drop_intervalOffset] at hinterval
    revert hinterval
    cases sync <;> cases sync' <;> simp [syncInterval, offsetInterval]
  · have htime := timestamp_beacon mac sync timestamp
    rw [h, timestamp_beacon] at htime
    have hdecode := congrArg LittleEndian.decode htime
    rw [LittleEndian.decode_encode timestamp'.toNat_lt,
      LittleEndian.decode_encode timestamp.toNat_lt] at hdecode
    exact (UInt64.toNat_inj.1 hdecode).symm

end Frame

namespace Scratch

theorem frame_putBeacon (s : Scratch) (mac : Address) (sync : Bool) (timestamp : UInt64) :
    (s.putBeacon mac sync timestamp).2.frame (s.putBeacon mac sync timestamp).1
      = Frame.beacon mac sync timestamp := by
  have hlength := Frame.length_beacon mac sync timestamp
  rw [putBeacon_eq, ← hlength]
  exact frame_write s (by rw [hlength]; decide)

/-- Whatever was in the memory before, a beacon put together in it decodes as a beacon from its
sender to everybody, with the network identifier. Octets 24 to 31 are the timestamp. Behind the
capabilities stands one vendor element, whose length octet covers all the rest of the frame. It
begins with the organisation and its type, and the rest of it is three attributes: the preference to
be master, the cluster with the sender as its master, and the list of just the one service. The
packet filter accepts the frame behind any radiotap header, and different beacons differ. -/
theorem beacon_says_everything (s : Scratch) (mac : Address) (sync : Bool) (timestamp : UInt64) :
    let made := s.putBeacon mac sync timestamp
    let frame := made.2.frame made.1
    frame.length = made.1
      ∧ FrameHeader.ofBytes? frame = some ⟨.beacon, .broadcast, mac, Frame.networkId⟩
      ∧ (frame.drop 24).take 8 = LittleEndian.encode 8 timestamp.toNat
      ∧ (∃ length attributes, frame.drop 34
          = [0x20, 0x04, Frame.vendorElement, length] ++ (Frame.organisationType ++ attributes)
        ∧ length.toNat = (Frame.organisationType ++ attributes).length
        ∧ (ElementList.ofBytes attributes).map ElementList.toList
          = .ok (Frame.beaconElements mac))
      ∧ (∀ front trailer header, RadiotapHeader.ofBytes? (front ++ frame ++ trailer) = some header →
        header.length = front.length →
        PacketFilter.run PacketFilter.networkFilter (front ++ frame ++ trailer)
          = PacketFilter.accepted)
      ∧ ∀ (s' : Scratch) mac' sync' timestamp',
        let other := s'.putBeacon mac' sync' timestamp'
        other.2.frame other.1 = frame ↔ mac' = mac ∧ sync' = sync ∧ timestamp' = timestamp := by
  intro made frame
  have hframe : frame = Frame.beacon mac sync timestamp := s.frame_putBeacon mac sync timestamp
  have helements := Frame.encodeAll_beaconElements mac
  rw [hframe]
  refine ⟨Frame.length_beacon mac sync timestamp, Frame.header_beacon mac sync timestamp,
    Frame.timestamp_beacon mac sync timestamp, ⟨34,
      Frame.masterPreference ++ (Frame.clusterAttribute mac ++ Frame.serviceList), ?_, ?_, ?_⟩,
    ?_, ?_⟩
  · rw [show 34 = Frame.capabilityOffset from rfl, Frame.drop_capabilityOffset, Frame.beaconElement]
    simp only [Frame.vendorElement, List.append_assoc, List.cons_append, List.nil_append]
  · simp only [Frame.clusterAttribute, List.length_append, mac.length_octets]
    rfl
  · rw [ElementList.ofBytes_of_encodeAll helements]
    exact congrArg Except.ok (ElementList.elements_of_encodeAll helements)
  · intro front trailer header hheader hlength
    rw [Frame.beacon_eq] at hheader ⊢
    exact PacketFilter.run_networkFilter_of_header hheader hlength
  · intro s' mac' sync' timestamp' other
    have hother : other.2.frame other.1 = Frame.beacon mac' sync' timestamp' :=
      s'.frame_putBeacon mac' sync' timestamp'
    rw [hother, Frame.beacon_eq_iff]

/-- A beacon is accepted behind the shortest radiotap header, and it is not the one with the other
interval. -/
theorem beacon_says_everything_short_header :
    let front : Bytes := [0, 0, 8, 0, 0, 0, 0, 0]
    let frame := fun sync =>
      (empty.putBeacon .broadcast sync 7).2.frame (empty.putBeacon .broadcast sync 7).1
    RadiotapHeader.ofBytes? (front ++ frame true ++ []) = some ⟨8, false⟩
      ∧ PacketFilter.run PacketFilter.networkFilter (front ++ frame true ++ [])
        = PacketFilter.accepted
      ∧ frame false ≠ frame true := by
  intro front frame
  obtain ⟨-, -, -, -, haccepted, hdiffer⟩ := empty.beacon_says_everything .broadcast true 7
  have hheader : RadiotapHeader.ofBytes? (front ++ frame true ++ []) = some ⟨8, false⟩ := by
    dsimp only [frame]
    rw [frame_putBeacon]
    decide
  refine ⟨hheader, haccepted front [] ⟨8, false⟩ hheader rfl, fun heq => ?_⟩
  have hsync := ((hdiffer empty .broadcast false 7).1 heq).2.1
  contradiction

end Scratch

end NeighborAwareness
