import NeighborAwareness.Bytes.LittleEndian
import NeighborAwareness.Frame.Layout

/-!
# Synchronisation beacons

A beacon has the management header, twelve octets of fixed fields (timestamp, beacon interval,
capabilities) and one vendor element that holds the master preference, cluster and service list
attributes: 72 octets in all. It is put together from a template in which the addresses, the
timestamp and the interval are filled in.

## Main definitions

* `Frame.beacon` : the octets of a beacon.
* `Frame.beaconTemplate`, `Frame.beaconFields` : the template and what is filled in.
* `Scratch.putBeacon` : a beacon put together in scratch memory.

## Main results

* `Frame.length_beacon` : every beacon has `Frame.beaconLength` octets.
* `Scratch.putBeacon_eq` : what is put together is the beacon.
-/

namespace NeighborAwareness

namespace Frame

/-- Octets of a beacon. -/
def beaconLength : Nat := 72

/-- Offset of the timestamp. -/
def timestampOffset : Nat := 24

/-- Offset of the beacon interval. -/
def intervalOffset : Nat := 32

/-- Offset of the master address in the cluster attribute. -/
def masterOffset : Nat := 50

/-- The interval field of a synchronisation beacon, 512 time units. -/
def syncInterval : Bytes := [0x00, 0x02]

/-- The interval field of a beacon between discovery windows. -/
def offsetInterval : Bytes := [0x80, 0x00]

/-- Master preference attribute. -/
def masterPreference : Bytes := [0x00, 0x02, 0x00, 0x8C, 0xFE]

/-- Cluster attribute: master address, preference, hops to the master, transmission time of the
anchor's beacon. -/
def clusterAttribute (master : Address) : Bytes :=
  [0x01, 0x0D, 0x00] ++ master.octets ++ [0xFE, 0x8C, 0x00, 0x00, 0x00, 0x00, 0x00]

/-- Service list attribute with the one shared service. -/
def serviceList : Bytes :=
  [0x02, 0x06, 0x00] ++ serviceId

/-- The vendor element behind the fixed fields. -/
def beaconElement (master : Address) : Bytes :=
  [0xDD, 34] ++ organisationType ++ masterPreference ++ clusterAttribute master ++ serviceList

/-- A beacon sent by `mac`, which is also the master of the cluster. The timestamp is in
seconds; `sync` selects the synchronisation interval. -/
def beacon (mac : Address) (sync : Bool) (timestamp : UInt64) : Bytes :=
  managementHeader beaconControl Address.broadcast mac
    ++ LittleEndian.encode 8 timestamp.toNat
    ++ (if sync then syncInterval else offsetInterval)
    ++ [0x20, 0x04]
    ++ beaconElement mac

/-- Every beacon has the same length. -/
@[simp] theorem length_beacon (mac : Address) (sync : Bool) (timestamp : UInt64) :
    (beacon mac sync timestamp).length = beaconLength := by
  have h := mac.length_octets
  cases sync <;>
    simp [beacon, managementHeader, beaconElement, clusterAttribute, serviceList,
      masterPreference, organisationType, serviceId, syncInterval, offsetInterval, beaconControl,
      networkId, Address.broadcast, beaconLength, h]

/-- A synchronisation beacon from nobody at time zero. -/
def beaconTemplate : Bytes :=
  [0x80, 0x00, 0x00, 0x00,
   0xFF, 0xFF, 0xFF, 0xFF, 0xFF, 0xFF,
   0x00, 0x00, 0x00, 0x00, 0x00, 0x00,
   0x50, 0x6F, 0x9A, 0x01, 0xD9, 0x49,
   0x00, 0x00,
   -- Timestamp, interval, capabilities.
   0x00, 0x00, 0x00, 0x00, 0x00, 0x00, 0x00, 0x00,
   0x00, 0x02,
   0x20, 0x04,
   -- Vendor element with master preference, cluster and service list.
   0xDD, 34, 0x50, 0x6F, 0x9A, 0x13,
   0x00, 0x02, 0x00, 0x8C, 0xFE,
   0x01, 0x0D, 0x00,
   0x00, 0x00, 0x00, 0x00, 0x00, 0x00, 0xFE, 0x8C,
   0x00, 0x00, 0x00, 0x00, 0x00,
   0x02, 0x06, 0x00, 0x75, 0x94, 0x31, 0x93, 0xEA, 0xC9]

/-- What a beacon says of its sender, its time and its interval. -/
def beaconFields (mac : Address) (sync : Bool) (timestamp : UInt64) : List (Nat × Bytes) :=
  [(sourceOffset, mac.octets), (timestampOffset, LittleEndian.encode 8 timestamp.toNat),
   (intervalOffset, if sync then syncInterval else offsetInterval), (masterOffset, mac.octets)]

theorem beaconFields_inside (mac : Address) (sync : Bool) (timestamp : UInt64) :
    ∀ field ∈ beaconFields mac sync timestamp,
      field.1 + field.2.length ≤ beaconTemplate.length := by
  have h := mac.length_octets
  cases sync <;>
    simp [beaconFields, beaconTemplate, sourceOffset, timestampOffset, intervalOffset, masterOffset,
      syncInterval, offsetInterval, h]

theorem patch_beaconTemplate (mac : Address) (sync : Bool) (timestamp : UInt64) :
    beaconTemplate.patch (beaconFields mac sync timestamp) = beacon mac sync timestamp := by
  obtain ⟨octets, h⟩ := mac
  match octets, h with
  | [_, _, _, _, _, _], _ => cases sync <;> rfl

end Frame

namespace Scratch

/-- A beacon put together in scratch memory, with its length. -/
def putBeacon (s : Scratch) (mac : Address) (sync : Bool) (timestamp : UInt64) : Nat × Scratch :=
  (Frame.beaconLength,
    s.putTemplate Frame.beaconTemplate (Frame.beaconFields mac sync timestamp))

/-- What is put together is the beacon. -/
theorem putBeacon_eq (s : Scratch) (mac : Address) (sync : Bool) (timestamp : UInt64) :
    s.putBeacon mac sync timestamp
      = (Frame.beaconLength, s.write (Frame.beacon mac sync timestamp)) := by
  rw [putBeacon, putTemplate_eq s (Frame.beaconFields_inside mac sync timestamp) (by decide),
    Frame.patch_beaconTemplate]

end Scratch

end NeighborAwareness
