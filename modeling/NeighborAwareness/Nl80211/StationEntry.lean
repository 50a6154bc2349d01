import NeighborAwareness.Netlink.Record
import NeighborAwareness.Nl80211.Code

/-!
# Station entries

The station information attribute holds one record per counter of a peer station.
-/

namespace NeighborAwareness

/-- One counter of a peer station. -/
inductive StationEntry where
  | inactiveMs (n : UInt32)
  | connectedSecs (n : UInt32)
  | rxBytes (n : UInt64)
  | txBytes (n : UInt64)
  | rxPackets (n : UInt32)
  | txPackets (n : UInt32)
  | txRetries (n : UInt32)
  | txFailed (n : UInt32)
  | beaconLoss (n : UInt32)
  | signalDbm (level : Int8)
  /-- An entry of another type or of an unexpected size, as it came. -/
  | unknown (type : UInt16) (data : Bytes)
  deriving DecidableEq, Repr

namespace StationEntry

/-- The entry of a record that has the right size for its type. Byte counters come in 32 and in
64 bits; of a signal only the first octet counts. -/
def typed? (r : Record) : Option StationEntry :=
  let word := (LittleEndian.read? 4 r.data).map UInt32.ofNat
  let long := (LittleEndian.read? 8 r.data).map UInt64.ofNat
  match r.type with
  | StationEntryType.inactiveTime => word.map inactiveMs
  | StationEntryType.connectedTime => word.map connectedSecs
  | StationEntryType.rxBytes => word.map fun n => rxBytes n.toUInt64
  | StationEntryType.txBytes => word.map fun n => txBytes n.toUInt64
  | StationEntryType.rxBytes64 => long.map rxBytes
  | StationEntryType.txBytes64 => long.map txBytes
  | StationEntryType.rxPackets => word.map rxPackets
  | StationEntryType.txPackets => word.map txPackets
  | StationEntryType.txRetries => word.map txRetries
  | StationEntryType.txFailed => word.map txFailed
  | StationEntryType.beaconLoss => word.map beaconLoss
  | StationEntryType.signal => r.data.head?.map fun b => signalDbm b.toInt8
  | _ => none

/-- The entry of a record. -/
def ofRecord (r : Record) : StationEntry :=
  (typed? r).getD (unknown r.type r.data)

end StationEntry

end NeighborAwareness
