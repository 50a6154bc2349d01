import NeighborAwareness.Nl80211.Attribute

/-!
# Stations

What the kernel counts for each peer that an interface knows.
-/

namespace NeighborAwareness

/-- The counters of one peer; those that were not reported are missing. -/
structure Station where
  address : Address
  inactiveMs : Option UInt32
  connectedSecs : Option UInt32
  rxBytes : Option UInt64
  txBytes : Option UInt64
  rxPackets : Option UInt32
  txPackets : Option UInt32
  txRetries : Option UInt32
  txFailed : Option UInt32
  signalDbm : Option Int8
  deriving DecidableEq, Repr

namespace Station

/-- A peer of which nothing is known. -/
def blank : Station :=
  ⟨.zero, none, none, none, none, none, none, none, none, none⟩

/-- What one entry says about a peer; a later entry replaces an earlier one. -/
def count (s : Station) : StationEntry → Station
  | .inactiveMs n => { s with inactiveMs := some n }
  | .connectedSecs n => { s with connectedSecs := some n }
  | .rxBytes n => { s with rxBytes := some n }
  | .txBytes n => { s with txBytes := some n }
  | .rxPackets n => { s with rxPackets := some n }
  | .txPackets n => { s with txPackets := some n }
  | .txRetries n => { s with txRetries := some n }
  | .txFailed n => { s with txFailed := some n }
  | .signalDbm level => { s with signalDbm := some level }
  | .beaconLoss _ | .unknown _ _ => s

/-- What one attribute says about a peer. -/
def learn (s : Station) : Attribute → Station
  | .mac address => { s with address }
  | .stationInfo entries => entries.foldl count s
  | _ => s

/-- The peer that a message describes. -/
def ofRow (row : List Attribute) : Station :=
  row.foldl learn blank

end Station

end NeighborAwareness
