import NeighborAwareness.Directory.Keyed
import NeighborAwareness.Nl80211.Event
import NeighborAwareness.Note

/-!
# Interfaces

An enumeration of the interfaces is split into monitors, by radio, and all others.

## Main definitions

* `Interface` : an interface.
* `Interface.ofRow?` : the interface that a message describes.
* `Interface.ofRows` : the interfaces of an enumeration, by index.
* `Partition`, `Partition.ofInterfaces` : monitors and others.
-/

namespace NeighborAwareness

/-- An interface. -/
structure Interface where
  index : UInt32
  name : String
  address : Address
  /-- The radio it belongs to. -/
  phy : UInt32
  /-- The number of the wireless device. -/
  device : UInt64
  type : InterfaceType
  /-- The operating frequency in MHz, when it is on a channel. -/
  frequency : Option UInt32
  deriving DecidableEq, Repr

namespace Interface

/-- An interface of which nothing is known. -/
def blank : Interface :=
  ⟨0, "", .zero, 0, 0, .unspecified, none⟩

/-- What one attribute says about an interface. -/
def learn (i : Interface) : Attribute → Interface
  | .ifindex index => { i with index }
  | .ifname name => { i with name }
  | .mac address => { i with address }
  | .wiphy phy => { i with phy }
  | .wdev device => { i with device }
  | .iftype type => { i with type }
  | .wiphyFreq mhz => { i with frequency := some mhz }
  | _ => i

/-- The interface that a message describes, nothing for a device without an index. -/
def ofRow? (row : List Attribute) : Option Interface :=
  if (row.findSome? Attribute.ifindex?).isSome then some (row.foldl learn blank) else none

/-- Whether it is a monitor. -/
def isMonitor (i : Interface) : Bool :=
  i.type == .monitor

/-- The interfaces that messages describe, in the order of their indexes; messages with equal ones
keep their order. Devices without an index are noted. -/
def ofRows (rows : List (List Attribute)) : List Interface × List Note :=
  let found := rows.filterMap ofRow?
  let skipped := rows.filter fun row => (ofRow? row).isNone
  (found.mergeSort fun a b => a.index ≤ b.index, skipped.map fun _ => .skippedDevice)

end Interface

/-- Interfaces by role. -/
structure Partition where
  active : List Interface
  /-- The monitors by radio. -/
  monitors : Keyed (List Interface)
  deriving DecidableEq, Repr

namespace Partition

/-- No interface at all. -/
def empty : Partition :=
  ⟨[], []⟩

/-- The partition with one more interface. -/
def add (p : Partition) (i : Interface) : Partition :=
  if i.isMonitor then
    { p with monitors := p.monitors.alter i.phy fun group => group.getD [] ++ [i] }
  else { p with active := p.active ++ [i] }

/-- Interfaces by role, in the order given. -/
def ofInterfaces (interfaces : List Interface) : Partition :=
  interfaces.foldl add empty

/-- All interfaces, monitors last. -/
def all (p : Partition) : List Interface :=
  p.active ++ p.monitors.values.flatten

/-- The first interface with an index. -/
def find? (p : Partition) (index : UInt32) : Option Interface :=
  p.all.find? fun i => i.index == index

end Partition

end NeighborAwareness
