import NeighborAwareness.Directory.Excursion
import NeighborAwareness.Directory.Interface
import NeighborAwareness.Directory.Radio
import NeighborAwareness.Directory.Station
import NeighborAwareness.Link

/-!
# The directory

The directory asks for radios, interfaces and stations, and for changes to them. It remembers the
interfaces of its last enumeration.

## Main definitions

* `Directory` : the interfaces last enumerated.
* `Directory.listRadios`, `Directory.listInterfaces`, `Directory.stations` : enumerations.
* `Directory.interface` : an interface of the last enumeration.
* `Directory.createMonitor`, `Directory.deleteInterface`, `Directory.registerFrames`,
  `Directory.remainOnChannel` : changes.
-/

namespace NeighborAwareness

/-- The interfaces last enumerated. -/
structure Directory where
  partition : Partition
  deriving DecidableEq, Repr

namespace Directory

/-- Nothing enumerated yet. -/
def empty : Directory :=
  ⟨.empty⟩

/-! ### Enumerations -/

/-- The radios, in ascending order. -/
def listRadios (l : Link) : Except Failure (List Radio) × Link :=
  match l.execute .getRadio [.splitWiphyDump] true .newRadio with
  | (.error failure, l) => (.error failure, l)
  | (.ok rows, l) =>
    let (radios, notes) := Radio.ofRows rows
    (.ok radios, l.noted notes)

/-- The interfaces, by index. A failed enumeration leaves the directory as it was. -/
def listInterfaces (d : Directory) (l : Link) :
    Except Failure (List Interface) × Directory × Link :=
  match l.execute .getInterface [] true .newInterface with
  | (.error failure, l) => (.error failure, d, l)
  | (.ok rows, l) =>
    let (interfaces, notes) := Interface.ofRows rows
    (.ok interfaces, ⟨.ofInterfaces interfaces⟩, l.noted notes)

/-- An interface of the last enumeration. -/
def interface (d : Directory) (index : UInt32) : Except Failure Interface :=
  match d.partition.find? index with
  | some i => .ok i
  | none => .error (.of (.unknownInterface index))

/-- The stations that an interface knows. -/
def stations (l : Link) (i : Interface) : Except Failure (List Station) × Link :=
  match l.execute .getStation [.ifindex i.index] true .newStation with
  | (.error failure, l) => (.error failure, l)
  | (.ok rows, l) => (.ok (rows.map Station.ofRow), l)

/-! ### Changes -/

/-- Creates a monitor interface on a radio. A name that is taken is not treated specially. -/
def createMonitor (l : Link) (phy : UInt32) (name : String) : Except Failure Interface × Link :=
  let context := Cause.createFailed name phy
  match l.execute .newInterface [.ifname name, .wiphy phy, .iftype .monitor] false
      .newInterface with
  | (.error failure, l) => (.error (failure.under context), l)
  | (.ok rows, l) =>
    match rows.findSome? Interface.ofRow? with
    | some i => (.ok i, l)
    | none => (.error ((Failure.of .noInterfaceInReply).under context), l)

/-- Deletes an interface. -/
def deleteInterface (l : Link) (index : UInt32) : Except Failure Unit × Link :=
  match l.execute .deleteInterface [.ifindex index] false .deleteInterface with
  | (.error failure, l) => (.error failure, l)
  | (.ok _, l) => (.ok (), l)

/-- Asks for received frames of a type that begin with `front` to be delivered as events. -/
def registerFrames (l : Link) (i : Interface) (control : UInt16) (front : Bytes) :
    Except Failure Unit × Link :=
  match l.subscribe .registerFrame
      [.ifindex i.index, .wdev i.device, .frameType control, .frameMatch front] with
  | (.error failure, l) => (.error failure, l)
  | (.ok _, l) => (.ok (), l)

/-- Asks the radio of an interface to stay on a channel. The request is on record before it is
sent, so that its events find it. The answer is the cookie of the events. -/
def remainOnChannel (t : ExcursionTracker) (l : Link) (i : Interface)
    (frequency duration : UInt32) :
    Except Failure (Option UInt64) × ExcursionTracker × Link :=
  let (t, notes) := t.requested l.clock frequency duration.toNat
  let request : List Attribute :=
    [.ifindex i.index, .wdev i.device, .wiphyFreq frequency, .duration duration, .dontWaitForAck]
  match (l.noted notes).execute .remainOnChannel request false .remainOnChannel with
  | (.error failure, l) => (.error failure, t.rejected, l)
  | (.ok rows, l) =>
    let cookie := rows.flatten.findSome? Attribute.cookie?
    (.ok cookie, t.accepted cookie, l)

end Directory

end NeighborAwareness
