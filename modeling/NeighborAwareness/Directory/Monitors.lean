import NeighborAwareness.Directory.Basic
import NeighborAwareness.Text.Blank

/-!
# Monitors for all radios

Every radio that can have a monitor gets one that is up: monitors that exist are brought up, on
other radios one is created. What fails on one radio is noted and does not stop the others.

## Main definitions

* `Directory.monitorName` : the name of the monitor of a radio.
* `Directory.ensureMonitors` : monitors for all radios.
-/

namespace NeighborAwareness

namespace Directory

/-- The name of the monitor created on a radio: `base` with its trailing digits replaced by the
number of the radio. -/
def monitorName (base : String) (phy : UInt32) : String :=
  String.ofList (Text.dropEnd Char.isDigit base.toList) ++ toString phy.toNat

/-- Brings an interface up; a failure is noted. -/
def activate (created : Bool) (l : Link) (i : Interface) : Link :=
  match l.bringUp i.index with
  | (.ok (), l) => l
  | (.error failure, l) => l.noted [.bringUpFailed created i.name failure]

/-- Creates a monitor on a radio and brings it up; failures are noted. -/
def supply (base : String) (l : Link) (phy : UInt32) : Link :=
  match createMonitor l phy (monitorName base phy) with
  | (.ok i, l) => activate true l i
  | (.error failure, l) => l.noted [.creationFailed failure]

/-- Does what is missing on one radio, given the monitors that exist. -/
def ensure (base : String) (monitors : Keyed (List Interface)) (l : Link) (r : Radio) : Link :=
  match monitors.get? r.id with
  | some existing => existing.foldl (activate false) l
  | none =>
    if r.supportsMonitor then supply base l r.id
    else l.noted [.noMonitorSupport r.name]

/-- Makes sure that every radio that can have a monitor has one that is up, and enumerates the
interfaces again. -/
def ensureMonitors (d : Directory) (l : Link) (base : String) :
    Except Failure Partition × Directory × Link :=
  match listRadios l with
  | (.error failure, l) => (.error failure, d, l)
  | (.ok radios, l) =>
    match d.listInterfaces l with
    | (.error failure, d, l) => (.error failure, d, l)
    | (.ok _, d, l) =>
      let l := radios.foldl (ensure base d.partition.monitors) l
      match d.listInterfaces l with
      | (.error failure, d, l) => (.error failure, d, l)
      | (.ok _, d, l) => (.ok d.partition, d, l)

end Directory

end NeighborAwareness
