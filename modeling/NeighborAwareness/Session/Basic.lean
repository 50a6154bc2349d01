import NeighborAwareness.Config
import NeighborAwareness.Directory.Interface
import NeighborAwareness.Frame.Beacon
import NeighborAwareness.Frame.FollowUp
import NeighborAwareness.Link

/-!
# Sessions

A session sends the frames of one interface and keeps books about it. A send less than 100
milliseconds after the last one that succeeded is dropped and reported as success, so that sends
do not queue up in the kernel. A beacon and the discovery frame that goes with it count as one.

Transmit statuses do not say which frame they are about. A status is attributed to the latest send
if that one still waits for it.

## Main definitions

* `SendSettings` : frequency and dwell times.
* `SendBooks` : what a session knows about its sends.
* `Session` : a session, with `Session.sendRaw`, `Session.sendBeacon`, `Session.sendDiscovery`,
  `Session.sendFollowUp` and `Session.status`.
* `Session.Operation` : what a session may be asked to send.

## Left out

Several threads use a session, one at a time. It is assumed that none of them breaks off meanwhile;
what would become of the session then is left out.
-/

namespace NeighborAwareness

/-- Frequency in MHz and dwell times in milliseconds of the sends. -/
structure SendSettings where
  frequency : UInt32
  beaconDwell : UInt32
  discoveryDwell : UInt32
  followUpDwell : UInt32
  deriving DecidableEq, Repr

/-- The settings of a configuration. -/
def SendSettings.ofConfig (c : Config) : SendSettings :=
  ⟨c.frequency, c.beaconDwell, c.discoveryDwell, c.followUpDwell⟩

/-- What a session knows about its sends. Times are microseconds. -/
structure SendBooks where
  /-- When the last successful send began. -/
  lastSent : Option Nat
  /-- How long it took the link to accept it. -/
  lastSubmit : Option Nat
  lastSequence : Option UInt32
  /-- How many sends failed. The program counts in 64 bits, which stand for the same number as long
  as fewer than 2 ^ 64 sends failed. -/
  failures : Nat
  deriving DecidableEq, Repr

/-- Nothing sent yet. -/
def SendBooks.blank : SendBooks :=
  ⟨none, none, none, 0⟩

/-- The sending side of one interface. -/
structure Session where
  interface : Interface
  settings : SendSettings
  books : SendBooks
  /-- A send has succeeded whose status has not arrived. -/
  awaiting : Bool
  scratch : Scratch

namespace Session

/-- The shortest time between two sends, in microseconds. -/
def suppression : Nat := 100000

/-- A status later than this after the send is slow. -/
def slowStatus : Nat := 300000

/-- A send that the link took longer to accept is slow. -/
def slowSubmit : Nat := 5000

/-- The payload of the discovery frame that goes with a beacon. -/
def beaconPayload : Bytes := [0x01]

/-- A session that has sent nothing. -/
def start (interface : Interface) (settings : SendSettings) : Session :=
  ⟨interface, settings, .blank, false, .empty⟩

/-! ### Sending -/

/-- Whether a send now would be too close to the last one. -/
def isSuppressed (s : Session) (now : Nat) : Bool :=
  match s.books.lastSent with
  | some last => now - last < suppression
  | none => false

/-- The frame as it leaves an interface: with its address as the transmitter, if the frame is long
enough to have one. -/
def addressed (i : Interface) (frame : Bytes) : Bytes :=
  if Frame.sourceOffset + i.address.octets.length ≤ frame.length then
    frame.splice Frame.sourceOffset i.address.octets
  else frame

/-- The request to send a frame. -/
def request (s : Session) (frame : Bytes) (frequency dwell : UInt32) : List Attribute :=
  [.ifindex s.interface.index, .wdev s.interface.device, .wiphyFreq frequency, .offchannelTxOk,
   .duration dwell, .frame (addressed s.interface frame)]

/-- Hands a frame to the link and keeps the books. -/
def transmit (s : Session) (l : Link) (frame : Bytes) (frequency dwell : UInt32) :
    Except Failure Unit × Session × Link :=
  match l.send .frame (s.request frame frequency dwell) with
  | (.ok sequence, after) =>
    let books := { s.books with
      lastSent := some l.clock
      lastSubmit := some (after.clock - l.clock)
      lastSequence := some sequence }
    (.ok (), { s with books, awaiting := true }, after)
  | (.error failure, after) =>
    let books := { s.books with failures := s.books.failures + 1 }
    (.error failure, { s with books }, after.noted [.sendFailed s.interface.name failure])

/-- Does `send` unless it would be suppressed, which is noted and reported as success. -/
def unlessSuppressed (s : Session) (l : Link)
    (send : Session → Link → Except Failure Unit × Session × Link) :
    Except Failure Unit × Session × Link :=
  if s.isSuppressed l.clock then (.ok (), s, l.noted [.suppressed]) else send s l

/-- Transmits the frame that was put into the scratch memory, if it fitted. -/
def transmitBuilt (s : Session) (l : Link) (built : Except Failure (Nat × Scratch))
    (frequency dwell : UInt32) : Except Failure Unit × Session × Link :=
  match built with
  | .error failure => (.error failure, s, l)
  | .ok (length, scratch) =>
    { s with scratch }.transmit l (scratch.frame length) frequency dwell

/-- Sends a frame as it is, apart from its transmitter. -/
def sendRaw (s : Session) (l : Link) (frame : Bytes) (frequency dwell : UInt32) :
    Except Failure Unit × Session × Link :=
  s.unlessSuppressed l fun s l => s.transmit l frame frequency dwell

/-- Sends a discovery frame without asking whether it is too early. -/
def transmitDiscovery (s : Session) (l : Link) (payload : Bytes) (publish : Bool)
    (dwell : UInt32) : Except Failure Unit × Session × Link :=
  s.transmitBuilt l (s.scratch.putDiscovery s.interface.address payload publish)
    s.settings.frequency dwell

/-- Sends a beacon and, if that succeeds, the discovery frame that goes with it. -/
def sendBeacon (s : Session) (l : Link) (sync : Bool) : Except Failure Unit × Session × Link :=
  s.unlessSuppressed l fun s l =>
    let beacon := s.scratch.putBeacon s.interface.address sync l.wallSeconds
    match s.transmitBuilt l (.ok beacon) s.settings.frequency s.settings.beaconDwell with
    | (.error failure, s, l) => (.error failure, s, l)
    | (.ok (), s, l) => s.transmitDiscovery l beaconPayload true s.settings.discoveryDwell

/-- Sends a discovery frame. -/
def sendDiscovery (s : Session) (l : Link) (payload : Bytes) (publish : Bool) (dwell : UInt32) :
    Except Failure Unit × Session × Link :=
  s.unlessSuppressed l fun s l => s.transmitDiscovery l payload publish dwell

/-- Sends a follow-up to `receiver`, or to everybody. -/
def sendFollowUp (s : Session) (l : Link) (receiver : Option Address) (requestor : UInt8)
    (frequency : UInt32) (payload : Bytes) : Except Failure Unit × Session × Link :=
  s.unlessSuppressed l fun s l =>
    s.transmitBuilt l
      (s.scratch.putFollowUp s.interface.address (receiver.getD .broadcast) requestor payload)
      frequency s.settings.followUpDwell

/-- What a session may be asked to send. -/
inductive Operation where
  | raw (frame : Bytes) (frequency dwell : UInt32)
  | beacon (sync : Bool)
  | discovery (payload : Bytes) (publish : Bool) (dwell : UInt32)
  | followUp (receiver : Option Address) (requestor : UInt8) (frequency : UInt32) (payload : Bytes)
  deriving DecidableEq, Repr

/-- Asks a session for it. -/
def Operation.perform (s : Session) (l : Link) : Operation → Except Failure Unit × Session × Link
  | raw frame frequency dwell => s.sendRaw l frame frequency dwell
  | beacon sync => s.sendBeacon l sync
  | discovery payload publish dwell => s.sendDiscovery l payload publish dwell
  | followUp receiver requestor frequency payload =>
    s.sendFollowUp l receiver requestor frequency payload

/-! ### Statuses -/

/-- Whether a status now is slow for the last send. -/
def isSlow (s : Session) (now : Nat) : Bool :=
  let since := (s.books.lastSent.map fun last => now - last).getD 0
  since > slowStatus || s.books.lastSubmit.getD 0 > slowSubmit

/-- A transmit status arrives: what became of it. -/
def status (s : Session) (now : Nat) : Session × StatusFate :=
  if s.awaiting then
    ({ s with awaiting := false }, if s.isSlow now then .slow else .onTime)
  else (s, .unmatched)

end Session

end NeighborAwareness
