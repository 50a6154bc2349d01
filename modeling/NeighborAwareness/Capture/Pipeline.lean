import NeighborAwareness.Capture.Event
import NeighborAwareness.Capture.Radiotap
import NeighborAwareness.Capture.Sighting
import NeighborAwareness.Element
import NeighborAwareness.Frame.Header

/-!
# Classifying captured frames

Each packet that a monitor captures is a radiotap header and a frame. Frames sent by this host are
dropped, the attributes of neighbour awareness action frames are surfaced one by one, beacons go
into the table of sightings, and the rest is ignored. No packet stops the capture.

## Main definitions

* `FrameOutcome` : what a packet turned out to be.
* `Pipeline` : the radio and the own addresses of one capture.
* `Pipeline.frame?` : the frame of a packet, without radiotap header and checksum.
* `Pipeline.process` : the outcome of a packet, its events and the table afterwards.
* `Pipeline.process?` : the same with a check that every part of the packet is in range.
-/

namespace NeighborAwareness

/-- What a captured packet turned out to be. -/
inductive FrameOutcome where
  /-- The radiotap header or the management header does not decode. -/
  | undecodable
  /-- This host sent it. -/
  | echo
  /-- An action frame with so many attributes. -/
  | attributes (count : Nat)
  /-- An action frame whose attributes are no element list. -/
  | malformed
  /-- A beacon, the first of its transmitter or a further one. -/
  | beacon (first : Bool)
  | ignored
  deriving DecidableEq, Repr

/-- One capture: the radio of its monitor interface and the addresses of this host. -/
structure Pipeline where
  radio : UInt32
  own : List Address
  deriving DecidableEq, Repr

/-- What comes of one packet. -/
structure Verdict where
  outcome : FrameOutcome
  events : List CaptureEvent
  notes : List Note
  deriving DecidableEq, Repr

namespace Pipeline

/-- Octets of the checksum at the end of a frame. -/
def checksumLength : Nat := 4

/-- The frame of a packet, without radiotap header and checksum. -/
def frame? (packet : Bytes) : Option Bytes :=
  match RadiotapHeader.ofBytes? packet with
  | none => none
  | some header =>
    let frame := packet.drop header.length
    some (if header.checksum then frame.take (frame.length - checksumLength) else frame)

/-- An outcome that leaves no other trace. -/
def silent (outcome : FrameOutcome) : Verdict :=
  { outcome, events := [], notes := [] }

/-- Surfaces the attributes in the rest of an action frame, all or none. -/
def surface (p : Pipeline) (transmitter : Address) (attributes : Bytes) (time : Nat) : Verdict :=
  match ElementList.ofBytes attributes with
  | .error failure =>
    { outcome := .malformed, events := [], notes := [.frameDropped transmitter failure] }
  | .ok list =>
    let events := list.toList.map fun e =>
      CaptureEvent.attribute transmitter e.id e.data p.radio time
    { outcome := .attributes events.length, events, notes := [] }

/-- Classifies a packet captured at `time`. -/
def process (p : Pipeline) (sightings : Sightings) (packet : Bytes) (time : Nat) :
    Verdict × Sightings :=
  match frame? packet with
  | none => (silent .undecodable, sightings)
  | some frame =>
    match FrameHeader.ofBytes? frame with
    | none => (silent .undecodable, sightings)
    | some header =>
      if header.transmitter ∈ p.own then (silent .echo, sightings)
      else
        let body := frame.drop Frame.headerLength
        match header.kind with
        | .action =>
          if Frame.isNeighborAction body then
            let attributes := body.drop Frame.actionBody.length
            (p.surface header.transmitter attributes time, sightings)
          else (silent .ignored, sightings)
        | .beacon =>
          let (first, sightings) := sightings.observe header.transmitter time
          let events := if first then [.beaconSighted header.transmitter time] else []
          ({ outcome := .beacon first, events, notes := [] }, sightings)
        | .other _ _ => (silent .ignored, sightings)

/-! ### With a check of every range

The program takes parts of packets by their ranges, and a range beyond the end would stop it. The
same classification again, which gives nothing when a range is beyond the end. -/

variable (p : Pipeline) (sightings : Sightings) (time : Nat)

/-- Surfaces the attributes in the rest of an action frame: one walk checks them, another one hands
them out. -/
def surface? (transmitter : Address) (attributes : Bytes) : Option Verdict := do
  let (_, failure) ← ElementList.walk? attributes
  match failure with
  | some failure =>
    return { outcome := .malformed, events := [], notes := [.frameDropped transmitter failure] }
  | none =>
    let (elements, _) ← ElementList.walk? attributes
    let events := elements.map fun e => .attribute transmitter e.id e.data p.radio time
    return { outcome := .attributes events.length, events, notes := [] }

/-- Classifies a frame by its parts. -/
def classify? (frame : Bytes) : Option (Verdict × Sightings) := do
  match ← FrameHeader.read? frame with
  | none => return (silent .undecodable, sightings)
  | some header =>
    if header.transmitter ∈ p.own then return (silent .echo, sightings)
    else
      let body ← Bytes.slice? frame Frame.headerLength frame.length
      match header.kind with
      | .action =>
        if Frame.isNeighborAction body then
          let attributes ← Bytes.slice? body Frame.actionBody.length body.length
          let verdict ← p.surface? time header.transmitter attributes
          return (verdict, sightings)
        else return (silent .ignored, sightings)
      | .beacon =>
        let (first, sightings) := sightings.observe header.transmitter time
        let events := if first then [.beaconSighted header.transmitter time] else []
        return ({ outcome := .beacon first, events, notes := [] }, sightings)
      | .other _ _ => return (silent .ignored, sightings)

/-- Classifies a packet by its parts; a radiotap header that is longer than the packet is looked
for, and is no error. -/
def process? (packet : Bytes) : Option (Verdict × Sightings) :=
  match RadiotapHeader.ofBytes? packet with
  | none => some (silent .undecodable, sightings)
  | some header =>
    match Bytes.slice? packet header.length packet.length with
    | none => some (silent .undecodable, sightings)
    | some frame => do
      let frame ←
        if header.checksum then Bytes.slice? frame 0 (frame.length - checksumLength) else some frame
      p.classify? sightings time frame

end Pipeline

end NeighborAwareness
