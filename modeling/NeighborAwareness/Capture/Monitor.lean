import NeighborAwareness.Capture.Collector
import NeighborAwareness.Host.Basic
import NeighborAwareness.Text.Utf8

/-!
# Monitor sockets

A monitor socket captures the frames of one monitor interface. The packet filter is attached before
the socket is bound, so that no unfiltered frame is queued.

## Main definitions

* `Monitor.attach` : opens the socket of an interface.
* `Monitor.receive` : the next captured packet.
* `Monitor.collect` : processes packets until the capture ends.

## Left out

Each monitor is read in a thread of its own. What the threads share is in `Collector`, and packets
of different threads are processed in some order, one at a time.
-/

namespace NeighborAwareness

/-- The open socket of a monitor interface. -/
structure Monitor where
  ifname : String
  socket : Socket
  deriving DecidableEq, Repr

namespace Monitor

/-- Octets of the largest packet that is captured; longer ones are cut. -/
def maxPacket : Nat := 8192

/-! ### Opening -/

/-- Where the first NUL octet of a name stands. -/
def nulPosition? (name : String) : Option Nat :=
  (Utf8.encode name).findIdx? (· == 0)

/-- Attaches the packet filter. -/
def attachFilter (h : Host) (ifname : String) (s : Socket) : Except Failure Socket × Host :=
  let program := PacketFilter.networkFilter.map FilterInstruction.words
  match h.setOption s (.attachFilter s.number program) with
  | (.ok (), s, h) => (.ok s, h)
  | (.error failure, _, h) => (.error (.of (.filterRejected ifname failure.message)), h)

/-- Binds the socket to the interface with this index. -/
def bindTo (h : Host) (ifname : String) (index : UInt32) (s : Socket) :
    Except Failure Monitor × Host :=
  match h.bind s (.packet SystemCall.allProtocols index.toInt32) with
  | (.ok (), h) => (.ok ⟨ifname, s⟩, h)
  | (.error failure, h) => (.error (failure.under (.bindingPacketSocket ifname)), h)

/-- Opens the socket of a monitor interface. -/
def attach (h : Host) (ifname : String) : Except Failure Monitor × Host :=
  match nulPosition? ifname with
  | some position => (.error ((Failure.of (.nulOctet position)).under .nameHoldsNul), h)
  | none =>
    let (index, h) := h.resolve ifname
    if index = 0 then (.error (.of (.unresolvedInterface ifname)), h)
    else
      match h.openSocket SystemCall.packetFamily SystemCall.rawType
          SystemCall.allProtocols.toNat with
      | (.error failure, h) => (.error (failure.under .creatingPacketSocket), h)
      | (.ok s, h) =>
        match attachFilter h ifname s with
        | (.error failure, h) => (.error failure, h)
        | (.ok s, h) => bindTo h ifname index s

/-! ### Reading -/

/-- The answers that are left, without interruptions at their front. -/
def uninterrupted (reads : List Reading) : List Reading :=
  reads.dropWhile (· == .failed Errno.interrupted)

/-- The next packet. Interrupted reads are repeated, any other error ends the capture. -/
def receive (m : Monitor) : Except Failure Bytes × Monitor :=
  let waiting := { m.socket.script with reads := uninterrupted m.socket.script.reads }
  let (reading, socket) := { m.socket with script := waiting }.receive Errno.networkDown
  let packet := match reading with
    | .data octets => .ok (octets.take maxPacket)
    | .failed number => .error ((Failure.of (.system number)).under (.captureClosed m.ifname))
  (packet, { m with socket })

theorem length_reads_receive {m next : Monitor} {packet : Bytes}
    (h : m.receive = (.ok packet, next)) :
    next.socket.script.reads.length < m.socket.script.reads.length := by
  simp only [receive, Socket.receive, Prod.mk.injEq] at h
  obtain ⟨hpacket, rfl⟩ := h
  have hle : (uninterrupted m.socket.script.reads).length ≤ m.socket.script.reads.length :=
    (List.dropWhile_sublist _).length_le
  cases hreads : uninterrupted m.socket.script.reads with
  | nil => simp [hreads] at hpacket
  | cons reading rest =>
    rw [hreads] at hle
    simp only [List.tail_cons]
    simp only [List.length_cons] at hle
    omega

/-- Processes packets until the capture ends. The clock gives the time for one packet after the
other. The answer is why the capture ended, each packet with what came of it, and what the captures
share afterwards. -/
def collect (m : Monitor) (p : Pipeline) (c : Collector) (clock : Nat → Nat) :
    Failure × List (Capture × Verdict) × Collector :=
  match h : m.receive with
  | (.error failure, _) => (failure, [], c)
  | (.ok packet, next) =>
    have := length_reads_receive h
    let (verdict, c) := c.capture p packet (clock 0)
    let (failure, log, c) := next.collect p c fun n => clock (n + 1)
    (failure, (⟨p, packet, clock 0⟩, verdict) :: log, c)
termination_by m.socket.script.reads.length

/-- The capture while the clock stands still and events are told at once: why it ended, the verdicts
on all packets before, and the table afterwards. -/
def run (m : Monitor) (p : Pipeline) (sightings : Sightings) (time : Nat) :
    Failure × List Verdict × Sightings :=
  let (failure, log, c) := m.collect p ⟨sightings, none⟩ fun _ => time
  (failure, log.map Prod.snd, c.sightings)

end Monitor

end NeighborAwareness
