import NeighborAwareness.Capture.Pipeline

/-!
# Collecting what captures tell

All captures share one table of sightings, and their events go the same way: to a bounded queue, if
there is one, or else straight to whoever asked for the packet to be processed.

## Main definitions

* `Capture` : a packet, with the pipeline that it comes through.
* `Collector` : the table and the queue.
* `Collector.capture`, `Collector.captureAll` : processes a packet, or one after the other.
* `Collector.drain`, `Collector.close`, `Collector.abandon` : the receiving end of the queue.
* `Collector.receive?` : the same as `Collector.drain`, as long as there is a receiving end.
-/

namespace NeighborAwareness

/-- A packet captured at `time`, with the pipeline that it comes through. -/
structure Capture where
  pipeline : Pipeline
  packet : Bytes
  time : Nat
  deriving DecidableEq, Repr

/-- What all captures share. -/
structure Collector where
  sightings : Sightings
  queue : Option EventQueue
  deriving DecidableEq, Repr

namespace Collector

/-- Nothing captured yet. -/
def start (queue : Option EventQueue) : Collector :=
  ⟨.empty, queue⟩

/-- Processes a packet. Events that a queue takes, or drops with a note, are not in the verdict. -/
def capture (c : Collector) (p : Pipeline) (packet : Bytes) (time : Nat) : Verdict × Collector :=
  let (verdict, sightings) := p.process c.sightings packet time
  match c.queue with
  | none => (verdict, { c with sightings })
  | some queue =>
    let (queue, notes) := queue.offerAll verdict.events
    ({ verdict with events := [], notes := verdict.notes ++ notes }, ⟨sightings, some queue⟩)

/-- Processes packets one after the other: each of them with what came of it, and what the captures
share afterwards. -/
def captureAll (c : Collector) : List Capture → List (Capture × Verdict) × Collector
  | [] => ([], c)
  | x :: rest =>
    let (verdict, c) := c.capture x.pipeline x.packet x.time
    let (log, c) := c.captureAll rest
    ((x, verdict) :: log, c)

/-- Takes up to `n` events out of the queue. -/
def drain (c : Collector) (n : Nat) : List CaptureEvent × Collector :=
  match c.queue with
  | none => ([], c)
  | some queue =>
    let (events, queue) := queue.drain n
    (events, { c with queue := some queue })

/-- The receiving end closes the queue. -/
def close (c : Collector) : Collector :=
  { c with queue := c.queue.map EventQueue.close }

/-- The receiving end of the queue goes away. -/
def abandon (c : Collector) : Collector :=
  { c with queue := c.queue.map EventQueue.abandon }

/-- Takes up to `n` events out of the queue, unless there is nobody to take them. -/
def receive? (c : Collector) (n : Nat) : Option (List CaptureEvent × Collector) :=
  if c.queue.any (·.receiver != .gone) then some (c.drain n) else none

end Collector

end NeighborAwareness
