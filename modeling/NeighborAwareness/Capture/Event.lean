import NeighborAwareness.Note

/-!
# Capture events

What captures tell the rest of the program, and the bounded queue that carries it. Captures must
not wait, so the queue refuses what it has no room for.

The receiving end may close the queue, which then takes no more events, and go on taking those that
are waiting. It may also go away, and then those are lost.

## Main definitions

* `CaptureEvent` : an attribute of a peer, or the first beacon of one.
* `EventQueue` : events waiting for the receiving end.
* `EventQueue.offer` : what captures do to a queue.
* `EventQueue.drain`, `EventQueue.close`, `EventQueue.abandon` : what the receiving end does.

## Assumptions

The queue is a bounded channel of the `tokio` library, version 1. Offering never waits; a closed
queue is reported as closed, also when it is full. The library has no channels of capacity zero,
which would always be full.
-/

namespace NeighborAwareness

/-- What a capture tells the rest of the program. Times are microseconds since the Unix epoch. -/
inductive CaptureEvent where
  /-- An attribute in an action frame of `transmitter`, captured on `radio`. -/
  | attribute (transmitter : Address) (id : UInt8) (data : Bytes) (radio : UInt32) (time : Nat)
  /-- The first beacon from `transmitter`. -/
  | beaconSighted (transmitter : Address) (time : Nat)
  deriving DecidableEq, Repr

/-- What the receiving end of a queue is up to. -/
inductive ReceivingEnd where
  | listening
  /-- It has closed the queue, and takes what is still waiting. -/
  | closing
  | gone
  deriving DecidableEq, Repr

/-- A first-in first-out queue of limited size. -/
structure EventQueue where
  capacity : Nat
  waiting : List CaptureEvent
  receiver : ReceivingEnd
  deriving DecidableEq, Repr

namespace EventQueue

/-- An open queue without events. -/
def ofCapacity (capacity : Nat) : EventQueue :=
  ⟨capacity, [], .listening⟩

/-- Whether the queue takes no more events. -/
def closed (q : EventQueue) : Bool :=
  q.receiver != .listening

/-- Adds an event, or drops it with a note when the queue is closed or there is no room. -/
def offer (q : EventQueue) (event : CaptureEvent) : EventQueue × List Note :=
  if q.closed then (q, [.queueClosed])
  else if q.waiting.length < q.capacity then ({ q with waiting := q.waiting ++ [event] }, [])
  else (q, [.queueFull])

/-- Offers events one after the other. -/
def offerAll (q : EventQueue) : List CaptureEvent → EventQueue × List Note
  | [] => (q, [])
  | event :: rest =>
    let (q, noted) := q.offer event
    let (q, more) := q.offerAll rest
    (q, noted ++ more)

/-- Takes up to `n` events out at the receiving end. -/
def drain (q : EventQueue) (n : Nat) : List CaptureEvent × EventQueue :=
  (q.waiting.take n, { q with waiting := q.waiting.drop n })

/-- The receiving end closes the queue. What is waiting can still be taken out. -/
def close (q : EventQueue) : EventQueue :=
  { q with receiver := if q.receiver = .gone then .gone else .closing }

/-- The receiving end goes away, with all that was waiting. -/
def abandon (q : EventQueue) : EventQueue :=
  { q with waiting := [], receiver := .gone }

end EventQueue

end NeighborAwareness
