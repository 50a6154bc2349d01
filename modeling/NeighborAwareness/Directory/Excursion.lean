import NeighborAwareness.Note

/-!
# Excursions

A radio may be asked to stay on another channel for a while. One such excursion is on record at a
time: a request opens the record, the kernel's start event stamps it, and the end closes it. An
excursion that somebody else asked for is recorded when it starts.

## Main definitions

* `Excursion` : the record.
* `ExcursionTracker` : the record, if there is one, with what happens to it: `requested`,
  `accepted`, `rejected`, `started`, `finished`.
-/

namespace NeighborAwareness

/-- The record of one excursion. Times are microseconds by the clock of the program. -/
structure Excursion where
  /-- When it was asked for, or when the start of an excursion of somebody else was seen. -/
  requested : Nat
  started : Option Nat
  frequency : UInt32
  /-- How long the radio is to stay, in milliseconds. -/
  duration : Nat
  cookie : Option UInt64
  deriving DecidableEq, Repr

/-- The time from the request to the start. -/
def Excursion.latency? (e : Excursion) : Option Nat :=
  e.started.map fun started => started - e.requested

/-- The excursion on record. -/
structure ExcursionTracker where
  pending : Option Excursion
  deriving DecidableEq, Repr

namespace ExcursionTracker

/-- Nothing on record. -/
def empty : ExcursionTracker :=
  ⟨none⟩

/-- The note that the record, if there is one, makes way. -/
def replaced (t : ExcursionTracker) : List Note :=
  match t.pending with
  | some e => [.excursionReplaced e.frequency]
  | none => []

/-- A request is about to be sent. -/
def requested (t : ExcursionTracker) (now : Nat) (frequency : UInt32) (duration : Nat) :
    ExcursionTracker × List Note :=
  (⟨some ⟨now, none, frequency, duration, none⟩⟩, t.replaced)

/-- The kernel accepted the request; a cookie already known stays. -/
def accepted (t : ExcursionTracker) (cookie : Option UInt64) : ExcursionTracker :=
  ⟨t.pending.map fun e => { e with cookie := e.cookie.or cookie }⟩

/-- The request failed, so nothing will start. -/
def rejected (_ : ExcursionTracker) : ExcursionTracker :=
  empty

/-- Whether a start event is about the record: it has not started, and its cookie is unknown or
that of the event. -/
def isFor (e : Excursion) (cookie : Option UInt64) : Bool :=
  e.started.isNone && (e.cookie.isNone || e.cookie == cookie)

/-- A start event. It stamps the record it is about, or replaces a record it is not about. -/
def started (t : ExcursionTracker) (now : Nat) (frequency : UInt32) (duration : Nat)
    (cookie : Option UInt64) : ExcursionTracker × List Note :=
  match t.pending.filter (isFor · cookie) with
  | some e =>
    (⟨some { e with started := some now, frequency, duration, cookie := cookie.or e.cookie }⟩, [])
  | none => (⟨some ⟨now, some now, frequency, duration, cookie⟩⟩, t.replaced)

/-- The excursion ended: the record taken. -/
def finished (t : ExcursionTracker) : Option Excursion × ExcursionTracker × List Note :=
  match t.pending with
  | some e => (some e, empty, [.excursionEnded e.frequency])
  | none => (none, empty, [.excursionEndedUnrecorded])

end ExcursionTracker

end NeighborAwareness
