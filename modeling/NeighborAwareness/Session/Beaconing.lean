import NeighborAwareness.Session.Basic

/-!
# Periodic beacons

A session sends a beacon at once and then every period. A beacon that fails or is suppressed is
simply followed by the next. When a beacon begins more than five milliseconds behind its time, the
next one is due a full period after it began, so that beacons never come in bursts. This is how the
timer delays ticks that it missed; it takes a tick to be on time up to five milliseconds.

The timer waits for each attempt to be over. Other things may be sent in between, and then an
attempt may have to wait for the session.

## Main definitions

* `Beaconing` : the period and when the next beacon is due.
* `Beaconing.next` : when the beacon after one that began at some time is due.
* `BeaconAttempt`, `Beaconing.attempt` : one beacon.
* `Beaconing.run` : all beacons up to some time, while nothing else is sent.
* `Ticker`, `Ticker.run` : beacons in the course of other things.

## Main results

* `Beaconing.lt_due_next` : the next beacon is due later than the one before.

## Assumptions

The timer is an interval of the `tokio` library, version 1, that delays missed ticks. Its first tick
comes at once. Its resolution of a millisecond is left out, and so is the thread that a send takes
place in.
-/

namespace NeighborAwareness

/-- Periodic beacons. Times are microseconds by the clock of the link. -/
structure Beaconing where
  period : Nat
  sync : Bool
  /-- When the next beacon is due. -/
  due : Nat
  period_pos : 0 < period

/-- An attempt to send a beacon. -/
structure BeaconAttempt where
  due : Nat
  began : Nat
  ended : Nat
  result : Except Failure Unit
  sent : List Transmission

namespace Beaconing

/-- A beacon that begins later than this after its time moves those that follow. -/
def lateness : Nat := 5000

/-- Beacons from `now` on, nothing for a period of zero. -/
def start? (period : Nat) (sync : Bool) (now : Nat) : Option Beaconing :=
  if h : 0 < period then some ⟨period, sync, now, h⟩ else none

/-- The beacons that follow one that began at `began`. -/
def next (b : Beaconing) (began : Nat) : Beaconing :=
  { b with due := (if b.due + lateness < began then began else b.due) + b.period }

theorem lt_due_next (b : Beaconing) (began : Nat) : b.due < (b.next began).due := by
  have h := b.period_pos
  simp only [next]
  split <;> omega

/-- Attempts the next beacon at `time`, or as soon as the link is free; a failure is noted. -/
def attempt (b : Beaconing) (time : Nat) (s : Session) (l : Link) :
    BeaconAttempt × Beaconing × Session × Link :=
  let ready := l.waitUntil time
  let (result, s, after) := s.sendBeacon ready b.sync
  let left := match result with
    | .ok () => after
    | .error failure => after.noted [.beaconFailed s.interface.name failure]
  (⟨b.due, time, left.clock, result, ready.transmissions left⟩, b.next time, s, left)

/-- Sends all beacons that begin no later than `last`, as soon as they are due. -/
def run (b : Beaconing) (s : Session) (l : Link) (last : Nat) : Session × Link :=
  if max l.clock b.due ≤ last then
    match h : b.attempt (max l.clock b.due) s l with
    | (_, after, session, link) =>
      have later : b.due < after.due := by
        obtain rfl : b.next _ = after := congrArg (·.2.1) h
        exact b.lt_due_next _
      after.run session link last
  else (s, l)
termination_by last + 1 - b.due
decreasing_by omega

end Beaconing

/-! ### In the course of other things -/

/-- Periodic beacons of which any number were attempted. -/
structure Ticker where
  beaconing : Beaconing
  /-- When the last attempt was over, if there was one. -/
  freed : Option Nat

namespace Ticker

/-- When the next attempt begins if it is `late`. The first begins when it is due. -/
def firing (t : Ticker) (late : Nat) : Nat :=
  match t.freed with
  | none => t.beaconing.due
  | some freed => max freed t.beaconing.due + late

/-- Attempts the next beacon. -/
def attempt (t : Ticker) (late : Nat) (s : Session) (l : Link) :
    BeaconAttempt × Ticker × Session × Link :=
  let (x, beaconing, s, l) := t.beaconing.attempt (t.firing late) s l
  (x, ⟨beaconing, some x.ended⟩, s, l)

/-- What happens to a session that sends beacons. -/
inductive Move where
  /-- The next beacon is attempted. -/
  | tick (late : Nat)
  /-- Something else is sent after some time. -/
  | send (wait : Nat) (operation : Session.Operation)
  /-- A transmit status arrives. -/
  | status (arrived : Nat)
  deriving DecidableEq, Repr

/-- The attempts among some moves, and what is left after these. -/
def run (t : Ticker) (s : Session) (l : Link) :
    List Move → List BeaconAttempt × Ticker × Session × Link
  | [] => ([], t, s, l)
  | .tick late :: moves =>
    let (x, t, s, l) := t.attempt late s l
    let (attempts, left) := t.run s l moves
    (x :: attempts, left)
  | .send wait operation :: moves =>
    let (_, s, l) := operation.perform s (l.waitUntil (l.clock + wait))
    t.run s l moves
  | .status arrived :: moves => t.run (s.status arrived).1 l moves

end Ticker

end NeighborAwareness
