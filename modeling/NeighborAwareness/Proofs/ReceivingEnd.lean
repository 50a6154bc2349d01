import NeighborAwareness.Proofs.QueuedSightings

/-!
# Slow and absent receivers

Captures offer their events to a bounded queue and never wait for the receiving end. Whatever that
does, in the middle of a packet as well as between two of them, all packets are found to be the same
and the table of sightings ends up the same. What gets through are the events that find room, in
the order in which they were offered. When the receiving end only closes the queue, what is waiting
can still be taken out; if it goes away, what was waiting goes with it.

## Main definitions

* `EventQueue.move`, `EventQueue.trace` : moves of a queue, each with the queue as it was before.
* `EventQueue.taken`, `EventQueue.lost`, `EventQueue.offered`, `EventQueue.accepted` : what a trace
  tells of the events.
* `Schedule` : what the receiving end does, and when.
* `Collector.captureDuring`, `Collector.captureUnder` : packets captured under a schedule.

## Main results

* `EventQueue.Fits.balance`, `EventQueue.Fits.balance_trace` : where events go in one move and in
  all moves.
* `Collector.captureUnder_eq` : packets captured under a schedule, by what a recording sink gets.
* `Collector.captureUnder_idle` : packets captured while the receiving end does nothing.
* `Collector.receiving_end_cannot_disturb` : what a schedule changes and what it does not.
-/

namespace NeighborAwareness

/-- What the receiving end of a queue may do. -/
inductive Pull where
  | take (count : Nat)
  /-- It closes the queue and goes on taking what is waiting. -/
  | close
  /-- It goes away. -/
  | leave
  deriving DecidableEq, Repr

/-- What may happen to a queue. -/
inductive QueueMove where
  | offer (event : CaptureEvent)
  | pull (p : Pull)
  deriving DecidableEq, Repr

/-- The event that is offered in a move. -/
def QueueMove.event? : QueueMove → Option CaptureEvent
  | offer event => some event
  | pull _ => none

namespace EventQueue

/-- The queue after a move. -/
def move (q : EventQueue) : QueueMove → EventQueue
  | .offer event => (q.offer event).1
  | .pull (.take count) => (q.drain count).2
  | .pull .close => q.close
  | .pull .leave => q.abandon

/-- The queue after some moves. -/
def moveAll (q : EventQueue) (moves : List QueueMove) : EventQueue :=
  moves.foldl move q

/-- Moves one after the other, each with the queue as it was before. -/
def trace (q : EventQueue) : List QueueMove → List (QueueMove × EventQueue)
  | [] => []
  | m :: rest => (m, q) :: (q.move m).trace rest

/-- The events that were taken out. -/
def taken (log : List (QueueMove × EventQueue)) : List CaptureEvent :=
  log.flatMap fun
    | (.pull (.take count), q) => (q.drain count).1
    | _ => []

/-- The events that were waiting when the receiving end went away. -/
def lost (log : List (QueueMove × EventQueue)) : List CaptureEvent :=
  log.flatMap fun
    | (.pull .leave, q) => q.waiting
    | _ => []

/-- The events that were offered, each with the queue as it was then. -/
def offered (log : List (QueueMove × EventQueue)) : List (CaptureEvent × EventQueue) :=
  log.filterMap fun x => x.1.event?.map (·, x.2)

/-- The events that were not offered while `capacity` events were waiting or after the queue was
closed. -/
def accepted (capacity : Nat) (log : List (QueueMove × EventQueue)) : List CaptureEvent :=
  ((offered log).filter fun x => !x.2.closed && x.2.waiting.length != capacity).map Prod.fst

theorem trace_append (q : EventQueue) (front back : List QueueMove) :
    q.trace (front ++ back) = q.trace front ++ (q.moveAll front).trace back := by
  induction front generalizing q with
  | nil => rfl
  | cons m front ih => exact congrArg _ (ih (q.move m))

theorem moveAll_append (q : EventQueue) (front back : List QueueMove) :
    q.moveAll (front ++ back) = (q.moveAll front).moveAll back :=
  List.foldl_append

theorem map_fst_offered_trace (q : EventQueue) (moves : List QueueMove) :
    (offered (q.trace moves)).map Prod.fst = moves.filterMap QueueMove.event? := by
  induction moves generalizing q with
  | nil => rfl
  | cons m moves ih =>
    cases m with
    | offer event => exact congrArg (event :: ·) (ih _)
    | pull p => exact ih _

theorem moveAll_offer (q : EventQueue) (events : List CaptureEvent) :
    q.moveAll (events.map .offer) = (q.offerAll events).1 := by
  induction events generalizing q with
  | nil => rfl
  | cons event events ih => exact ih (q.offer event).1

/-! ### Where events go -/

/-- A queue holds no more than it can. -/
def Fits (q : EventQueue) : Prop :=
  q.waiting.length ≤ q.capacity

/-- The receiving end is gone, and nothing is left to be taken out. -/
structure Abandoned (q : EventQueue) : Prop where
  receiver : q.receiver = .gone
  waiting : q.waiting = []

variable {q : EventQueue}

theorem fits_ofCapacity (capacity : Nat) : (ofCapacity capacity).Fits :=
  Nat.zero_le _

theorem abandoned_abandon (q : EventQueue) : q.abandon.Abandoned :=
  ⟨rfl, rfl⟩

theorem Abandoned.closed (h : q.Abandoned) : q.closed = true := by
  rw [EventQueue.closed, h.receiver]
  rfl

theorem offer_of_room (hopen : q.closed = false) (hroom : q.waiting.length < q.capacity)
    (event : CaptureEvent) :
    (q.offer event).1 = { q with waiting := q.waiting ++ [event] } := by
  rw [offer, if_neg (ne_true_of_eq_false hopen), if_pos hroom]

theorem offer_of_no_room (h : q.closed = true ∨ q.waiting.length = q.capacity)
    (event : CaptureEvent) : (q.offer event).1 = q := by
  rw [offer]
  split
  · rfl
  · next hopen => rw [if_neg (Nat.not_lt.2 (Nat.le_of_eq (h.resolve_left hopen).symm))]

theorem capacity_move (q : EventQueue) (m : QueueMove) : (q.move m).capacity = q.capacity := by
  rcases m with event | _ | _ | _
  · rw [move, offer]
    split
    · rfl
    · split <;> rfl
  all_goals rfl

/-- In each move, what was waiting and what finds room is taken out, goes away with the receiving
end, or is waiting then. -/
theorem Fits.balance (h : q.Fits) (m : QueueMove) :
    taken [(m, q)] ++ lost [(m, q)] ++ (q.move m).waiting
      = q.waiting ++ accepted q.capacity [(m, q)] := by
  rcases m with event | count | _ | _
  · by_cases hfull : q.closed = true ∨ q.waiting.length = q.capacity
    · rw [move, offer_of_no_room hfull]
      rcases hfull with hclosed | hcapacity <;>
        simp [taken, lost, accepted, offered, QueueMove.event?, *]
    · rw [not_or, Bool.not_eq_true] at hfull
      rw [move, offer_of_room hfull.1 (Nat.lt_of_le_of_ne h hfull.2)]
      simp [taken, lost, accepted, offered, QueueMove.event?, hfull]
  · simp [taken, lost, accepted, offered, QueueMove.event?, move, drain]
  · simp [taken, lost, accepted, offered, QueueMove.event?, move, close]
  · simp [taken, lost, accepted, offered, QueueMove.event?, move, abandon]

/-- After a move, a queue holds no more than it can. -/
theorem Fits.move (h : q.Fits) (m : QueueMove) : (q.move m).Fits := by
  rcases m with event | count | _ | _
  · rw [EventQueue.move]
    by_cases hfull : q.closed = true ∨ q.waiting.length = q.capacity
    · rwa [offer_of_no_room hfull]
    · rw [not_or, Bool.not_eq_true] at hfull
      have hroom := Nat.lt_of_le_of_ne h hfull.2
      rw [offer_of_room hfull.1 hroom, Fits, List.length_append]
      exact hroom
  · exact Nat.le_trans (List.drop_sublist count q.waiting).length_le h
  · exact h
  · exact Nat.zero_le _

/-- An abandoned queue stays so. -/
theorem Abandoned.move (h : q.Abandoned) (m : QueueMove) : (q.move m).Abandoned := by
  rcases m with event | count | _ | _
  · rw [EventQueue.move, offer_of_no_room (.inl h.closed)]
    exact h
  · exact ⟨h.receiver, (congrArg (List.drop count) h.waiting).trans List.drop_nil⟩
  · exact ⟨if_pos h.receiver, h.waiting⟩
  · exact q.abandoned_abandon

theorem Abandoned.taken_trace (h : q.Abandoned) (moves : List QueueMove) :
    taken (q.trace moves) = [] := by
  induction moves generalizing q with
  | nil => rfl
  | cons m moves ih =>
    have hrest := ih (h.move m)
    rcases m with event | count | _ | _
    · exact hrest
    · have hnone : (q.drain count).1 = [] :=
        (congrArg (List.take count) h.waiting).trans List.take_nil
      exact (congrArg (· ++ _) hnone).trans hrest
    · exact hrest
    · exact hrest

theorem lost_trace_of_notMem {moves : List QueueMove} (h : .pull .leave ∉ moves) :
    lost (q.trace moves) = [] := by
  induction moves generalizing q with
  | nil => rfl
  | cons m moves ih =>
    obtain ⟨hm, hmoves⟩ := not_or.1 (mt List.mem_cons.2 h)
    have hrest := ih (q := q.move m) hmoves
    rcases m with event | count | _ | _
    · exact hrest
    · exact hrest
    · exact hrest
    · exact absurd rfl hm

/-- What was waiting at first and what has found room since is taken out, goes away with the
receiving end, or is still waiting, in this order. -/
theorem Fits.balance_trace (h : q.Fits) (moves : List QueueMove) :
    taken (q.trace moves) ++ lost (q.trace moves) ++ (q.moveAll moves).waiting
      = q.waiting ++ accepted q.capacity (q.trace moves) := by
  induction moves generalizing q with
  | nil => exact (List.append_nil _).symm
  | cons m moves ih =>
    have hstep := h.balance m
    have hrest := ih (h.move m)
    rw [q.capacity_move m] at hrest
    have htrace : q.trace (m :: moves) = [(m, q)] ++ (q.move m).trace moves := rfl
    have htaken : taken (q.trace (m :: moves))
        = taken [(m, q)] ++ taken ((q.move m).trace moves) := by
      rw [htrace, taken, List.flatMap_append, taken, taken]
    have hlost : lost (q.trace (m :: moves))
        = lost [(m, q)] ++ lost ((q.move m).trace moves) := by
      rw [htrace, lost, List.flatMap_append, lost, lost]
    have haccepted : accepted q.capacity (q.trace (m :: moves))
        = accepted q.capacity [(m, q)] ++ accepted q.capacity ((q.move m).trace moves) := by
      simp only [htrace, accepted, offered, List.filterMap_append, List.filter_append,
        List.map_append]
    -- Where something is lost, nothing is taken out later.
    have hcomm : taken ((q.move m).trace moves) ++ lost [(m, q)]
        = lost [(m, q)] ++ taken ((q.move m).trace moves) := by
      rcases m with event | count | _ | _
      · exact List.append_nil _
      · exact List.append_nil _
      · exact List.append_nil _
      · rw [EventQueue.move, q.abandoned_abandon.taken_trace moves, List.append_nil,
          List.nil_append]
    calc taken (q.trace (m :: moves)) ++ lost (q.trace (m :: moves))
          ++ (q.moveAll (m :: moves)).waiting
        = taken [(m, q)] ++ (taken ((q.move m).trace moves) ++ lost [(m, q)])
          ++ lost ((q.move m).trace moves) ++ ((q.move m).moveAll moves).waiting := by
          simp only [htaken, hlost, List.append_assoc]
          rfl
      _ = taken [(m, q)] ++ lost [(m, q)] ++ (taken ((q.move m).trace moves)
          ++ lost ((q.move m).trace moves) ++ ((q.move m).moveAll moves).waiting) := by
          simp only [hcomm, List.append_assoc]
      _ = taken [(m, q)] ++ lost [(m, q)] ++ (q.move m).waiting
          ++ accepted q.capacity ((q.move m).trace moves) := by
          rw [hrest, ← List.append_assoc]
      _ = q.waiting ++ accepted q.capacity (q.trace (m :: moves)) := by
          rw [hstep, haccepted, List.append_assoc]

end EventQueue

/-! ### Schedules -/

/-- What the receiving end does: `schedule i j` before event `j` of packet `i` is offered, or after
the last one of its events. -/
abbrev Schedule := Nat → Nat → List Pull

/-- Some events are offered, while the receiving end does `work j` before event `j`, or after the
last one. -/
def interleave (work : Nat → List Pull) : List CaptureEvent → List QueueMove
  | [] => (work 0).map .pull
  | event :: rest => (work 0).map .pull ++ .offer event :: interleave (fun j => work (j + 1)) rest

/-- The events of one packet after the other are offered under a schedule. -/
def Schedule.moves (schedule : Schedule) : List (List CaptureEvent) → List QueueMove
  | [] => []
  | events :: rest =>
    interleave (schedule 0) events ++ moves (fun i => schedule (i + 1)) rest

theorem filterMap_event?_pull (pulls : List Pull) :
    (pulls.map QueueMove.pull).filterMap QueueMove.event? = [] := by
  simp [QueueMove.event?]

/-- The events that are offered, between all that the receiving end does. -/
theorem filterMap_event?_interleave (work : Nat → List Pull) (events : List CaptureEvent) :
    (interleave work events).filterMap QueueMove.event? = events := by
  induction events generalizing work with
  | nil => exact filterMap_event?_pull (work 0)
  | cons event events ih =>
    rw [interleave, List.filterMap_append, filterMap_event?_pull, List.nil_append]
    exact congrArg (event :: ·) (ih _)

theorem Schedule.filterMap_event?_moves (schedule : Schedule) (batches : List (List CaptureEvent)) :
    (schedule.moves batches).filterMap QueueMove.event? = batches.flatten := by
  induction batches generalizing schedule with
  | nil => rfl
  | cons events rest ih =>
    rw [moves, List.filterMap_append, filterMap_event?_interleave, ih, List.flatten_cons]

theorem mem_of_pull_mem_interleave {work : Nat → List Pull} {events : List CaptureEvent} {p : Pull}
    (h : .pull p ∈ interleave work events) : ∃ j, p ∈ work j := by
  induction events generalizing work with
  | nil =>
    obtain ⟨_, hp, heq⟩ := List.mem_map.1 h
    exact ⟨0, QueueMove.pull.inj heq ▸ hp⟩
  | cons event events ih =>
    rcases List.mem_append.1 h with h | h
    · obtain ⟨_, hp, heq⟩ := List.mem_map.1 h
      exact ⟨0, QueueMove.pull.inj heq ▸ hp⟩
    · obtain ⟨j, hp⟩ := ih ((List.mem_cons.1 h).resolve_left (nomatch ·))
      exact ⟨j + 1, hp⟩

theorem Schedule.mem_of_pull_mem_moves {schedule : Schedule} {batches : List (List CaptureEvent)}
    {p : Pull} (h : .pull p ∈ schedule.moves batches) : ∃ i j, p ∈ schedule i j := by
  induction batches generalizing schedule with
  | nil => exact absurd h List.not_mem_nil
  | cons events rest ih =>
    rcases List.mem_append.1 h with h | h
    · exact ⟨0, mem_of_pull_mem_interleave h⟩
    · obtain ⟨i, j, hp⟩ := ih h
      exact ⟨i + 1, j, hp⟩

theorem interleave_idle (events : List CaptureEvent) :
    interleave (fun _ => []) events = events.map .offer := by
  induction events with
  | nil => rfl
  | cons event events ih => exact congrArg (QueueMove.offer event :: ·) ih

namespace Collector

/-- Processes a packet while the receiving end is at work: what the packet is found to be, what
happens to the queue, and the collector afterwards. -/
def captureDuring (c : Collector) (work : Nat → List Pull) (x : Capture) :
    FrameOutcome × List (QueueMove × EventQueue) × Collector :=
  let (verdict, sightings) := x.pipeline.process c.sightings x.packet x.time
  match c.queue with
  | none => (verdict.outcome, [], { c with sightings })
  | some queue =>
    let moves := interleave work verdict.events
    (verdict.outcome, queue.trace moves, ⟨sightings, some (queue.moveAll moves)⟩)

/-- What comes of some packets. -/
structure Course where
  outcomes : List FrameOutcome
  log : List (QueueMove × EventQueue)
  after : Collector

/-- Processes packets one after the other, while the receiving end keeps to a schedule. -/
def captureUnder (c : Collector) (schedule : Schedule) : List Capture → Course
  | [] => ⟨[], [], c⟩
  | x :: rest =>
    let (outcome, log, c) := c.captureDuring (schedule 0) x
    let course := c.captureUnder (fun i => schedule (i + 1)) rest
    ⟨outcome :: course.outcomes, log ++ course.log, course.after⟩

/-- The events waiting in the queue. -/
def waiting (c : Collector) : List CaptureEvent :=
  (c.queue.map EventQueue.waiting).getD []

/-- Packets under a schedule: they are found to be what they are without a queue, and the events
that a recording sink gets are offered, interleaved with what the receiving end does. -/
theorem captureUnder_eq (s : Sightings) (q : EventQueue) (schedule : Schedule)
    (captures : List Capture) :
    let recorded := (⟨s, none⟩ : Collector).captureAll captures
    let moves := schedule.moves (recorded.1.map (·.2.events))
    (⟨s, some q⟩ : Collector).captureUnder schedule captures
      = ⟨recorded.1.map (·.2.outcome), q.trace moves,
        ⟨recorded.2.sightings, some (q.moveAll moves)⟩⟩ := by
  induction captures generalizing s q schedule with
  | nil => rfl
  | cons x rest ih =>
    rw [captureUnder]
    dsimp only [captureDuring]
    rw [ih, captureAll, capture_of_queue_eq_none rfl]
    simp only [List.map_cons, Schedule.moves, EventQueue.trace_append, EventQueue.moveAll_append]

/-- While the receiving end does nothing, a packet is captured as usual. -/
theorem captureDuring_idle (c : Collector) (x : Capture) :
    let during := c.captureDuring (fun _ => []) x
    let found := c.capture x.pipeline x.packet x.time
    during.1 = found.1.outcome ∧ during.2.2 = found.2 := by
  obtain ⟨s, _ | q⟩ := c
  · exact ⟨rfl, rfl⟩
  · refine ⟨rfl, ?_⟩
    simp only [captureDuring, capture, interleave_idle, EventQueue.moveAll_offer]

theorem captureUnder_idle (c : Collector) (captures : List Capture) :
    let course := c.captureUnder (fun _ _ => []) captures
    let captured := c.captureAll captures
    course.outcomes = captured.1.map (·.2.outcome) ∧ course.after = captured.2 := by
  induction captures generalizing c with
  | nil => exact ⟨rfl, rfl⟩
  | cons x rest ih =>
    obtain ⟨houtcome, hafter⟩ := c.captureDuring_idle x
    rw [captureUnder, captureAll]
    dsimp only
    rw [houtcome, hafter]
    obtain ⟨houtcomes, hlast⟩ := ih (c.capture x.pipeline x.packet x.time).2
    exact ⟨congrArg (List.cons _) houtcomes, hlast⟩

/-- For any packets, and any two schedules of the receiving end: the packets are found to be the
same, namely what they are found to be without a queue, and so is the table afterwards. Under each
schedule, the events that are offered are those that a recording sink gets. As long as the receiving
end stays, be it that it closes the queue, those of them that were not offered while the queue was
full or after it was closed are the events that were taken out followed by those still waiting. If
it goes away, what was waiting then comes between. A schedule on which it does nothing gives what
captures make of the packets by themselves. -/
theorem receiving_end_cannot_disturb (capacity capacity' : Nat) (schedule schedule' : Schedule)
    (captures : List Capture) :
    let recorded := (start none).captureAll captures
    let captured := (start (some (.ofCapacity capacity))).captureAll captures
    let course := (start (some (.ofCapacity capacity))).captureUnder schedule captures
    let course' := (start (some (.ofCapacity capacity'))).captureUnder schedule' captures
    let idle := (start (some (.ofCapacity capacity))).captureUnder (fun _ _ => []) captures
    course.outcomes = course'.outcomes
      ∧ course.after.sightings = course'.after.sightings
      ∧ course.outcomes = recorded.1.map (·.2.outcome)
      ∧ course.after.sightings = recorded.2.sightings
      ∧ (EventQueue.offered course.log).map Prod.fst = recorded.1.flatMap (·.2.events)
      ∧ ((∀ i j, .leave ∉ schedule i j) →
        EventQueue.taken course.log ++ course.after.waiting
          = EventQueue.accepted capacity course.log)
      ∧ EventQueue.taken course.log ++ EventQueue.lost course.log ++ course.after.waiting
        = EventQueue.accepted capacity course.log
      ∧ idle.outcomes = captured.1.map (·.2.outcome) ∧ idle.after = captured.2 := by
  intro recorded captured course course' idle
  have hcourse : course = _ := captureUnder_eq .empty (.ofCapacity capacity) schedule captures
  have hcourse' : course' = _ := captureUnder_eq .empty (.ofCapacity capacity') schedule' captures
  have hbalance := (EventQueue.fits_ofCapacity capacity).balance_trace
    (schedule.moves (recorded.1.map (·.2.events)))
  rw [hcourse, hcourse']
  refine ⟨rfl, rfl, rfl, rfl, ?_, fun hstays => ?_, hbalance, captureUnder_idle ..⟩
  · rw [EventQueue.map_fst_offered_trace, Schedule.filterMap_event?_moves, List.flatMap_def]
    rfl
  · rw [EventQueue.lost_trace_of_notMem, List.append_nil] at hbalance
    · exact hbalance
    · intro hleave
      obtain ⟨i, j, hmem⟩ := Schedule.mem_of_pull_mem_moves hleave
      exact hstays i j hmem

/-- The receiving end takes an event before the second packet, and closes the queue before the
third. -/
def takingThenClosing : Schedule
  | 1, 0 => [.take 1]
  | 2, 0 => [.close]
  | _, _ => []

/-- Of three beacons, the first is taken out, the second is still waiting, and the third finds the
queue closed. -/
theorem receiving_end_cannot_disturb_closed :
    let captures := [bareBeacon 1, bareBeacon 2, bareBeacon 3]
    let course := (start (some (.ofCapacity 2))).captureUnder takingThenClosing captures
    (∀ i j, .leave ∉ takingThenClosing i j)
      ∧ EventQueue.taken course.log = [.beaconSighted (addressEnding 1) 0]
      ∧ course.after.waiting = [.beaconSighted (addressEnding 2) 0]
      ∧ EventQueue.accepted 2 course.log
        = [.beaconSighted (addressEnding 1) 0, .beaconSighted (addressEnding 2) 0] := by
  intro captures course
  have hstays : ∀ i j, .leave ∉ takingThenClosing i j := by
    intro i j
    unfold takingThenClosing
    split <;> decide
  have htaken : EventQueue.taken course.log = [.beaconSighted (addressEnding 1) 0] := by
    decide +kernel
  have hwaiting : course.after.waiting = [.beaconSighted (addressEnding 2) 0] := by
    decide +kernel
  obtain ⟨-, -, -, -, -, hkept, -⟩ :=
    receiving_end_cannot_disturb 2 2 takingThenClosing takingThenClosing captures
  refine ⟨hstays, htaken, hwaiting, ?_⟩
  rw [← hkept hstays, htaken, hwaiting]
  rfl

end Collector

end NeighborAwareness
