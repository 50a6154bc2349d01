import NeighborAwareness.Proofs.FirstSightings

/-!
# First sightings through a bounded queue

The first beacon from an address is put on record and then announced through the queue. If the queue
is full at that moment, the announcement is dropped. The address is on record all the same, so that
none of its later beacons is announced, however much room there is by then: the receiving end never
hears of it.

## Main definitions

* `Collector.Step`, `Collector.run` : packets are captured and events taken out of the queue.
* `Collector.beaconsOf` : the beacons from an address, and whether the queue had room.
* `Collector.announcementOf` : what the receiving end hears of an address.
* `Collector.Delivered` : record and announcements of an address agree with its beacons.

## Main results

* `EventQueue.offerAll_eq` : an open queue takes as many events as it has room for.
* `Collector.Delivered.capture`, `Collector.Delivered.drain`, `Collector.Delivered.run` : what one
  packet, one drain and a run keep.
* `Collector.received_sightings_eq` : an address is announced just if there was room for its
  first beacon.
* `Collector.not_every_sighting_received` : room for a later beacon does not help.
-/

namespace NeighborAwareness

namespace EventQueue

/-- Whether the next event would be taken. -/
def hasRoom (q : EventQueue) : Bool :=
  !q.closed && q.waiting.length < q.capacity

/-- An open queue takes as many events as it has room for. -/
theorem offerAll_eq {q : EventQueue} (h : q.closed = false) (events : List CaptureEvent) :
    (q.offerAll events).1
      = { q with waiting := q.waiting ++ events.take (q.capacity - q.waiting.length) } := by
  induction events generalizing q with
  | nil => simp [offerAll]
  | cons event rest ih =>
    rw [offerAll, offer, if_neg (ne_true_of_eq_false h)]
    by_cases hroom : q.waiting.length < q.capacity
    · have hleft : q.capacity - q.waiting.length
          = (q.capacity - (q.waiting.length + 1)) + 1 := by omega
      have hrest := ih (q := { q with waiting := q.waiting ++ [event] }) h
      rw [if_pos hroom, hleft, List.take_succ_cons]
      dsimp only at hrest ⊢
      rw [hrest, List.length_append, List.length_singleton, List.append_assoc,
        List.singleton_append]
    · have hleft : q.capacity - q.waiting.length = 0 := by omega
      rw [if_neg hroom]
      dsimp only
      rw [ih h, hleft, List.take_zero, List.take_zero]

theorem length_waiting_offerAll {q : EventQueue} (h : q.closed = false)
    (hfits : q.waiting.length ≤ q.capacity) (events : List CaptureEvent) :
    (q.offerAll events).1.waiting.length ≤ (q.offerAll events).1.capacity := by
  rw [offerAll_eq h]
  dsimp only
  rw [List.length_append, List.length_take]
  omega

theorem take_singleton_of_hasRoom {q : EventQueue} (h : q.closed = false) (event : CaptureEvent) :
    [event].take (q.capacity - q.waiting.length) = if q.hasRoom then [event] else [] := by
  by_cases hroom : q.waiting.length < q.capacity
  · have hleft : q.capacity - q.waiting.length
        = (q.capacity - (q.waiting.length + 1)) + 1 := by omega
    simp [hasRoom, h, hroom, hleft]
  · have hleft : q.capacity - q.waiting.length = 0 := by omega
    simp [hasRoom, hroom, hleft]

end EventQueue

namespace Collector

/-! ### Runs -/

/-- What may happen next: a packet is captured, or some events are taken out of the queue. -/
inductive Step where
  | capture (x : Capture)
  | drain (count : Nat)
  deriving DecidableEq, Repr

/-- What came of it. A packet stands there with its verdict, and with whether the queue had room. -/
inductive Entry where
  | captured (x : Capture) (verdict : Verdict) (room : Bool)
  | received (events : List CaptureEvent)
  deriving DecidableEq, Repr

/-- Takes a step. -/
def step (c : Collector) : Step → Entry × Collector
  | .capture x =>
    let (verdict, after) := c.capture x.pipeline x.packet x.time
    (.captured x verdict (c.queue.any EventQueue.hasRoom), after)
  | .drain count =>
    let (events, after) := c.drain count
    (.received events, after)

/-- Takes steps one after the other: the log, and the collector afterwards. -/
def run (c : Collector) : List Step → List Entry × Collector
  | [] => ([], c)
  | x :: rest =>
    let (entry, c) := c.step x
    let (log, c) := c.run rest
    (entry :: log, c)

/-- All events that were taken out of the queue. -/
def received (log : List Entry) : List CaptureEvent :=
  log.flatMap fun
    | .captured .. => []
    | .received events => events

/-- The beacons from `a`: when they were captured, and whether the queue had room. -/
def beaconsOf (a : Address) (log : List Entry) : List (Nat × Bool) :=
  log.filterMap fun
    | .captured x verdict room => if x.beaconOf? verdict = some a then some (x.time, room) else none
    | .received _ => none

/-- What the receiving end hears of `a`: the first of its beacons, if the queue had room for that. -/
def announcementOf (a : Address) (beacons : List (Nat × Bool)) : List CaptureEvent :=
  (beacons.head?.filter Prod.snd).toList.map fun x => .beaconSighted a x.1

/-- The record of `a` is that of its beacons, and what was taken out of the queue or is still there
announces the first of them, or nothing. -/
structure Delivered (a : Address) (log : List Entry) (s : Sightings) (q : EventQueue) : Prop where
  isOpen : q.closed = false
  fits : q.waiting.length ≤ q.capacity
  record : s.get? a = Sighting.ofTimes ((beaconsOf a log).map Prod.fst)
  announced : (received log ++ q.waiting).filter (·.announces a)
    = announcementOf a (beaconsOf a log)

variable {a : Address} {log : List Entry} {s : Sightings} {q : EventQueue} {x : Capture}
  {verdict : Verdict} {room : Bool}

/-! ### One step -/

theorem beaconsOf_captured_of_eq (h : x.beaconOf? verdict = some a) :
    beaconsOf a (log ++ [.captured x verdict room]) = beaconsOf a log ++ [(x.time, room)] := by
  simp [beaconsOf, h]

theorem beaconsOf_captured_of_ne (h : x.beaconOf? verdict ≠ some a) :
    beaconsOf a (log ++ [.captured x verdict room]) = beaconsOf a log := by
  simp [beaconsOf, h]

theorem beaconsOf_received (events : List CaptureEvent) :
    beaconsOf a (log ++ [.received events]) = beaconsOf a log := by
  simp [beaconsOf]

theorem received_captured : received (log ++ [.captured x verdict room]) = received log := by
  simp [received]

theorem received_received (events : List CaptureEvent) :
    received (log ++ [.received events]) = received log ++ events := by
  simp [received]

theorem announcementOf_concat {beacons : List (Nat × Bool)} (h : beacons ≠ []) (y : Nat × Bool) :
    announcementOf a (beacons ++ [y]) = announcementOf a beacons := by
  rw [announcementOf, announcementOf, List.head?_append_of_ne_nil _ h]

theorem run_cons (c : Collector) (x : Step) (rest : List Step) :
    c.run (x :: rest) = ((c.step x).1 :: ((c.step x).2.run rest).1, ((c.step x).2.run rest).2) := rfl

theorem step_capture (s : Sightings) (q : EventQueue) (x : Capture) :
    (⟨s, some q⟩ : Collector).step (.capture x)
      = (.captured x
            { (x.pipeline.process s x.packet x.time).1 with
              events := []
              notes := (x.pipeline.process s x.packet x.time).1.notes
                ++ (q.offerAll (x.pipeline.process s x.packet x.time).1.events).2 }
            q.hasRoom,
          ⟨(x.pipeline.process s x.packet x.time).2,
            some (q.offerAll (x.pipeline.process s x.packet x.time).1.events).1⟩) := rfl

namespace Delivered

/-- A packet that is no beacon from `a`, and of which nothing that announces one is offered. -/
theorem skip (h : Delivered a log s q) {after : Sightings} {events : List CaptureEvent}
    (hother : x.beaconOf? verdict ≠ some a) (hquiet : ∀ event ∈ events, event.announces a = false)
    (hrecord : after.get? a = s.get? a) :
    Delivered a (log ++ [.captured x verdict room]) after (q.offerAll events).1 := by
  have hnone : (events.take (q.capacity - q.waiting.length)).filter (·.announces a) = [] :=
    List.filter_eq_nil_iff.2 fun event he => by
      rw [hquiet event (List.mem_of_mem_take he)]
      exact Bool.false_ne_true
  have hfits := EventQueue.length_waiting_offerAll h.isOpen h.fits events
  rw [EventQueue.offerAll_eq h.isOpen] at hfits ⊢
  refine ⟨h.isOpen, hfits, ?_, ?_⟩
  · rw [hrecord, beaconsOf_captured_of_ne hother, h.record]
  · rw [received_captured, beaconsOf_captured_of_ne hother, ← List.append_assoc,
      List.filter_append, hnone, List.append_nil, h.announced]

/-- A beacon from `a`, which is announced if it is the first one and there is room. -/
theorem beacon (h : Delivered a log s q) (hof : x.beaconOf? verdict = some a) :
    Delivered a (log ++ [.captured x verdict q.hasRoom]) (s.observe a x.time).2
      (q.offerAll (if (s.get? a).isNone then [.beaconSighted a x.time] else [])).1 := by
  have hfits := EventQueue.length_waiting_offerAll h.isOpen h.fits
    (if (s.get? a).isNone then [.beaconSighted a x.time] else [])
  have hrecord : (s.observe a x.time).2.get? a
      = Sighting.ofTimes ((beaconsOf a (log ++ [.captured x verdict q.hasRoom])).map Prod.fst) := by
    rw [beaconsOf_captured_of_eq hof, List.map_append, List.map_singleton, Sighting.ofTimes_concat,
      ← h.record, s.get?_observe_self]
  have hfirst : (s.get? a).isNone = (beaconsOf a log).isEmpty := by
    rw [h.record, Sighting.isNone_ofTimes, List.isEmpty_map]
  rw [EventQueue.offerAll_eq h.isOpen] at hfits ⊢
  refine ⟨h.isOpen, hfits, hrecord, ?_⟩
  rw [received_captured, beaconsOf_captured_of_eq hof, ← List.append_assoc, List.filter_append,
    h.announced, hfirst]
  cases hbeacons : beaconsOf a log with
  | nil =>
    -- The first beacon is the only one that is offered, and the queue takes it if it has room.
    rw [List.isEmpty_nil, if_pos rfl, EventQueue.take_singleton_of_hasRoom h.isOpen]
    cases q.hasRoom <;> simp [announcementOf, CaptureEvent.announces, Option.filter]
  | cons first later =>
    rw [announcementOf_concat (List.cons_ne_nil _ _)]
    simp

/-- A packet. -/
theorem capture (h : Delivered a log s q) (x : Capture) :
    Delivered a (log ++ [((⟨s, some q⟩ : Collector).step (.capture x)).1])
      (x.pipeline.process s x.packet x.time).2
      (q.offerAll (x.pipeline.process s x.packet x.time).1.events).1 := by
  rw [step_capture]
  rcases x.pipeline.process_cases s x.packet x.time with ⟨b, hb, hbeacon⟩ | ⟨hno, hsame⟩
  · rw [hbeacon]
    by_cases hab : a = b
    · subst hab
      exact h.beacon hb
    · refine h.skip ?_ ?_ (s.get?_observe_of_ne x.time hab)
      · rw [Capture.beaconOf?, hb]
        exact fun hsame => hab (Option.some.inj hsame).symm
      · intro event he
        dsimp only at he
        split at he
        · rw [List.mem_singleton.1 he]
          exact beq_eq_false_iff_ne.2 (Ne.symm hab)
        · exact absurd he List.not_mem_nil
  · refine h.skip ?_ (hno.events a) (by rw [hsame])
    have hnone := hno.beaconOf?_eq_none x
    exact fun hsome => Option.some_ne_none a (hsome.symm.trans hnone)

/-- Some events are taken out. -/
theorem drain (h : Delivered a log s q) (count : Nat) :
    Delivered a (log ++ [.received (q.waiting.take count)]) s
      { q with waiting := q.waiting.drop count } := by
  refine ⟨h.isOpen, ?_, ?_, ?_⟩
  · rw [List.length_drop]
    exact Nat.le_trans (Nat.sub_le ..) h.fits
  · rw [beaconsOf_received, h.record]
  · rw [received_received, beaconsOf_received, List.append_assoc, List.take_append_drop,
      h.announced]

/-- A run. -/
theorem run (h : Delivered a log s q) (steps : List Step) :
    ∃ after left, ((⟨s, some q⟩ : Collector).run steps).2 = ⟨after, some left⟩
      ∧ left.capacity = q.capacity
      ∧ Delivered a (log ++ ((⟨s, some q⟩ : Collector).run steps).1) after left := by
  induction steps generalizing s q log with
  | nil =>
    rw [Collector.run, List.append_nil]
    exact ⟨s, q, rfl, rfl, h⟩
  | cons x rest ih =>
    rw [run_cons, List.append_cons]
    cases x with
    | capture x =>
      obtain ⟨after, left, hafter, hcapacity, hdelivered⟩ := ih (h.capture x)
      refine ⟨after, left, hafter, hcapacity.trans ?_, hdelivered⟩
      rw [EventQueue.offerAll_eq h.isOpen]
    | drain count => exact ih (h.drain count)

theorem start (a : Address) (capacity : Nat) :
    Delivered a [] .empty (.ofCapacity capacity) :=
  ⟨rfl, Nat.zero_le _, rfl, rfl⟩

end Delivered

/-! ### What the receiving end hears -/

/-- Over any run of packets and drains, the receiving end hears of an address just once if the queue
had room for its first beacon, and otherwise not at all, whatever it takes out of the queue and
however many beacons follow, which are all put on record. -/
theorem received_sightings_eq (capacity : Nat) (steps : List Step) (a : Address) :
    let log := ((start (some (.ofCapacity capacity))).run steps).1
    let after := ((start (some (.ofCapacity capacity))).run steps).2
    (received log ++ (after.drain capacity).1).filter (·.announces a)
        = announcementOf a (beaconsOf a log)
      ∧ after.sightings.get? a = Sighting.ofTimes ((beaconsOf a log).map Prod.fst) := by
  intro log after
  obtain ⟨s, q, hafter, hcapacity, h⟩ := (Delivered.start a capacity).run steps
  have hdrain : (after.drain capacity).1 = q.waiting := by
    rw [show after = _ from hafter]
    exact List.take_of_length_le (Nat.le_trans h.fits (Nat.le_of_eq hcapacity))
  refine ⟨?_, ?_⟩
  · rw [hdrain]
    exact h.announced
  · rw [show after = _ from hafter]
    exact h.record

/-- The address that ends in `last`. -/
def addressEnding (last : UInt8) : Address where
  octets := [2, 0, 0, 0, 0, last]
  length_octets := rfl

/-- A beacon with nothing in it, from `addressEnding last`. -/
def bareBeacon (last : UInt8) : Capture where
  pipeline := ⟨0, []⟩
  packet := [0, 0, 8, 0, 0, 0, 0, 0, 0x80, 0, 0, 0, 0xFF, 0xFF, 0xFF, 0xFF, 0xFF, 0xFF]
    ++ (addressEnding last).octets ++ [0x50, 0x6F, 0x9A, 0x01, 0xD9, 0x49, 0, 0]
  time := 0

/-- Not every address is announced for which the queue had room at some time: the first beacon of a
second node finds the queue full of the announcement of the first one, and its next beacon, for
which there is room, is not announced. -/
theorem not_every_sighting_received :
    ¬ ∀ (capacity : Nat) (steps : List Step) (a : Address), 1 ≤ capacity →
      let log := ((start (some (.ofCapacity capacity))).run steps).1
      let after := ((start (some (.ofCapacity capacity))).run steps).2
      (∃ x ∈ beaconsOf a log, x.2 = true) →
        ((received log ++ (after.drain capacity).1).filter (·.announces a)).length = 1 := by
  intro h
  have hmissed := h 1 [.capture (bareBeacon 1), .capture (bareBeacon 2), .drain 1,
    .capture (bareBeacon 2)] (addressEnding 2) (Nat.le_refl 1) (by decide +kernel)
  revert hmissed
  decide +kernel

end Collector

end NeighborAwareness
