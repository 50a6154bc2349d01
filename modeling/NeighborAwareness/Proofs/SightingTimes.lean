import Mathlib.Data.List.Induction
import Mathlib.Data.List.Pairwise
import NeighborAwareness.Proofs.QueuedSightings

/-!
# Sighting times of several capture loops

Each capture loop reads a packet and then the clock, and only after that does the packet reach the
table of sightings. Between the two, other loops may go on, so that beacons can reach the table in
another order than that of their times. The record of an address has the time of the beacon that
reached the table first and of the one that reached it last, and these are the smallest and the
largest one, all along, just if no beacon overtakes another that was read later.

## Main definitions

* `CaptureLoops`, `CaptureLoops.step`, `CaptureLoops.run` : loops that share a table.
* `CaptureLoops.times` : the times of beacons, in the order in which they reached the table.
* `Sighting.Spans`, `CaptureLoops.Orderly` : a record tells the smallest and the largest time, and
  goes on doing so.
* `CaptureLoops.Overtaken` : a beacon was read before another and reached the table after it.

## Main results

* `CaptureLoops.Faithful.step`, `CaptureLoops.Faithful.run` : loops and log agree.
* `CaptureLoops.read_of_processed_pair` : how two packets came to be processed one after the other.
* `CaptureLoops.orderly_iff` : when the records of an address stay in order.
* `CaptureLoops.not_all_orderly` : they do not always.
-/

namespace NeighborAwareness

/-- A record tells the smallest and the largest of some times. -/
def Sighting.Spans (r : Sighting) (times : List Nat) : Prop :=
  times.min? = some r.firstSeen ∧ times.max? = some r.lastSeen

/-- The record of beacons that were heard at `times` tells the first and the last of these. -/
theorem Sighting.of_ofTimes_eq_some {times : List Nat} {r : Sighting} (h : ofTimes times = some r) :
    times.head? = some r.firstSeen ∧ times.getLast? = some r.lastSeen := by
  cases times with
  | nil => cases h
  | cons first later =>
    obtain rfl := Option.some.inj h
    exact ⟨rfl, by rw [List.getLast?_cons, List.getLastD_eq_getLast?]⟩

/-- A record spans the times that it is made of if they are in order. -/
theorem Sighting.spans_of_pairwise {times : List Nat} {r : Sighting} (h : ofTimes times = some r)
    (hsorted : times.Pairwise (· ≤ ·)) : r.Spans times := by
  obtain ⟨hfirst, hlast⟩ := of_ofTimes_eq_some h
  refine ⟨List.min?_eq_some_iff.2 ⟨List.mem_of_head? hfirst, ?_⟩,
    List.max?_eq_some_iff.2 ⟨List.mem_of_getLast? hlast, ?_⟩⟩
  · obtain ⟨later, rfl⟩ := List.head?_eq_some_iff.1 hfirst
    exact List.forall_mem_cons.2 ⟨Nat.le_refl _, (List.pairwise_cons.1 hsorted).1⟩
  · obtain ⟨earlier, rfl⟩ := List.getLast?_eq_some_iff.1 hlast
    intro t ht
    rcases List.mem_append.1 ht with ht | ht
    · exact (List.pairwise_append.1 hsorted).2.2 t ht _ (List.mem_singleton_self _)
    · exact Nat.le_of_eq (List.mem_singleton.1 ht)

/-- Capture loops that share a table, by number. A loop may hold a packet that it has read, with the
time at which it read it. -/
structure CaptureLoops where
  sightings : Sightings
  held : Nat → Option Capture

namespace CaptureLoops

/-- What may be done next. -/
inductive Move where
  /-- A loop reads a packet and then the clock. -/
  | read (loop : Nat) (x : Capture)
  /-- A loop processes the packet that it holds. -/
  | process (loop : Nat)
  deriving DecidableEq, Repr

/-- What was done. -/
inductive Deed where
  | read (loop : Nat) (x : Capture)
  | processed (loop : Nat) (x : Capture) (verdict : Verdict)
  | idle
  deriving DecidableEq, Repr

/-- The loop that did it. -/
def Deed.loop? : Deed → Option Nat
  | read loop _ => some loop
  | processed loop _ _ => some loop
  | idle => none

/-- The time that was read. -/
def Deed.readTime? : Deed → Option Nat
  | read _ x => some x.time
  | processed .. | idle => none

/-- No loop holds a packet. -/
def start : CaptureLoops :=
  ⟨.empty, fun _ => none⟩

/-- Does what is next, or nothing if the loop is not that far. -/
def step (c : CaptureLoops) : Move → Deed × CaptureLoops
  | .read loop x =>
    match c.held loop with
    | none => (.read loop x, { c with held := Function.update c.held loop (some x) })
    | some _ => (.idle, c)
  | .process loop =>
    match c.held loop with
    | some x =>
      let (verdict, sightings) := x.pipeline.process c.sightings x.packet x.time
      (.processed loop x verdict, ⟨sightings, Function.update c.held loop none⟩)
    | none => (.idle, c)

/-- Does one thing after the other: the log, and the loops afterwards. -/
def run (c : CaptureLoops) : List Move → List Deed × CaptureLoops
  | [] => ([], c)
  | m :: rest =>
    let (d, c) := c.step m
    let (log, c) := c.run rest
    (d :: log, c)

/-- The packets that were processed, with their verdicts. -/
def processed (log : List Deed) : List (Capture × Verdict) :=
  log.filterMap fun
    | .processed _ x verdict => some (x, verdict)
    | .read .. | .idle => none

/-- The times of the beacons from `a`, in the order in which they reached the table. -/
def times (a : Address) (log : List Deed) : List Nat :=
  beaconTimes a (processed log)

/-- The times that all loops read. -/
def clock (log : List Deed) : List Nat :=
  log.filterMap Deed.readTime?

/-- The times that a loop read. -/
def readings (loop : Nat) (log : List Deed) : List Nat :=
  clock (log.filter fun d => d.loop? = some loop)

/-- All along a run, the record of `a` tells the smallest and the largest time of its beacons so far,
and the time at which it was seen last never moves back. -/
structure Orderly (a : Address) (moves : List Move) : Prop where
  spans : ∀ {front r}, front <+: moves → (start.run front).2.sightings.get? a = some r →
    r.Spans (times a (start.run front).1)
  advances : ∀ {front later r s}, front <+: later → later <+: moves →
    (start.run front).2.sightings.get? a = some r →
    (start.run later).2.sightings.get? a = some s → r.lastSeen ≤ s.lastSeen

/-- A beacon `y` from `a` was read before another one, `z`, and reached the table after it. -/
def Overtaken (a : Address) (log : List Deed) (y z : Capture) : Prop :=
  ∃ loop other v w, loop ≠ other ∧ y.beaconOf? v = some a ∧ z.beaconOf? w = some a
    ∧ [.read loop y, .read other z, .processed other z w, .processed loop y v].Sublist log

variable {c : CaptureLoops} {log : List Deed} {loop : Nat} {x : Capture} {a : Address}

/-! ### Loops and log -/

/-- The packets that loops hold are those that they read last, and the table has what was processed. -/
structure Faithful (log : List Deed) (c : CaptureLoops) : Prop where
  accounts : ∀ a, Accounts a (processed log) c.sightings
  held : ∀ {loop x}, c.held loop = some x →
    ∃ front back, log = front ++ .read loop x :: back ∧ ∀ d ∈ back, d.loop? ≠ some loop

namespace Faithful

theorem start : Faithful [] start :=
  ⟨fun _ => .empty, fun h => nomatch h⟩

/-- A packet that is held by a loop stays the last one that it read while others go on. -/
theorem held_concat (h : Faithful log c) (hheld : c.held loop = some x) {d : Deed}
    (hd : d.loop? ≠ some loop) :
    ∃ front back, log ++ [d] = front ++ .read loop x :: back ∧ ∀ d ∈ back, d.loop? ≠ some loop := by
  obtain ⟨front, back, rfl, hback⟩ := h.held hheld
  refine ⟨front, back ++ [d], List.append_assoc .., fun d' hd' => ?_⟩
  rcases List.mem_append.1 hd' with hd' | hd'
  · exact hback d' hd'
  · rwa [List.mem_singleton.1 hd']

/-- One step. -/
theorem step (h : Faithful log c) (m : Move) :
    Faithful (log ++ [(c.step m).1]) (c.step m).2 := by
  have hidle : Faithful (log ++ [.idle]) c := by
    refine ⟨fun a => ?_, fun hheld => h.held_concat hheld (nomatch ·)⟩
    simpa [processed] using h.accounts a
  cases m with
  | read loop x =>
    rw [CaptureLoops.step]
    split
    · refine ⟨fun a => ?_, fun {other y} hheld => ?_⟩
      · simpa [processed] using h.accounts a
      · by_cases hother : other = loop
        · subst hother
          simp only [Function.update_self] at hheld
          obtain rfl := Option.some.inj hheld
          exact ⟨log, [], rfl, fun _ hd => absurd hd List.not_mem_nil⟩
        · exact h.held_concat ((Function.update_of_ne hother ..).symm.trans hheld)
            fun hloop => hother (Option.some.inj hloop).symm
    · exact hidle
  | process loop =>
    rw [CaptureLoops.step]
    split
    · next x hx =>
      refine ⟨fun a => ?_, fun {other y} hheld => ?_⟩
      · simpa [processed] using (h.accounts a).process x
      · by_cases hother : other = loop
        · subst hother
          simp only [Function.update_self] at hheld
          cases hheld
        · exact h.held_concat ((Function.update_of_ne hother ..).symm.trans hheld)
            fun hloop => hother (Option.some.inj hloop).symm
    · exact hidle

/-- A run. -/
theorem run (h : Faithful log c) (moves : List Move) :
    Faithful (log ++ (c.run moves).1) (c.run moves).2 := by
  induction moves generalizing c log with
  | nil =>
    rw [CaptureLoops.run, List.append_nil]
    exact h
  | cons m rest ih =>
    rw [CaptureLoops.run, List.append_cons]
    exact ih (h.step m)

end Faithful

theorem run_append (c : CaptureLoops) (front back : List Move) :
    c.run (front ++ back)
      = ((c.run front).1 ++ ((c.run front).2.run back).1, ((c.run front).2.run back).2) := by
  induction front generalizing c with
  | nil => rfl
  | cons m front ih => simp only [List.cons_append, run, ih]

/-- Each entry of a log was made by a step, and the log up to it by the moves before. -/
theorem exists_step_of_run {moves : List Move} {front back : List Deed} {d : Deed}
    (h : (c.run moves).1 = front ++ d :: back) :
    ∃ before m, (c.run before).1 = front ∧ ((c.run before).2.step m).1 = d := by
  induction moves generalizing c front with
  | nil => simp [run] at h
  | cons m rest ih =>
    rw [run] at h
    cases front with
    | nil => exact ⟨[], m, rfl, (List.cons.inj h).1⟩
    | cons first front =>
      obtain ⟨hfirst, hrest⟩ := List.cons.inj h
      obtain ⟨before, n, hfront, hd⟩ := ih hrest
      refine ⟨m :: before, n, ?_, hd⟩
      rw [run, ← hfirst, ← hfront]

/-- A packet that was processed had been read by the same loop, which did nothing in between. -/
theorem exists_read_of_processed {moves : List Move} {front back : List Deed} {verdict : Verdict}
    (h : (start.run moves).1 = front ++ .processed loop x verdict :: back) :
    ∃ before since, front = before ++ .read loop x :: since ∧ ∀ d ∈ since, d.loop? ≠ some loop := by
  obtain ⟨before, m, rfl, hd⟩ := exists_step_of_run h
  have hheld : (start.run before).2.held loop = some x := by
    cases m with
    | read other y =>
      rw [step] at hd
      split at hd <;> cases hd
    | process other =>
      rw [step] at hd
      split at hd
      · next hother =>
        cases hd
        exact hother
      · cases hd
  exact (Faithful.start.run before).held hheld

/-- When one packet is processed after another, the other one was read first, or else it was read
and processed by another loop while this one was held. -/
theorem read_of_processed_pair {moves : List Move} {other : Nat} {z : Capture} {v w : Verdict}
    (h : [.processed other z w, .processed loop x v].Sublist (start.run moves).1) :
    [.read other z, .read loop x].Sublist (start.run moves).1
      ∨ loop ≠ other ∧ [.read loop x, .read other z, .processed other z w,
        .processed loop x v].Sublist (start.run moves).1 := by
  obtain ⟨early, late, hlog, hz, hx⟩ := List.cons_sublist_iff.1 h
  obtain ⟨between, rest, rfl⟩ := List.append_of_mem (List.singleton_sublist.1 hx)
  rw [← List.append_assoc] at hlog
  obtain ⟨before, since, hbefore, hsince⟩ := exists_read_of_processed hlog
  replace hz := List.mem_append_left between hz
  rw [hbefore] at hlog hz
  -- `z` was processed before `x` was read, or since then.
  rcases List.mem_append.1 hz with hz | hz
  · obtain ⟨front, back, rfl⟩ := List.append_of_mem hz
    simp only [List.append_assoc, List.cons_append] at hlog
    obtain ⟨_, _, rfl, -⟩ := exists_read_of_processed hlog
    refine .inl (hlog ▸ ?_)
    refine (List.singleton_sublist.2 (List.mem_append_right _ List.mem_cons_self)).append
      (.cons _ (List.sublist_append_of_sublist_right (.cons_cons _ (List.nil_sublist _))))
  · replace hz := (List.mem_cons.1 hz).resolve_left (nomatch ·)
    have hne : loop ≠ other := fun hloop => hsince _ hz (congrArg some hloop.symm)
    obtain ⟨front, back, rfl⟩ := List.append_of_mem hz
    simp only [List.append_assoc, List.cons_append] at hlog
    have hread : .read other z ∈ before ++ .read loop x :: front := by
      rw [← List.cons_append, ← List.append_assoc] at hlog
      obtain ⟨_, _, hfront, -⟩ := exists_read_of_processed hlog
      exact hfront ▸ List.mem_append_right _ List.mem_cons_self
    rw [hlog]
    rcases List.mem_append.1 hread with hread | hread
    · exact .inl ((List.singleton_sublist.2 hread).append (.cons_cons _ (List.nil_sublist _)))
    · replace hread := (List.mem_cons.1 hread).resolve_left fun heq => hne (by cases heq; rfl)
      refine .inr ⟨hne, List.sublist_append_of_sublist_right (.cons_cons _ ?_)⟩
      exact (List.singleton_sublist.2 hread).append
        (.cons_cons _ (List.sublist_append_of_sublist_right (.cons_cons _ (List.nil_sublist _))))

/-! ### Times -/

/-- The time at which a beacon from `a` was read, of those that were processed. -/
def Deed.beaconTime? (a : Address) : Deed → Option Nat
  | processed _ x verdict => if x.beaconOf? verdict = some a then some x.time else none
  | read .. | idle => none

theorem Deed.eq_processed_of_beaconTime? {d : Deed} {t : Nat} (h : d.beaconTime? a = some t) :
    ∃ loop x verdict, d = .processed loop x verdict ∧ x.beaconOf? verdict = some a
      ∧ x.time = t := by
  cases d with
  | processed loop x verdict =>
    rw [beaconTime?] at h
    split at h
    · next hx => exact ⟨loop, x, verdict, rfl, hx, Option.some.inj h⟩
    · cases h
  | read loop x => cases h
  | idle => cases h

theorem times_eq_filterMap (a : Address) (log : List Deed) :
    times a log = log.filterMap (Deed.beaconTime? a) := by
  induction log with
  | nil => rfl
  | cons d log ih =>
    cases d with
    | processed loop x verdict =>
      by_cases h : x.beaconOf? verdict = some a <;>
        simp [← ih, times, processed, beaconTimes, beaconsFrom, Deed.beaconTime?, h]
    | read loop x => exact ih
    | idle => exact ih

theorem record_eq (a : Address) (moves : List Move) :
    (start.run moves).2.sightings.get? a = Sighting.ofTimes (times a (start.run moves).1) :=
  ((Faithful.start.run moves).accounts a).record

theorem isPrefix_times {front moves : List Move} (h : front <+: moves) (a : Address) :
    times a (start.run front).1 <+: times a (start.run moves).1 := by
  obtain ⟨back, rfl⟩ := h
  rw [run_append, times_eq_filterMap, times_eq_filterMap]
  exact (List.prefix_append _ _).filterMap _

theorem times_concat (moves : List Move) (m : Move) (a : Address) :
    (∃ t, times a (start.run (moves ++ [m])).1 = times a (start.run moves).1 ++ [t])
      ∨ times a (start.run (moves ++ [m])).1 = times a (start.run moves).1 := by
  rw [run_append, times_eq_filterMap, times_eq_filterMap, List.filterMap_append]
  cases hd : ((start.run moves).2.step m).1.beaconTime? a with
  | some t => exact .inl ⟨t, congrArg _ (by simp [run, hd])⟩
  | none => exact .inr (by simp [run, hd])

/-- The record of `a` keeps in order just if the times of its beacons are. -/
theorem orderly_iff_pairwise (moves : List Move) (a : Address) :
    Orderly a moves ↔ (times a (start.run moves).1).Pairwise (· ≤ ·) := by
  constructor
  · intro h
    induction moves using List.reverseRecOn with
    | nil => exact .nil
    | append_singleton moves m ih =>
      have hbefore : (times a (start.run moves).1).Pairwise (· ≤ ·) :=
        ih ⟨fun hfront => h.spans (hfront.trans (List.prefix_append _ _)),
          fun hfront hlater => h.advances hfront (hlater.trans (List.prefix_append _ _))⟩
      rcases times_concat moves m a with ⟨t, ht⟩ | hnone
      · -- The new time is the last one, and the record tells that it is the largest.
        obtain ⟨r, hr⟩ : ∃ r, Sighting.ofTimes (times a (start.run moves).1 ++ [t]) = some r :=
          ⟨_, Sighting.ofTimes_concat _ t⟩
        have hspans := h.spans (List.prefix_refl _) ((record_eq a _).trans (ht ▸ hr))
        have hlast : t = r.lastSeen := by
          have hlast := (Sighting.of_ofTimes_eq_some hr).2
          rw [List.getLast?_concat] at hlast
          exact Option.some.inj hlast
        rw [ht] at hspans ⊢
        refine List.pairwise_append.2 ⟨hbefore, List.pairwise_singleton _ t, fun s hs u hu => ?_⟩
        rw [List.mem_singleton.1 hu, hlast]
        exact (List.max?_eq_some_iff.1 hspans.2).2 s (List.mem_append_left _ hs)
      · rwa [hnone]
  · intro h
    have hspans {front : List Move} {r : Sighting} (hfront : front <+: moves)
        (hr : (start.run front).2.sightings.get? a = some r) :
        r.Spans (times a (start.run front).1) :=
      Sighting.spans_of_pairwise ((record_eq a front).symm.trans hr)
        (h.sublist (isPrefix_times hfront a).sublist)
    refine ⟨hspans, fun hfront hlater hr hs => ?_⟩
    have hmem := List.mem_of_getLast?
      (Sighting.of_ofTimes_eq_some ((record_eq a _).symm.trans hr)).2
    exact (List.max?_eq_some_iff.1 (hspans hlater hs).2).2 _ ((isPrefix_times hfront a).subset hmem)

theorem time_le_of_clock {loop other : Nat} {x z : Capture}
    (h : (clock log).Pairwise (· ≤ ·)) (hread : [.read other z, .read loop x].Sublist log) :
    z.time ≤ x.time :=
  List.pairwise_iff_forall_sublist.1 h (hread.filterMap Deed.readTime?)

/-- Packets of one loop were read in the order of their times if its readings never went back. -/
theorem time_le_of_readings {loop : Nat} {x z : Capture}
    (h : (readings loop log).Pairwise (· ≤ ·)) (hread : [.read loop z, .read loop x].Sublist log) :
    z.time ≤ x.time := by
  have hfilter := hread.filter fun d => d.loop? = some loop
  have hown : [.read loop z, .read loop x].Sublist (log.filter fun d => d.loop? = some loop) := by
    simpa [Deed.loop?] using hfilter
  exact time_le_of_clock h hown

theorem readings_sublist (loop : Nat) (log : List Deed) : (readings loop log).Sublist (clock log) :=
  List.filter_sublist.filterMap _

/-- Whatever several loops do, none of which reads times that go back: the record of an address has
the time of its beacon that reached the table first, and of the one that reached it last. It keeps in
order just if the beacons reach the table in the order of their times. Two beacons of which the one
with the smaller time comes second are those of different loops. If the clock of all loops never goes
back, the record keeps in order just if no beacon is overtaken by another that was read at a later
time. -/
theorem orderly_iff (moves : List Move) (a : Address)
    (h : ∀ loop, (readings loop (start.run moves).1).Pairwise (· ≤ ·)) :
    let log := (start.run moves).1
    (start.run moves).2.sightings.get? a = Sighting.ofTimes (times a log)
      ∧ (Orderly a moves ↔ (times a log).Pairwise (· ≤ ·))
      ∧ (∀ {loop other x z v w}, [.processed other z w, .processed loop x v].Sublist log →
        x.time < z.time → loop ≠ other)
      ∧ ((clock log).Pairwise (· ≤ ·) →
        (Orderly a moves ↔ ∀ y z, Overtaken a log y z → y.time = z.time)) := by
  intro log
  refine ⟨record_eq a moves, orderly_iff_pairwise moves a, ?_, fun hclock => ?_⟩
  · rintro loop other x z v w hpair hlt rfl
    rcases read_of_processed_pair hpair with hread | ⟨hne, -⟩
    · exact Nat.not_le.2 hlt (time_le_of_readings (h loop) hread)
    · exact hne rfl
  · rw [orderly_iff_pairwise, times_eq_filterMap, List.pairwise_filterMap,
      List.pairwise_iff_forall_sublist]
    constructor
    · rintro hsorted y z ⟨loop, other, v, w, -, hy, hz, hlog⟩
      have hread : [Deed.read loop y, .read other z].Sublist log :=
        .trans (.cons_cons _ (.cons_cons _ (List.nil_sublist _))) hlog
      have hprocessed : [Deed.processed other z w, .processed loop y v].Sublist log :=
        .trans (.cons _ (.cons _ (List.Sublist.refl _))) hlog
      exact Nat.le_antisymm (time_le_of_clock hclock hread)
        (hsorted hprocessed z.time (if_pos hz) y.time (if_pos hy))
    · intro hovertaken d e hpair s hs t ht
      obtain ⟨other, z, w, rfl, hz, rfl⟩ := Deed.eq_processed_of_beaconTime? hs
      obtain ⟨loop, x, v, rfl, hx, rfl⟩ := Deed.eq_processed_of_beaconTime? ht
      rcases read_of_processed_pair hpair with hread | ⟨hne, hlog⟩
      · exact time_le_of_clock hclock hread
      · exact Nat.le_of_eq (hovertaken x z ⟨loop, other, v, w, hne, hx, hz, hlog⟩).symm

/-- Two loops read beacons from the same node, and the later one of them reaches the table first. -/
def overtaking : List Move :=
  [.read 0 { Collector.bareBeacon 1 with time := 1000 },
    .read 1 { Collector.bareBeacon 1 with time := 2000 }, .process 1, .process 0]

theorem clock_overtaking : (clock (start.run overtaking).1).Pairwise (· ≤ ·) := by
  decide +kernel

/-- The node was last seen before it was seen at first. -/
theorem orderly_iff_overtaking :
    (∀ loop, (readings loop (start.run overtaking).1).Pairwise (· ≤ ·))
      ∧ (start.run overtaking).2.sightings.get? (Collector.addressEnding 1) = some ⟨2000, 1000, 2⟩
      ∧ ¬ Orderly (Collector.addressEnding 1) overtaking
      ∧ ∃ y z, Overtaken (Collector.addressEnding 1) (start.run overtaking).1 y z
        ∧ y.time ≠ z.time := by
  have hreadings (loop : Nat) : (readings loop (start.run overtaking).1).Pairwise (· ≤ ·) :=
    clock_overtaking.sublist (readings_sublist loop _)
  obtain ⟨hrecord, hsorted, -, hclock⟩ :=
    orderly_iff overtaking (Collector.addressEnding 1) hreadings
  have htimes : times (Collector.addressEnding 1) (start.run overtaking).1 = [2000, 1000] := by
    decide +kernel
  have hnot : ¬ Orderly (Collector.addressEnding 1) overtaking := by
    rw [hsorted, htimes]
    decide
  refine ⟨hreadings, hrecord.trans (by rw [htimes]; rfl), hnot, ?_⟩
  rw [hclock clock_overtaking] at hnot
  simpa only [not_forall, exists_prop] using hnot

/-- It is not so that records keep in order whenever no loop reads times that go back. -/
theorem not_all_orderly :
    ¬ ∀ (moves : List Move) (a : Address),
      (∀ loop, (readings loop (start.run moves).1).Pairwise (· ≤ ·)) →
      ∀ r, (start.run moves).2.sightings.get? a = some r →
        r.Spans (times a (start.run moves).1) := by
  intro h
  have hspans := h overtaking (Collector.addressEnding 1)
    (fun loop => clock_overtaking.sublist (readings_sublist loop _)) ⟨2000, 1000, 2⟩
    (by decide +kernel)
  revert hspans
  rw [Sighting.Spans]
  decide +kernel

end CaptureLoops

end NeighborAwareness
