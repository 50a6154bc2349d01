import Mathlib.Data.List.Dedup
import Mathlib.Data.List.Nodup
import NeighborAwareness.Capture.Collector

/-!
# First sightings

All captures share one table of sightings. Whatever they capture, and in whatever order their
packets come, the first beacon from an address is announced, with the time at which it was captured,
and no later one is. The table then says when the beacons of each address were heard first and last,
and how many there were.

## Main definitions

* `Capture.beaconOf?` : the address whose beacon a packet was found to be.
* `Sighting.ofTimes`, `Verdict.ofBeacons` : what beacons heard at some times leave in the table, and
  what each of them is found to be.
* `beaconTimes`, `announcements`, `heard` : what the verdicts say about beacons.
* `Accounts` : verdicts, announcements and table agree on an address.

## Main results

* `Pipeline.process_cases` : only beacons of other nodes touch the table.
* `Accounts.process`, `Collector.accounts_captureAll` : what one packet and all packets keep.
* `Collector.beacons_sighted_once` : announcements and table after any packets.
-/

namespace NeighborAwareness

/-! ### The table -/

/-- The record of an address whose beacons were heard at `times`. -/
def Sighting.ofTimes : List Nat → Option Sighting
  | [] => none
  | first :: later => some ⟨first, later.getLastD first, later.length + 1⟩

theorem Sighting.ofTimes_concat (times : List Nat) (time : Nat) :
    ofTimes (times ++ [time])
      = some (((ofTimes times).map fun r => r.again time).getD ⟨time, time, 1⟩) := by
  cases times with
  | nil => rfl
  | cons first later => simp [ofTimes, again]

theorem Sighting.isNone_ofTimes (times : List Nat) : (ofTimes times).isNone = times.isEmpty := by
  cases times <;> rfl

namespace Sightings

variable (s : Sightings)

/-- The addresses that have a record. -/
def addresses : List Address :=
  s.entries.map Prod.fst

theorem mem_addresses {a : Address} : a ∈ s.addresses ↔ (s.get? a).isSome := by
  rw [get?, List.lookup_isSome_iff, addresses, List.mem_map]
  constructor
  · rintro ⟨entry, hmem, rfl⟩
    exact ⟨entry, hmem, beq_self_eq_true _⟩
  · rintro ⟨entry, hmem, heq⟩
    exact ⟨entry, hmem, (beq_iff_eq.1 heq).symm⟩

theorem map_fst_updated (a : Address) (time : Nat) (entries : List (Address × Sighting)) :
    (updated a time entries).map Prod.fst
      = if a ∈ entries.map Prod.fst then entries.map Prod.fst
        else entries.map Prod.fst ++ [a] := by
  induction entries with
  | nil => rfl
  | cons entry rest ih =>
    obtain ⟨b, sighting⟩ := entry
    by_cases hab : a = b
    · simp [updated, hab]
    · have hne : (a == b) = false := beq_eq_false_iff_ne.2 hab
      simp only [updated, hne, Bool.false_eq_true, if_false, List.map_cons, ih, List.mem_cons, hab,
        false_or]
      split <;> rfl

theorem addresses_observe (a : Address) (time : Nat) :
    (s.observe a time).2.addresses
      = if a ∈ s.addresses then s.addresses else s.addresses ++ [a] :=
  map_fst_updated a time s.entries

theorem nodup_addresses_observe (h : s.addresses.Nodup) (a : Address) (time : Nat) :
    (s.observe a time).2.addresses.Nodup := by
  rw [addresses_observe]
  split
  · exact h
  · rename_i hnew
    exact List.nodup_append.2 ⟨h, List.nodup_singleton a, fun b hb c hc => by
      rw [List.mem_singleton.1 hc]
      rintro rfl
      exact hnew hb⟩

end Sightings

/-! ### One packet -/

/-- Whether an event announces a beacon from `a`. -/
def CaptureEvent.announces (a : Address) : CaptureEvent → Bool
  | .beaconSighted b _ => b == a
  | .attribute .. => false

/-- A verdict that has nothing to do with beacons. -/
structure Verdict.NoBeacon (v : Verdict) : Prop where
  outcome : ∀ first, v.outcome ≠ .beacon first
  events : ∀ a, ∀ event ∈ v.events, event.announces a = false

namespace Pipeline

/-- The transmitter of the frame in a packet. -/
def transmitter? (packet : Bytes) : Option Address :=
  ((frame? packet).bind FrameHeader.ofBytes?).map FrameHeader.transmitter

theorem noBeacon_silent {outcome : FrameOutcome} (h : ∀ first, outcome ≠ .beacon first) :
    (silent outcome).NoBeacon :=
  ⟨h, fun _ _ hmem => absurd hmem List.not_mem_nil⟩

variable (p : Pipeline) (sightings : Sightings) (packet : Bytes) (time : Nat)

theorem noBeacon_surface (transmitter : Address) (attributes : Bytes) :
    (p.surface transmitter attributes time).NoBeacon := by
  unfold surface
  split
  · exact ⟨by simp, fun _ _ hmem => absurd hmem List.not_mem_nil⟩
  · refine ⟨by simp, fun a event hmem => ?_⟩
    obtain ⟨e, -, rfl⟩ := List.mem_map.1 hmem
    rfl

/-- A packet is a beacon of another node, which is put on record, and announced if it is the first
of its transmitter, or it leaves the table as it is and has nothing to do with beacons. -/
theorem process_cases :
    (∃ a, transmitter? packet = some a
        ∧ p.process sightings packet time
          = ({ outcome := .beacon (sightings.get? a).isNone
               events := if (sightings.get? a).isNone then [.beaconSighted a time] else []
               notes := [] }, (sightings.observe a time).2))
      ∨ ((p.process sightings packet time).1.NoBeacon
        ∧ (p.process sightings packet time).2 = sightings) := by
  cases hframe : frame? packet with
  | none =>
    simp only [process, hframe]
    exact .inr ⟨noBeacon_silent (by simp), trivial⟩
  | some frame =>
    cases hheader : FrameHeader.ofBytes? frame with
    | none =>
      simp only [process, hframe, hheader]
      exact .inr ⟨noBeacon_silent (by simp), trivial⟩
    | some header =>
      have htransmitter : transmitter? packet = some header.transmitter := by
        rw [transmitter?, hframe, Option.bind_some, hheader, Option.map_some]
      by_cases hown : header.transmitter ∈ p.own
      · simp only [process, hframe, hheader, if_pos hown]
        exact .inr ⟨noBeacon_silent (by simp), trivial⟩
      · simp only [process, hframe, hheader, if_neg hown]
        cases header.kind with
        | beacon => exact .inl ⟨header.transmitter, htransmitter, rfl⟩
        | action =>
          dsimp only
          split
          · exact .inr ⟨p.noBeacon_surface time _ _, rfl⟩
          · exact .inr ⟨noBeacon_silent (by simp), rfl⟩
        | other type subtype => exact .inr ⟨noBeacon_silent (by simp), rfl⟩

end Pipeline

/-! ### All packets -/

/-- The address whose beacon a packet was found to be. -/
def Capture.beaconOf? (x : Capture) (verdict : Verdict) : Option Address :=
  match verdict.outcome with
  | .beacon _ => Pipeline.transmitter? x.packet
  | _ => none

/-- A packet that has nothing to do with beacons was not found to be one. -/
theorem Verdict.NoBeacon.beaconOf?_eq_none {verdict : Verdict} (h : verdict.NoBeacon) (x : Capture) :
    x.beaconOf? verdict = none := by
  unfold Capture.beaconOf?
  split
  · rename_i first houtcome
    exact absurd houtcome (h.outcome first)
  · rfl

/-- The verdicts on beacons from `a` that were heard at `times`. -/
def Verdict.ofBeacons (a : Address) : List Nat → List Verdict
  | [] => []
  | first :: later =>
    ⟨.beacon true, [.beaconSighted a first], []⟩ :: later.map fun _ => ⟨.beacon false, [], []⟩

/-- The packets that were found to be beacons from `a`. -/
def beaconsFrom (a : Address) (log : List (Capture × Verdict)) : List (Capture × Verdict) :=
  log.filter fun x => x.1.beaconOf? x.2 = some a

/-- When beacons from `a` were heard. -/
def beaconTimes (a : Address) (log : List (Capture × Verdict)) : List Nat :=
  (beaconsFrom a log).map fun x => x.1.time

/-- The addresses that packets were found to be beacons from, once for each packet. -/
def heard (log : List (Capture × Verdict)) : List Address :=
  log.filterMap fun x => x.1.beaconOf? x.2

variable {a : Address} {log : List (Capture × Verdict)} {x : Capture} {verdict : Verdict}

theorem mem_heard : a ∈ heard log ↔ beaconTimes a log ≠ [] := by
  simp [heard, beaconTimes, beaconsFrom, List.filter_eq_nil_iff]

theorem beaconsFrom_concat_of_eq (h : x.beaconOf? verdict = some a) :
    beaconsFrom a (log ++ [(x, verdict)]) = beaconsFrom a log ++ [(x, verdict)] := by
  simp [beaconsFrom, h]

theorem beaconsFrom_concat_of_ne (h : x.beaconOf? verdict ≠ some a) :
    beaconsFrom a (log ++ [(x, verdict)]) = beaconsFrom a log := by
  simp [beaconsFrom, h]

theorem Verdict.ofBeacons_concat (a : Address) (times : List Nat) (time : Nat) :
    ofBeacons a (times ++ [time]) = ofBeacons a times
      ++ [{ outcome := .beacon times.isEmpty
            events := if times.isEmpty then [.beaconSighted a time] else []
            notes := [] }] := by
  cases times with
  | nil => rfl
  | cons first later => simp [ofBeacons]

/-- The announcements of beacons from `a`. -/
def announcements (a : Address) (log : List (Capture × Verdict)) : List CaptureEvent :=
  (log.flatMap fun x => x.2.events).filter (·.announces a)

/-- What was told of `a` in the verdicts on the packets in `log` agrees with its record. -/
structure Accounts (a : Address) (log : List (Capture × Verdict)) (sightings : Sightings) : Prop where
  verdicts : (beaconsFrom a log).map Prod.snd = Verdict.ofBeacons a (beaconTimes a log)
  announced : announcements a log = (beaconTimes a log).head?.toList.map (.beaconSighted a)
  record : sightings.get? a = Sighting.ofTimes (beaconTimes a log)

namespace Accounts

variable {sightings after : Sightings}

theorem empty : Accounts a [] Sightings.empty :=
  ⟨rfl, rfl, rfl⟩

theorem skip (h : Accounts a log sightings) (hother : x.beaconOf? verdict ≠ some a)
    (hquiet : ∀ event ∈ verdict.events, event.announces a = false)
    (hrecord : after.get? a = sightings.get? a) : Accounts a (log ++ [(x, verdict)]) after := by
  have hbeacons : beaconsFrom a (log ++ [(x, verdict)]) = beaconsFrom a log :=
    beaconsFrom_concat_of_ne hother
  have htimes : beaconTimes a (log ++ [(x, verdict)]) = beaconTimes a log :=
    congrArg (List.map _) hbeacons
  have hnone : verdict.events.filter (·.announces a) = [] :=
    List.filter_eq_nil_iff.2 fun event he => by rw [hquiet event he]; exact Bool.false_ne_true
  refine ⟨?_, ?_, ?_⟩
  · rw [hbeacons, htimes, h.verdicts]
  · rw [announcements, List.flatMap_append, List.filter_append, List.flatMap_singleton, hnone,
      List.append_nil, htimes]
    exact h.announced
  · rw [hrecord, htimes, h.record]

theorem beacon (h : Accounts a log sightings) (ha : Pipeline.transmitter? x.packet = some a) :
    Accounts a
      (log ++ [(x, { outcome := .beacon (sightings.get? a).isNone
                     events := if (sightings.get? a).isNone then [.beaconSighted a x.time] else []
                     notes := [] })])
      (sightings.observe a x.time).2 := by
  rw [h.record, Sighting.isNone_ofTimes]
  set verdict : Verdict :=
    { outcome := .beacon (beaconTimes a log).isEmpty
      events := if (beaconTimes a log).isEmpty then [.beaconSighted a x.time] else []
      notes := [] } with hverdict
  have hof : x.beaconOf? verdict = some a := ha
  have hbeacons : beaconsFrom a (log ++ [(x, verdict)]) = beaconsFrom a log ++ [(x, verdict)] :=
    beaconsFrom_concat_of_eq hof
  have htimes : beaconTimes a (log ++ [(x, verdict)]) = beaconTimes a log ++ [x.time] := by
    rw [beaconTimes, hbeacons, List.map_append]
    rfl
  refine ⟨?_, ?_, ?_⟩
  · rw [htimes, hbeacons, List.map_append, h.verdicts, Verdict.ofBeacons_concat]
    rfl
  · rw [announcements, List.flatMap_append, List.filter_append, List.flatMap_singleton, htimes]
    rw [← announcements, h.announced]
    cases htimes : beaconTimes a log with
    | nil =>
      simp [hverdict, htimes, CaptureEvent.announces]
    | cons first later => simp [hverdict, htimes]
  · rw [sightings.get?_observe_self, h.record, htimes, Sighting.ofTimes_concat]

/-- One packet. -/
theorem process (h : Accounts a log sightings) (x : Capture) :
    Accounts a (log ++ [(x, (x.pipeline.process sightings x.packet x.time).1)])
      (x.pipeline.process sightings x.packet x.time).2 := by
  rcases x.pipeline.process_cases sightings x.packet x.time with ⟨b, hb, hbeacon⟩ | ⟨hno, hsame⟩
  · rw [hbeacon]
    by_cases hab : a = b
    · subst hab
      exact h.beacon hb
    · refine h.skip ?_ ?_ (sightings.get?_observe_of_ne x.time hab)
      · rw [Capture.beaconOf?, hb]
        exact fun hsame => hab (Option.some.inj hsame).symm
      · intro event he
        dsimp only at he
        split at he
        · rw [List.mem_singleton.1 he]
          exact beq_eq_false_iff_ne.2 (Ne.symm hab)
        · exact absurd he List.not_mem_nil
  · refine h.skip ?_ (hno.events a) (by rw [hsame])
    rw [hno.beaconOf?_eq_none]
    exact (Option.some_ne_none a).symm

end Accounts

namespace Collector

variable {c : Collector}

theorem capture_of_queue_eq_none (hqueue : c.queue = none) (p : Pipeline) (packet : Bytes)
    (time : Nat) :
    c.capture p packet time
      = ((p.process c.sightings packet time).1,
          { c with sightings := (p.process c.sightings packet time).2 }) := by
  rw [capture, hqueue]

theorem map_fst_captureAll (captures : List Capture) :
    (c.captureAll captures).1.map Prod.fst = captures := by
  induction captures generalizing c with
  | nil => rfl
  | cons x rest ih => rw [captureAll, List.map_cons, ih]

/-- All packets keep the accounts of every address. -/
theorem accounts_captureAll (hqueue : c.queue = none) (h : Accounts a log c.sightings)
    (captures : List Capture) :
    Accounts a (log ++ (c.captureAll captures).1) (c.captureAll captures).2.sightings := by
  induction captures generalizing c log with
  | nil =>
    rw [captureAll, List.append_nil]
    exact h
  | cons x rest ih =>
    rw [captureAll, capture_of_queue_eq_none hqueue, List.append_cons]
    exact ih hqueue (h.process x)

theorem nodup_captureAll (hqueue : c.queue = none) (h : c.sightings.addresses.Nodup)
    (captures : List Capture) : (c.captureAll captures).2.sightings.addresses.Nodup := by
  induction captures generalizing c with
  | nil => exact h
  | cons x rest ih =>
    rw [captureAll, capture_of_queue_eq_none hqueue]
    refine ih hqueue ?_
    rcases x.pipeline.process_cases c.sightings x.packet x.time with ⟨b, -, hbeacon⟩ | ⟨-, hsame⟩
    · rw [hbeacon]
      exact c.sightings.nodup_addresses_observe h b x.time
    · rw [hsame]
      exact h

/-- Whatever packets are captured, and whichever pipelines they come through: of the beacons heard
from `a` the first is announced, with its time, and is the only one found to be the first; the table
says when the first and the last of them were heard and how many there were, and has a record of
just the addresses from which there was one. -/
theorem beacons_sighted_once (captures : List Capture) (a : Address) :
    let log := ((start none).captureAll captures).1
    let sightings := ((start none).captureAll captures).2.sightings
    let times := beaconTimes a log
    log.map Prod.fst = captures
      ∧ announcements a log = times.head?.toList.map (.beaconSighted a)
      ∧ (beaconsFrom a log).map Prod.snd = Verdict.ofBeacons a times
      ∧ sightings.get? a = Sighting.ofTimes times
      ∧ sightings.size = (heard log).dedup.length := by
  intro log sightings times
  have haccounts : ∀ b, Accounts b log sightings := fun b =>
    accounts_captureAll (c := start none) rfl Accounts.empty captures
  have hmem : ∀ b, b ∈ sightings.addresses ↔ b ∈ (heard log).dedup := by
    intro b
    rw [sightings.mem_addresses, (haccounts b).record, List.mem_dedup, mem_heard,
      ← Option.not_isNone, Sighting.isNone_ofTimes]
    simp
  -- Both lists name each address once, so that they are permutations of each other.
  have hnodup := nodup_captureAll (c := start none) rfl List.nodup_nil captures
  have hperm := (List.perm_ext_iff_of_nodup hnodup (List.nodup_dedup _)).2 hmem
  obtain ⟨hverdicts, hannounced, hrecord⟩ := haccounts a
  refine ⟨map_fst_captureAll captures, hannounced, hverdicts, hrecord, ?_⟩
  rw [← hperm.length_eq, Sightings.addresses, List.length_map]
  rfl

end Collector

end NeighborAwareness
