import NeighborAwareness.Address

/-!
# Beacon sightings

One table, shared by all captures, says when each address was first and last heard beaconing and
how often.

## Main definitions

* `Sighting` : the record of one address.
* `Sightings.observe` : a beacon is heard.
* `Sightings.get?`, `Sightings.size` : the table's content.

## Main results

* `Sightings.get?_observe_self`, `Sightings.get?_observe_of_ne` : the content after a beacon.
-/

namespace NeighborAwareness

/-- When an address was heard beaconing, in microseconds, and how often. The program counts in 64
bits, which stand for the same number as long as fewer than 2 ^ 64 beacons were heard. -/
structure Sighting where
  firstSeen : Nat
  lastSeen : Nat
  count : Nat
  deriving DecidableEq, Repr

/-- The record of a further beacon at `time`. -/
def Sighting.again (s : Sighting) (time : Nat) : Sighting :=
  { s with lastSeen := time, count := s.count + 1 }

/-- Sightings by address, each address once. -/
structure Sightings where
  entries : List (Address × Sighting)
  deriving DecidableEq, Repr

namespace Sightings

/-- Nothing heard yet. -/
def empty : Sightings := ⟨[]⟩

instance : Inhabited Sightings := ⟨empty⟩

/-- The record of an address. -/
def get? (s : Sightings) (a : Address) : Option Sighting :=
  s.entries.lookup a

/-- How many addresses have a record. -/
def size (s : Sightings) : Nat :=
  s.entries.length

/-- The entries with the record of `a` brought up to date, or a new one at the end. -/
def updated (a : Address) (time : Nat) : List (Address × Sighting) → List (Address × Sighting)
  | [] => [(a, ⟨time, time, 1⟩)]
  | (b, sighting) :: rest =>
    if a == b then (b, sighting.again time) :: rest
    else (b, sighting) :: updated a time rest

/-- A beacon from `a` is heard at `time`; the answer is whether it is the first one. -/
def observe (s : Sightings) (a : Address) (time : Nat) : Bool × Sightings :=
  ((s.get? a).isNone, ⟨updated a time s.entries⟩)

/-- The record of an address whose beacon was just heard. -/
theorem get?_observe_self (s : Sightings) (a : Address) (time : Nat) :
    (s.observe a time).2.get? a
      = some (((s.get? a).map fun r => r.again time).getD ⟨time, time, 1⟩) := by
  simp only [observe, get?]
  induction s.entries with
  | nil => simp [updated]
  | cons entry rest ih =>
    obtain ⟨b, sighting⟩ := entry
    by_cases h : a = b
    · subst h
      simp [updated]
    · have hab : (a == b) = false := by simp [h]
      simp only [updated, hab, List.lookup_cons, Bool.false_eq_true, if_false]
      exact ih

/-- Other records stay. -/
theorem get?_observe_of_ne (s : Sightings) {a b : Address} (time : Nat) (h : b ≠ a) :
    (s.observe a time).2.get? b = s.get? b := by
  simp only [observe, get?]
  induction s.entries with
  | nil =>
    have hba : (b == a) = false := by simp [h]
    simp [updated, List.lookup_cons, hba]
  | cons entry rest ih =>
    obtain ⟨c, sighting⟩ := entry
    by_cases hc : a = c
    · subst hc
      have hba : (b == a) = false := by simp [h]
      simp [updated, List.lookup_cons, hba]
    · have hac : (a == c) = false := by simp [hc]
      simp only [updated, hac, List.lookup_cons, Bool.false_eq_true, if_false, ih]

end Sightings

end NeighborAwareness
