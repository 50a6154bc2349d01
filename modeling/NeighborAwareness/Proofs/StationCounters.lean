import Mathlib.Data.List.Permutation
import NeighborAwareness.Proofs.ForeignAttributes

/-!
# The order of station entries

The kernel counts the octets of a peer in 64 bits and reports them in two entries, one with all of
the number and one, for older programs, with its lower 32 bits. Both are read into one counter, and
there the later entry replaces the earlier one. So the order of the entries in the station
information matters, and it does for nothing else: all other counters have one type of entry each.

## Main definitions

* `Traffic`, `Record.octets?` : the two ways of octets, and the octets that an entry counts.
* `Record.Twofold` : the entries that count the octets of one way twice.

## Main results

* `Station.withoutOctets_foldl_perm` : the other counters do not depend on the order.
* `Record.getLast?_octets_of_twofold` : which of two entries counts.
* `Directory.station_same_iff_order_kept` : when the order does not matter.
-/

namespace NeighborAwareness

/-! ### Entries -/

/-- The ways that octets go. -/
inductive Traffic where
  | received
  | sent
  deriving DecidableEq, Repr

namespace Traffic

/-- The type of the entry with the lower 32 bits of a number of octets. -/
def narrow : Traffic → UInt16
  | received => StationEntryType.rxBytes
  | sent => StationEntryType.txBytes

/-- The type of the entry with all 64 bits. -/
def wide : Traffic → UInt16
  | received => StationEntryType.rxBytes64
  | sent => StationEntryType.txBytes64

theorem narrow_ne_wide (t : Traffic) : t.narrow ≠ t.wide := by
  cases t <;> decide

end Traffic

/-- The octets that an entry counts, if it counts octets of that way and has the right size. -/
def Record.octets? (t : Traffic) (r : Record) : Option UInt64 :=
  if r.type = t.narrow then (LittleEndian.read? 4 r.data).map UInt64.ofNat
  else if r.type = t.wide then (LittleEndian.read? 8 r.data).map UInt64.ofNat
  else none

namespace StationEntry

/-- The octets that an entry counts. -/
def octets? : Traffic → StationEntry → Option UInt64
  | .received, .rxBytes n => some n
  | .sent, .txBytes n => some n
  | _, _ => none

/-- The type of the entries of a counter, if there is one type only. -/
def counter? : StationEntry → Option UInt16
  | inactiveMs _ => some StationEntryType.inactiveTime
  | connectedSecs _ => some StationEntryType.connectedTime
  | rxPackets _ => some StationEntryType.rxPackets
  | txPackets _ => some StationEntryType.txPackets
  | txRetries _ => some StationEntryType.txRetries
  | txFailed _ => some StationEntryType.txFailed
  | beaconLoss _ => some StationEntryType.beaconLoss
  | signalDbm _ => some StationEntryType.signal
  | rxBytes _ | txBytes _ | unknown _ _ => none

theorem toUInt64_of_read? {data : Bytes} {n : Nat} (h : LittleEndian.read? 4 data = some n) :
    (UInt32.ofNat n).toUInt64 = UInt64.ofNat n := by
  have hlt : n < 4294967296 := LittleEndian.lt_of_read? h
  apply UInt64.toNat_inj.1
  rw [UInt32.toNat_toUInt64, UInt32.toNat_ofNat', UInt64.toNat_ofNat']
  omega

theorem octets?_ofRecord (t : Traffic) (r : Record) : (ofRecord r).octets? t = r.octets? t := by
  rcases r with ⟨type, data⟩
  unfold ofRecord typed?
  dsimp only
  split
  case h_3 | h_4 =>
    cases hread : LittleEndian.read? 4 data with
    | none => cases t <;> simp +decide [Record.octets?, octets?, hread]
    | some n => cases t <;> simp +decide [Record.octets?, octets?, hread, toUInt64_of_read? hread]
  case h_5 | h_6 =>
    cases hread : LittleEndian.read? 8 data <;>
      cases t <;> simp +decide [Record.octets?, octets?, hread]
  case h_12 => cases data <;> cases t <;> rfl
  case h_13 hne =>
    have hnarrow : type ≠ t.narrow := by cases t <;> assumption
    have hwide : type ≠ t.wide := by cases t <;> assumption
    rw [Record.octets?, if_neg hnarrow, if_neg hwide]
    cases t <;> rfl
  all_goals
    cases LittleEndian.read? 4 data <;> cases t <;> rfl

theorem type_of_counter? {r : Record} {type : UInt16} (h : (ofRecord r).counter? = some type) :
    r.type = type := by
  rcases r with ⟨found, data⟩
  unfold ofRecord typed? at h
  dsimp only at h
  split at h
  case h_3 | h_4 => cases hread : LittleEndian.read? 4 data <;> simp [hread, counter?] at h
  case h_5 | h_6 => cases hread : LittleEndian.read? 8 data <;> simp [hread, counter?] at h
  case h_12 =>
    cases data with
    | nil => cases h
    | cons b data => exact Option.some.inj h
  case h_13 => cases h
  all_goals
    cases hread : LittleEndian.read? 4 data with
    | none => rw [hread] at h; cases h
    | some n => rw [hread] at h; exact Option.some.inj h

end StationEntry

/-! ### Entries that count twice -/

namespace Record

/-- Entries that count the octets of one way twice, as `low` in 32 bits and as `full` in 64. -/
structure Twofold (t : Traffic) (entries : List Record) (narrow wide : Record)
    (low full : UInt64) : Prop where
  narrow_mem : narrow ∈ entries
  narrow_type : narrow.type = t.narrow
  narrow_octets : narrow.octets? t = some low
  wide_mem : wide ∈ entries
  wide_type : wide.type = t.wide
  wide_octets : wide.octets? t = some full

variable {t : Traffic} {entries others : List Record} {narrow wide a b : Record} {low full : UInt64}

/-- The entries that count octets of one way. -/
def counting (t : Traffic) (entries : List Record) : List Record :=
  entries.filter fun r => (r.octets? t).isSome

theorem type_of_octets? {r : Record} (h : (r.octets? t).isSome = true) :
    r.type = t.narrow ∨ r.type = t.wide := by
  unfold octets? at h
  split at h
  · rename_i hnarrow
    exact .inl hnarrow
  · split at h
    · rename_i hwide
      exact .inr hwide
    · cases h

theorem filterMap_counting (t : Traffic) (entries : List Record) :
    (counting t entries).filterMap (octets? t) = entries.filterMap (octets? t) := by
  rw [counting, List.filterMap_filter]
  refine List.filterMap_congr fun r _ => ?_
  cases r.octets? t <;> rfl

theorem sublist_counting_iff (ha : (a.octets? t).isSome = true) (hb : (b.octets? t).isSome = true) :
    [a, b].Sublist (counting t entries) ↔ [a, b].Sublist entries := by
  refine ⟨fun h => h.trans List.filter_sublist, fun h => ?_⟩
  have hfilter : ([a, b].filter fun r => (r.octets? t).isSome).Sublist (counting t entries) :=
    h.filter _
  have hboth : ([a, b].filter fun r => (r.octets? t).isSome) = [a, b] := by simp [ha, hb]
  rwa [hboth] at hfilter

theorem nodup_counting (t : Traffic) (hnodup : (entries.map type).Nodup) :
    ((counting t entries).map type).Nodup :=
  hnodup.sublist (List.filter_sublist.map type)

namespace Twofold

variable (h : Twofold t entries narrow wide low full)

include h

theorem narrow_ne_wide : narrow ≠ wide := by
  intro heq
  have htype := h.narrow_type
  rw [heq, h.wide_type] at htype
  exact t.narrow_ne_wide htype.symm

theorem perm (hperm : entries.Perm others) : Twofold t others narrow wide low full :=
  { h with narrow_mem := hperm.mem_iff.1 h.narrow_mem, wide_mem := hperm.mem_iff.1 h.wide_mem }

theorem counting_eq (hnodup : (entries.map type).Nodup) :
    counting t entries = [narrow, wide] ∨ counting t entries = [wide, narrow] := by
  have hinj := List.inj_on_of_nodup_map hnodup
  rw [← List.perm_pair, List.perm_ext_iff_of_nodup (nodup_counting t hnodup).of_map
    (by simp [h.narrow_ne_wide])]
  intro r
  rw [counting, List.mem_filter, List.mem_pair]
  constructor
  · rintro ⟨hmem, hcounts⟩
    rcases type_of_octets? hcounts with htype | htype
    · exact .inl (hinj hmem h.narrow_mem (htype.trans h.narrow_type.symm))
    · exact .inr (hinj hmem h.wide_mem (htype.trans h.wide_type.symm))
  · rintro (rfl | rfl)
    · exact ⟨h.narrow_mem, by rw [h.narrow_octets]; rfl⟩
    · exact ⟨h.wide_mem, by rw [h.wide_octets]; rfl⟩

theorem getLast?_octets (hnodup : (entries.map type).Nodup) :
    (entries.filterMap (octets? t)).getLast?
      = some (if [narrow, wide].Sublist entries then full else low) := by
  have hnarrow : (narrow.octets? t).isSome = true := by
    rw [h.narrow_octets]
    rfl
  have hwide : (wide.octets? t).isSome = true := by
    rw [h.wide_octets]
    rfl
  have hsublist : [narrow, wide].Sublist entries ↔ [narrow, wide].Sublist (counting t entries) :=
    (sublist_counting_iff hnarrow hwide).symm
  rw [← filterMap_counting]
  rcases h.counting_eq hnodup with hcounting | hcounting
  · rw [if_pos (hsublist.2 (by rw [hcounting])), hcounting]
    simp [h.narrow_octets, h.wide_octets]
  · have hnot : ¬ [narrow, wide].Sublist entries := by
      intro hsub
      rw [hsublist, hcounting] at hsub
      exact h.narrow_ne_wide (List.cons.inj (hsub.eq_of_length rfl)).1
    rw [if_neg hnot, hcounting]
    simp [h.narrow_octets, h.wide_octets]

end Twofold

/-- When no type occurs twice and nothing is counted twice, at most one entry counts. -/
theorem length_counting_le (hnodup : (entries.map type).Nodup)
    (hnone : ∀ narrow wide low full, ¬ Twofold t entries narrow wide low full) :
    (counting t entries).length ≤ 1 := by
  by_contra hlength
  obtain ⟨a, b, rest, hcounting⟩ : ∃ a b rest, counting t entries = a :: b :: rest := by
    rcases hlist : counting t entries with _ | ⟨a, _ | ⟨b, rest⟩⟩
    · simp [hlist] at hlength
    · simp [hlist] at hlength
    · exact ⟨a, b, rest, rfl⟩
  have ha : a ∈ counting t entries := by simp [hcounting]
  have hb : b ∈ counting t entries := by simp [hcounting]
  have hne : a.type ≠ b.type := by
    have htypes := nodup_counting t hnodup
    rw [hcounting] at htypes
    simp only [List.map_cons, List.nodup_cons, List.mem_cons, not_or] at htypes
    exact htypes.1.1
  obtain ⟨hamem, hacounts⟩ := List.mem_filter.1 ha
  obtain ⟨hbmem, hbcounts⟩ := List.mem_filter.1 hb
  obtain ⟨m, hm⟩ := Option.isSome_iff_exists.1 hacounts
  obtain ⟨n, hn⟩ := Option.isSome_iff_exists.1 hbcounts
  rcases type_of_octets? hacounts with hatype | hatype <;>
    rcases type_of_octets? hbcounts with hbtype | hbtype
  · exact hne (hatype.trans hbtype.symm)
  · exact hnone a b m n ⟨hamem, hatype, hm, hbmem, hbtype, hn⟩
  · exact hnone b a n m ⟨hbmem, hbtype, hn, hamem, hatype, hm⟩
  · exact hne (hatype.trans hbtype.symm)

/-- The same octets are counted in another order exactly when, of two entries that count them, the
same one comes last, or both say the same. -/
theorem getLast?_octets_eq_iff (t : Traffic) (hperm : entries.Perm others)
    (hnodup : (entries.map type).Nodup) :
    (others.filterMap (octets? t)).getLast? = (entries.filterMap (octets? t)).getLast?
      ↔ ∀ narrow wide low full, Twofold t entries narrow wide low full →
        low = full ∨ ([narrow, wide].Sublist others ↔ [narrow, wide].Sublist entries) := by
  have hothers : (others.map type).Nodup := (hperm.map type).nodup_iff.1 hnodup
  by_cases htwo : ∃ narrow wide low full, Twofold t entries narrow wide low full
  · constructor
    · intro hlast narrow wide low full h
      rw [h.getLast?_octets hnodup, (h.perm hperm).getLast?_octets hothers] at hlast
      grind
    · intro hall
      obtain ⟨narrow, wide, low, full, h⟩ := htwo
      rw [h.getLast?_octets hnodup, (h.perm hperm).getLast?_octets hothers]
      have := hall narrow wide low full h
      grind
  · push Not at htwo
    have hsame : counting t others = counting t entries := by
      have hcounting : (counting t entries).Perm (counting t others) := hperm.filter _
      rcases hlist : counting t entries with _ | ⟨a, _ | ⟨b, rest⟩⟩
      · exact (hlist ▸ hcounting).nil_eq.symm
      · exact List.perm_singleton.1 (hlist ▸ hcounting).symm
      · have hlength := length_counting_le hnodup htwo
        simp [hlist] at hlength
    rw [← filterMap_counting t others, hsame, filterMap_counting]
    exact ⟨fun _ narrow wide low full h => absurd h (htwo narrow wide low full), fun _ => rfl⟩

end Record

/-! ### Stations -/

namespace Station

/-- The octets of one way. -/
def octets (s : Station) : Traffic → Option UInt64
  | .received => s.rxBytes
  | .sent => s.txBytes

/-- Everything but the octets. -/
def withoutOctets (s : Station) : Station :=
  { s with rxBytes := none, txBytes := none }

variable {entries others : List Record} {t : Traffic}

theorem eq_iff_octets {s other : Station} :
    s = other ↔ s.withoutOctets = other.withoutOctets ∧ ∀ t, s.octets t = other.octets t := by
  refine ⟨fun h => h ▸ ⟨rfl, fun _ => rfl⟩, fun ⟨hrest, hoctets⟩ => ?_⟩
  cases s
  cases other
  simp only [withoutOctets, mk.injEq] at hrest ⊢
  exact ⟨hrest.1, hrest.2.1, hrest.2.2.1, hoctets .received, hoctets .sent, hrest.2.2.2.2.2⟩

theorem octets_count (s : Station) (e : StationEntry) :
    (s.count e).octets t = (e.octets? t).or (s.octets t) := by
  cases e <;> cases t <;> rfl

theorem octets_foldl_count (s : Station) (entries : List Record) :
    (entries.foldl (fun s r => s.count (.ofRecord r)) s).octets t
      = ((entries.filterMap (Record.octets? t)).getLast?).or (s.octets t) := by
  have hcount : ∀ (s : Station) (r : Record),
      (s.count (.ofRecord r)).octets t = (r.octets? t).or (s.octets t) := fun s r => by
    rw [octets_count, StationEntry.octets?_ofRecord]
  exact @Record.foldl_latest _ _ _ (fun s => s.octets t) _ hcount s entries

/-- Counts an entry, but no octets. -/
def countOther (s : Station) (r : Record) : Station :=
  (s.count (.ofRecord r)).withoutOctets

/-- Entries of different types do not get in each other's way, octets apart. -/
theorem countOther_comm (s : Station) {r other : Record} (h : r.type ≠ other.type) :
    (s.countOther r).countOther other = (s.countOther other).countOther r := by
  have hcounter : (StationEntry.ofRecord r).counter? = none
      ∨ (StationEntry.ofRecord r).counter? ≠ (StationEntry.ofRecord other).counter? := by
    cases hr : (StationEntry.ofRecord r).counter? with
    | none => exact .inl rfl
    | some type =>
      refine .inr fun hother => h ?_
      rw [StationEntry.type_of_counter? hr, StationEntry.type_of_counter? hother.symm]
  unfold countOther
  generalize StationEntry.ofRecord r = e at hcounter ⊢
  generalize StationEntry.ofRecord other = e' at hcounter ⊢
  cases e <;> cases e' <;> first | rfl | simp [StationEntry.counter?] at hcounter

/-- Without octets, entries of which no type occurs twice say the same in every order. -/
theorem withoutOctets_foldl_perm (hperm : entries.Perm others)
    (hnodup : (entries.map Record.type).Nodup) (s : Station) :
    (others.foldl (fun s r => s.count (.ofRecord r)) s).withoutOctets
      = (entries.foldl (fun s r => s.count (.ofRecord r)) s).withoutOctets := by
  have hhom : ∀ entries : List Record,
      (entries.foldl (fun s r => s.count (.ofRecord r)) s).withoutOctets
        = entries.foldl countOther s.withoutOctets := by
    intro entries
    refine (List.foldl_hom withoutOctets fun s r => ?_).symm
    rw [countOther]
    cases StationEntry.ofRecord r <;> rfl
  rw [hhom, hhom]
  refine (hperm.foldl_eq' (fun r hr other hother s => ?_) _).symm
  by_cases hsame : r = other
  · rw [hsame]
  · exact countOther_comm s fun htype =>
      hsame (List.inj_on_of_nodup_map hnodup hr hother htype)

theorem learn_stationInfo {data : Bytes} (h : Attribute.nested? data = some entries) (s : Station) :
    s.learn (.ofRecord ⟨AttributeType.stationInfo, data⟩)
      = entries.foldl (fun s r => s.count (.ofRecord r)) s := by
  rw [Attribute.ofRecord_stationInfo h, learn, List.foldl_map]

/-- Attributes other than the station information say nothing about octets. -/
theorem learn_of_type_ne {a : Attribute} (h : a.type ≠ AttributeType.stationInfo) (s : Station) :
    (∀ t, (s.learn a).octets t = s.octets t)
      ∧ (s.learn a).withoutOctets = s.withoutOctets.learn a := by
  cases a with
  | stationInfo entries => exact absurd rfl h
  | _ => exact ⟨fun t => by cases t <;> rfl, rfl⟩

theorem foldl_learn_of_type_ne {records : List Record}
    (h : ∀ r ∈ records, r.type ≠ AttributeType.stationInfo) (s : Station) :
    (∀ t, ((records.map Attribute.ofRecord).foldl learn s).octets t = s.octets t)
      ∧ ((records.map Attribute.ofRecord).foldl learn s).withoutOctets
        = (records.map Attribute.ofRecord).foldl learn s.withoutOctets := by
  induction records generalizing s with
  | nil => exact ⟨fun _ => rfl, rfl⟩
  | cons r records ih =>
    have htype : (Attribute.ofRecord r).type ≠ AttributeType.stationInfo := by
      rw [Attribute.ofRecord, Attribute.type_decode]
      exact h r List.mem_cons_self
    obtain ⟨hoctets, hrest⟩ := learn_of_type_ne htype s
    obtain ⟨ihoctets, ihrest⟩ :=
      ih (fun r hr => h r (List.mem_cons_of_mem _ hr)) (s.learn (.ofRecord r))
    rw [List.map_cons, List.foldl_cons, List.foldl_cons]
    exact ⟨fun t => (ihoctets t).trans (hoctets t), by rw [ihrest, hrest]⟩

end Station

/-- A message with `data` as the station information. -/
def GenericMessage.station (command version : UInt8) (front back : List Record) (data : Bytes) :
    GenericMessage :=
  ⟨command, version, front ++ ⟨AttributeType.stationInfo, data⟩ :: back⟩

namespace Station

variable {command version : UInt8} {front back : List Record}
  (hone : ∀ r ∈ front ++ back, r.type ≠ AttributeType.stationInfo)

include hone

theorem octets_ofRow {data : Bytes} {entries : List Record}
    (hdata : Attribute.nested? data = some entries) (t : Traffic) :
    (ofRow (GenericMessage.station command version front back data).row).octets t
      = (entries.filterMap (Record.octets? t)).getLast? := by
  have hfront : ∀ r ∈ front, r.type ≠ AttributeType.stationInfo :=
    fun r hr => hone r (List.mem_append_left _ hr)
  have hback : ∀ r ∈ back, r.type ≠ AttributeType.stationInfo :=
    fun r hr => hone r (List.mem_append_right _ hr)
  rw [ofRow, GenericMessage.row, GenericMessage.station, List.map_append, List.foldl_append,
    List.map_cons, List.foldl_cons, (foldl_learn_of_type_ne hback _).1,
    learn_stationInfo hdata, octets_foldl_count, (foldl_learn_of_type_ne hfront _).1]
  cases t <;> exact Option.or_none

theorem withoutOctets_ofRow_perm {data moved : Bytes} {entries others : List Record}
    (hdata : Attribute.nested? data = some entries) (hmoved : Attribute.nested? moved = some others)
    (hperm : entries.Perm others) (hnodup : (entries.map Record.type).Nodup) :
    (ofRow (GenericMessage.station command version front back moved).row).withoutOctets
      = (ofRow (GenericMessage.station command version front back data).row).withoutOctets := by
  have hback : ∀ r ∈ back, r.type ≠ AttributeType.stationInfo :=
    fun r hr => hone r (List.mem_append_right _ hr)
  simp only [ofRow, GenericMessage.row, GenericMessage.station, List.map_append, List.foldl_append,
    List.map_cons, List.foldl_cons]
  rw [(foldl_learn_of_type_ne hback _).2, (foldl_learn_of_type_ne hback _).2,
    learn_stationInfo hdata, learn_stationInfo hmoved, withoutOctets_foldl_perm hperm hnodup]

end Station

/-! ### Enumerations -/

namespace Directory

/-- In a message about a station, the entries of the station information may be put into another
order, each type occurring at most once. The enumeration of stations then gives the same but for the
octets received and sent. These are what the last entry says that counts them: of two that count the
same way, the one with all 64 bits when it stands behind the other, and else the lower 32 bits. So
the enumeration gives the same exactly when the entry with 64 bits stands behind the other in both
orders or in none, or both say the same. -/
theorem station_same_iff_order_kept (l : Link) (i : Interface) {answer : Answer}
    (hanswer : answer.failure = none) (before after : List GenericMessage)
    (command version : UInt8) {front back : List Record}
    (hone : ∀ r ∈ front ++ back, r.type ≠ AttributeType.stationInfo)
    {data moved : Bytes} {entries others : List Record}
    (hdata : Attribute.nested? data = some entries) (hmoved : Attribute.nested? moved = some others)
    (hperm : entries.Perm others) (hnodup : (entries.map Record.type).Nodup) :
    let station := fun data =>
      Station.ofRow (GenericMessage.station command version front back data).row
    let listed := fun data => (stations (l.answered answer
      (before ++ GenericMessage.station command version front back data :: after)) i).1
    (∀ data, listed data = .ok (before.map (Station.ofRow ·.row)
        ++ station data :: after.map (Station.ofRow ·.row)))
      ∧ (station moved).withoutOctets = (station data).withoutOctets
      ∧ (∀ t, (station data).octets t = (entries.filterMap (Record.octets? t)).getLast?)
      ∧ (∀ t narrow wide low full, Record.Twofold t entries narrow wide low full →
        (station data).octets t = some (if [narrow, wide].Sublist entries then full else low))
      ∧ (listed moved = listed data
        ↔ ∀ t narrow wide low full, Record.Twofold t entries narrow wide low full →
          low = full ∨ ([narrow, wide].Sublist others ↔ [narrow, wide].Sublist entries)) := by
  intro station listed
  have hlisted : ∀ data, listed data = .ok (before.map (Station.ofRow ·.row)
      ++ station data :: after.map (Station.ofRow ·.row)) := by
    intro data
    dsimp only [listed, station]
    rw [stations, Link.execute_answered, hanswer]
    simp only [List.map_append, List.map_cons, List.map_map]
    rfl
  have hothers : (others.map Record.type).Nodup := (hperm.map Record.type).nodup_iff.1 hnodup
  have hrest : (station moved).withoutOctets = (station data).withoutOctets :=
    Station.withoutOctets_ofRow_perm hone hdata hmoved hperm hnodup
  have hoctets : ∀ t, (station data).octets t = (entries.filterMap (Record.octets? t)).getLast? :=
    Station.octets_ofRow hone hdata
  refine ⟨hlisted, hrest, hoctets, fun t narrow wide low full h =>
    (hoctets t).trans (h.getLast?_octets hnodup), ?_⟩
  have hsame : listed moved = listed data ↔ station moved = station data := by
    rw [hlisted, hlisted, Except.ok.injEq, List.append_cancel_left_eq, List.cons.injEq,
      and_iff_left rfl]
  rw [hsame, Station.eq_iff_octets, and_iff_right hrest]
  refine forall_congr' fun t => ?_
  rw [hoctets, Station.octets_ofRow hone hmoved, Record.getLast?_octets_eq_iff t hperm hnodup]

/-- The lower 32 bits of 5000000000 octets received. -/
def wrappedEntry : Record :=
  ⟨StationEntryType.rxBytes, [0, 242, 5, 42]⟩

/-- All bits of 5000000000 octets received. -/
def fullEntry : Record :=
  ⟨StationEntryType.rxBytes64, [0, 242, 5, 42, 1, 0, 0, 0]⟩

theorem nested?_wrapped_full :
    Attribute.nested? (wrappedEntry.encode ++ fullEntry.encode)
      = some [wrappedEntry, fullEntry] := by
  decide +kernel

theorem nested?_full_wrapped :
    Attribute.nested? (fullEntry.encode ++ wrappedEntry.encode)
      = some [fullEntry, wrappedEntry] := by
  decide +kernel

/-- With all bits behind, 5000000000 octets are listed, and with the lower bits behind,
705032704. -/
theorem station_same_iff_order_kept_wrapped :
    let octets := fun data => (Station.ofRow
      (GenericMessage.station Command.newStation.code 1 [] [] data).row).octets .received
    [wrappedEntry, fullEntry].Perm [fullEntry, wrappedEntry]
      ∧ ([wrappedEntry, fullEntry].map Record.type).Nodup
      ∧ octets (wrappedEntry.encode ++ fullEntry.encode) = some 5000000000
      ∧ octets (fullEntry.encode ++ wrappedEntry.encode) = some 705032704 := by
  have hperm : [wrappedEntry, fullEntry].Perm [fullEntry, wrappedEntry] := .swap _ _ _
  have hnodup : ([wrappedEntry, fullEntry].map Record.type).Nodup := by decide
  have hothers : ([fullEntry, wrappedEntry].map Record.type).Nodup := by decide
  have hanswer : Answer.granted.failure = none := rfl
  have hone : ∀ r ∈ ([] : List Record) ++ [], r.type ≠ AttributeType.stationInfo := by simp
  obtain ⟨-, -, hoctets, -⟩ := station_same_iff_order_kept (Link.start 0 []) .blank hanswer [] []
    Command.newStation.code 1 hone nested?_wrapped_full nested?_full_wrapped hperm hnodup
  obtain ⟨-, -, hmoved, -⟩ := station_same_iff_order_kept (Link.start 0 []) .blank hanswer [] []
    Command.newStation.code 1 hone nested?_full_wrapped nested?_wrapped_full hperm.symm hothers
  exact ⟨hperm, hnodup, (hoctets .received).trans (by decide +kernel),
    (hmoved .received).trans (by decide +kernel)⟩

/-- It is not so that stations are listed alike in every order of their entries. -/
theorem not_all_orders_alike :
    ¬ ∀ (l : Link) (i : Interface) (data moved : Bytes) (entries others : List Record),
      Attribute.nested? data = some entries → Attribute.nested? moved = some others →
      entries.Perm others → (entries.map Record.type).Nodup →
      let listed := fun data => (stations (l.answered .granted
        [GenericMessage.station Command.newStation.code 1 [] [] data]) i).1
      listed moved = listed data := by
  intro hall
  have hsame := hall (Link.start 0 []) .blank _ _ _ _ nested?_wrapped_full nested?_full_wrapped
    (.swap _ _ _) (by decide)
  revert hsame
  decide +kernel

end Directory

end NeighborAwareness
