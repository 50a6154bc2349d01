import Mathlib.Data.List.Induction
import NeighborAwareness.Directory.Basic
import NeighborAwareness.Proofs.PartitionMembers

/-!
# Enumerations

An enumeration lists the interfaces of all messages that carry an index, in the order of the
indexes; messages with equal ones keep the order in which they came. The directory splits the list
into monitors, by radio, and all others, so that each interface stands in just one place. Looking an
index up finds an interface of the last enumeration that succeeded; those that fail change nothing.

## Main definitions

* `Interface.described` : the interfaces of the messages that carry an index.
* `Interface.Enumerates` : a list of the interfaces that messages describe.
* `Partition.Splits` : a partition of a list of interfaces.
* `Directory.enumerateAll`, `Directory.reported` : enumerations one after the other, and what the
  last one that succeeded reported.

## Main results

* `Interface.enumerates_ofRows` : what is listed.
* `Partition.splits_ofInterfaces` : how it is split.
* `Directory.partition_enumerateAll` : the directory after any enumerations.
* `Directory.enumeration_and_lookup_agree` : list, partition and lookup in any history.
-/

namespace NeighborAwareness

namespace Interface

/-! ### Lists of interfaces -/

/-- Whether a message carries an index. -/
def isIndexed (row : List Attribute) : Bool :=
  row.any fun x => x.ifindex?.isSome

/-- The interfaces of the messages that carry an index. -/
def described (rows : List (List Attribute)) : List Interface :=
  (rows.filter isIndexed).map fun row => row.foldl learn blank

theorem filterMap_ofRow? (rows : List (List Attribute)) :
    rows.filterMap ofRow? = described rows := by
  induction rows with
  | nil => rfl
  | cons row rows ih =>
    have hindexed : (row.findSome? Attribute.ifindex?).isSome = isIndexed row := by
      rw [isIndexed, Bool.eq_iff_iff, List.findSome?_isSome_iff, List.any_eq_true]
    rw [List.filterMap_cons, ofRow?, hindexed, ih, described, described, List.filter_cons]
    cases isIndexed row <;> rfl

/-- A list has the interfaces of all messages that carry an index, each as often as there are
messages that describe it, in the order of their indexes, and where these are equal in the order of
the messages. -/
structure Enumerates (rows : List (List Attribute)) (interfaces : List Interface) : Prop where
  perm : interfaces.Perm (described rows)
  sorted : interfaces.Pairwise fun i j => i.index ≤ j.index
  stable : ∀ index, interfaces.filter (·.index == index)
    = (described rows).filter (·.index == index)

theorem index_le_trans (a b c : Interface) (hab : decide (a.index ≤ b.index) = true)
    (hbc : decide (b.index ≤ c.index) = true) : decide (a.index ≤ c.index) = true :=
  decide_eq_true (UInt32.le_trans (of_decide_eq_true hab) (of_decide_eq_true hbc))

theorem index_le_total (a b : Interface) :
    (decide (a.index ≤ b.index) || decide (b.index ≤ a.index)) = true := by
  rw [Bool.or_eq_true, decide_eq_true_iff, decide_eq_true_iff]
  exact UInt32.le_total a.index b.index

/-- Sorting by index keeps the order of the interfaces with an index. -/
theorem filter_mergeSort (interfaces : List Interface) (index : UInt32) :
    (interfaces.mergeSort fun a b => a.index ≤ b.index).filter (·.index == index)
      = interfaces.filter (·.index == index) := by
  have hequal : (interfaces.filter (·.index == index)).Pairwise
      fun a b => decide (a.index ≤ b.index) = true := by
    refine List.pairwise_of_forall_mem_list fun a ha b hb => decide_eq_true ?_
    rw [beq_iff_eq.1 (List.mem_filter.1 ha).2, beq_iff_eq.1 (List.mem_filter.1 hb).2]
    exact UInt32.le_refl index
  have hsublist := (List.sublist_mergeSort index_le_trans index_le_total hequal
    List.filter_sublist).filter (·.index == index)
  rw [List.filter_filter] at hsublist
  simp only [Bool.and_self] at hsublist
  exact (hsublist.eq_of_length ((List.mergeSort_perm ..).filter _).length_eq.symm).symm

/-- An enumeration lists the interfaces that the messages describe. -/
theorem enumerates_ofRows (rows : List (List Attribute)) : Enumerates rows (ofRows rows).1 where
  perm := filterMap_ofRow? rows ▸ List.mergeSort_perm ..
  sorted := by
    have hsorted := List.pairwise_mergeSort index_le_trans index_le_total (rows.filterMap ofRow?)
    exact hsorted.imp of_decide_eq_true
  stable index := filterMap_ofRow? rows ▸ filter_mergeSort _ index

end Interface

namespace Partition

/-! ### Partitions -/

/-- The monitors of a radio. -/
def monitorsOn (phy : UInt32) (interfaces : List Interface) : List Interface :=
  interfaces.filter fun i => i.isMonitor && i.phy == phy

/-- A partition has each interface of a list as often as the list. Monitors stand under their radio
and all others among the active ones, in the order of the list; each radio with a monitor has one
group, and no other one has any. -/
structure Splits (interfaces : List Interface) (p : Partition) : Prop where
  count : ∀ i, p.all.count i = interfaces.count i
  active : p.active = interfaces.filter (!·.isMonitor)
  monitors : ∀ phy group, (phy, group) ∈ p.monitors
    ↔ group = monitorsOn phy interfaces ∧ group ≠ []
  ascending : Keyed.Ascending p.monitors

theorem ofInterfaces_concat (interfaces : List Interface) (i : Interface) :
    ofInterfaces (interfaces ++ [i]) = (ofInterfaces interfaces).add i :=
  List.foldl_append

theorem active_ofInterfaces (interfaces : List Interface) :
    (ofInterfaces interfaces).active = interfaces.filter (!·.isMonitor) := by
  induction interfaces using List.reverseRecOn with
  | nil => rfl
  | append_singleton interfaces i ih =>
    rw [ofInterfaces_concat, add, List.filter_append, ← ih]
    cases h : i.isMonitor <;> simp [h]

theorem ascending_monitors_ofInterfaces (interfaces : List Interface) :
    Keyed.Ascending (ofInterfaces interfaces).monitors := by
  induction interfaces using List.reverseRecOn with
  | nil => exact .nil
  | append_singleton interfaces i ih =>
    rw [ofInterfaces_concat, add]
    split
    · exact Keyed.ascending_alter ih
    · exact ih

theorem get?_monitors_ofInterfaces (interfaces : List Interface) (phy : UInt32) :
    (ofInterfaces interfaces).monitors.get? phy
      = if monitorsOn phy interfaces = [] then none else some (monitorsOn phy interfaces) := by
  induction interfaces using List.reverseRecOn with
  | nil => rfl
  | append_singleton interfaces i ih =>
    rw [ofInterfaces_concat, add, monitorsOn, List.filter_append, ← monitorsOn]
    split
    · next hmonitor =>
      by_cases hphy : phy = i.phy
      · subst hphy
        rw [Keyed.get?_alter_self _ _ _ (ascending_monitors_ofInterfaces interfaces), ih]
        by_cases hnone : monitorsOn i.phy interfaces = [] <;> simp [hnone, hmonitor]
      · rw [Keyed.get?_alter_of_ne _ _ hphy, ih]
        simp [Ne.symm hphy]
    · next hother =>
      rw [ih]
      simp [hother]

/-- Making a partition splits a list. -/
theorem splits_ofInterfaces (interfaces : List Interface) :
    Splits interfaces (ofInterfaces interfaces) where
  count i := (all_ofInterfaces_perm interfaces).count_eq i
  active := active_ofInterfaces interfaces
  monitors phy group := by
    rw [Keyed.mem_iff_get?_eq_some (ascending_monitors_ofInterfaces interfaces),
      get?_monitors_ofInterfaces]
    split
    · next hnone =>
      rw [hnone]
      exact iff_of_false nofun fun h => absurd h.1 h.2
    · next hsome =>
      rw [Option.some.injEq]
      exact ⟨fun h => ⟨h.symm, h ▸ hsome⟩, fun h => h.1.symm⟩
  ascending := ascending_monitors_ofInterfaces interfaces

end Partition

namespace Directory

/-! ### Histories -/

/-- Enumerations one after the other, each through the link as it is by then: what they return, and
the directory afterwards. -/
def enumerateAll (d : Directory) :
    List Link → List (Except Failure (List Interface)) × Directory
  | [] => ([], d)
  | l :: rest =>
    let (result, d, _) := d.listInterfaces l
    let (results, d) := d.enumerateAll rest
    (result :: results, d)

/-- What the last enumeration that succeeded reported. -/
def reported (results : List (Except Failure (List Interface))) : List Interface :=
  ((results.filterMap Except.toOption).getLast?).getD []

variable (d : Directory) (l : Link)

/-- An enumeration that fails changes nothing, and another one lists and splits what is described by
the messages. -/
theorem listInterfaces_eq :
    ((d.listInterfaces l).1, (d.listInterfaces l).2.1)
      = match (l.execute .getInterface [] true .newInterface).1 with
        | .error failure => (.error failure, d)
        | .ok rows => (.ok (Interface.ofRows rows).1, ⟨.ofInterfaces (Interface.ofRows rows).1⟩) := by
  rw [listInterfaces]
  rcases l.execute .getInterface [] true .newInterface with ⟨failure | rows, after⟩ <;> rfl

theorem enumerateAll_concat (links : List Link) :
    d.enumerateAll (links ++ [l])
      = ((d.enumerateAll links).1 ++ [((d.enumerateAll links).2.listInterfaces l).1],
        ((d.enumerateAll links).2.listInterfaces l).2.1) := by
  induction links generalizing d with
  | nil => rfl
  | cons first links ih => simp only [List.cons_append, enumerateAll, ih]

/-- The directory splits what the last enumeration that succeeded reported. -/
theorem partition_enumerateAll (links : List Link) :
    (empty.enumerateAll links).2.partition
      = .ofInterfaces (reported (empty.enumerateAll links).1) := by
  induction links using List.reverseRecOn with
  | nil => rfl
  | append_singleton links l ih =>
    have hnext := (empty.enumerateAll links).2.listInterfaces_eq l
    rw [enumerateAll_concat, reported, List.filterMap_append]
    split at hnext
    all_goals
      obtain ⟨hresult, hafter⟩ := Prod.mk.inj hnext
      rw [hresult, hafter]
    · simpa [Except.toOption, reported] using ih
    · simp [Except.toOption]

/-- After any enumerations, of which some may have failed: the next one returns the interfaces of all
messages that carry an index, or fails and leaves the directory as it is. The directory holds what
the last one that succeeded returned, each interface in its place, and looking an index up finds one
of these interfaces with the index, if there is one, and otherwise nothing. -/
theorem enumeration_and_lookup_agree (links : List Link) (l : Link) :
    let history := empty.enumerateAll links
    let d := history.2
    let next := d.listInterfaces l
    let reply := (l.execute .getInterface [] true .newInterface).1
    (∀ failure, reply = .error failure → next.1 = .error failure ∧ next.2.1 = d)
      ∧ (∀ rows, reply = .ok rows → ∃ interfaces, next.1 = .ok interfaces
        ∧ Interface.Enumerates rows interfaces ∧ Partition.Splits interfaces next.2.1.partition)
      ∧ Partition.Splits (reported history.1) d.partition
      ∧ ∀ index,
        (∃ i ∈ reported history.1, i.index = index ∧ d.interface index = .ok i)
          ∨ (∀ i ∈ reported history.1, i.index ≠ index)
            ∧ d.interface index = .error (.of (.unknownInterface index)) := by
  intro history d next reply
  have hnext : (next.1, next.2.1) = match reply with | .error _ => _ | .ok _ => _ :=
    d.listInterfaces_eq l
  have hpartition : d.partition = .ofInterfaces (reported history.1) := partition_enumerateAll links
  refine ⟨fun failure h => ?_, fun rows h => ?_, ?_, fun index => ?_⟩
  · rw [h] at hnext
    exact Prod.mk.inj hnext
  · rw [h] at hnext
    obtain ⟨hresult, hafter⟩ := Prod.mk.inj hnext
    refine ⟨_, hresult, Interface.enumerates_ofRows rows, ?_⟩
    rw [hafter]
    exact Partition.splits_ofInterfaces _
  · rw [hpartition]
    exact Partition.splits_ofInterfaces _
  · rw [interface, hpartition]
    split
    · next i hfound =>
      obtain ⟨hmem, hindex⟩ := Partition.mem_of_find?_ofInterfaces hfound
      exact .inl ⟨i, hmem, hindex, rfl⟩
    · next hnone => exact .inr ⟨Partition.find?_ofInterfaces_eq_none_iff.1 hnone, rfl⟩

end Directory

end NeighborAwareness
