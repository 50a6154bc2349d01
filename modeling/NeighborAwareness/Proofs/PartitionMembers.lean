import Mathlib.Data.List.Perm.Basic
import NeighborAwareness.Directory.Interface

/-!
# Who is in a partition

Splitting interfaces by role loses none and doubles none, so looking an index up in a partition
finds one of the interfaces with that index, if there is one.

## Main results

* `Keyed.flatten_values_alter_perm` : a group with one more member.
* `Partition.all_ofInterfaces_perm` : a partition has the interfaces that it was made of.
* `Partition.mem_of_find?_ofInterfaces`, `Partition.find?_ofInterfaces_eq_none_iff` : looking an
  index up.
-/

namespace NeighborAwareness

/-- One more member in one of the groups of a table. -/
theorem Keyed.flatten_values_alter_perm {α : Type} (key : UInt32) (a : α)
    (table : Keyed (List α)) :
    (values (alter key (fun group => group.getD [] ++ [a]) table)).flatten.Perm
      (a :: (values table).flatten) := by
  induction table with
  | nil => exact .refl _
  | cons entry rest ih =>
    obtain ⟨k, group⟩ := entry
    rw [alter]
    split
    · exact (ih.append_left group).trans List.perm_middle
    · split
      · rw [values, values, List.map_cons, List.map_cons, List.flatten_cons, List.flatten_cons,
          Option.getD_some, List.append_assoc]
        exact List.perm_middle
      · exact .refl _

namespace Partition

theorem all_add_perm (p : Partition) (i : Interface) : (p.add i).all.Perm (i :: p.all) := by
  rw [add]
  split
  · exact ((Keyed.flatten_values_alter_perm i.phy i p.monitors).append_left p.active).trans
      List.perm_middle
  · rw [all, List.append_assoc]
    exact List.perm_middle

theorem all_foldl_add_perm (interfaces : List Interface) (p : Partition) :
    (interfaces.foldl add p).all.Perm (interfaces ++ p.all) := by
  induction interfaces generalizing p with
  | nil => exact .refl _
  | cons i interfaces ih =>
    exact (ih (p.add i)).trans (((p.all_add_perm i).append_left interfaces).trans List.perm_middle)

/-- A partition has the interfaces that it was made of. -/
theorem all_ofInterfaces_perm (interfaces : List Interface) :
    (ofInterfaces interfaces).all.Perm interfaces := by
  have h := all_foldl_add_perm interfaces empty
  rwa [show empty.all = [] from rfl, List.append_nil] at h

variable {interfaces : List Interface} {index : UInt32}

/-- What is found is one of the interfaces, and has the index. -/
theorem mem_of_find?_ofInterfaces {i : Interface}
    (h : (ofInterfaces interfaces).find? index = some i) : i ∈ interfaces ∧ i.index = index :=
  ⟨(all_ofInterfaces_perm interfaces).mem_iff.1 (List.mem_of_find?_eq_some h),
    by simpa using List.find?_some h⟩

/-- Nothing is found just if no interface has the index. -/
theorem find?_ofInterfaces_eq_none_iff :
    (ofInterfaces interfaces).find? index = none ↔ ∀ i ∈ interfaces, i.index ≠ index := by
  simp only [find?, List.find?_eq_none, (all_ofInterfaces_perm interfaces).mem_iff, beq_iff_eq,
    ne_eq]

end Partition

end NeighborAwareness
