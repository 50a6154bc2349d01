/-!
# Tables by number

Radios, and the interfaces of each radio, are kept by number in ascending order.

## Main definitions

* `Keyed.alter` : changes the entry of a number, or makes one in its place.
* `Keyed.get?` : the entry of a number.

## Main results

* `Keyed.get?_alter_self`, `Keyed.get?_alter_of_ne` : the entries after a change.
* `Keyed.alter_const_comm` : two changes in either order.
* `Keyed.mem_iff_get?_eq_some` : the entries are those that are found.
-/

namespace NeighborAwareness

/-- Entries by number, in ascending order. -/
abbrev Keyed (α : Type) := List (UInt32 × α)

namespace Keyed

variable {α : Type}

/-- The entry of a number. -/
def get? (table : Keyed α) (key : UInt32) : Option α :=
  table.lookup key

/-- The entries in order. -/
def values (table : Keyed α) : List α :=
  table.map Prod.snd

/-- The table in which the entry of `key` is what `change` makes of the old one. -/
def alter (key : UInt32) (change : Option α → α) : Keyed α → Keyed α
  | [] => [(key, change none)]
  | (k, a) :: rest =>
    if k < key then (k, a) :: alter key change rest
    else if k = key then (k, change (some a)) :: rest
    else (key, change none) :: (k, a) :: rest

/-- Numbers ascend. -/
def Ascending (table : Keyed α) : Prop :=
  table.Pairwise fun x y => x.1 < y.1

theorem fst_mem_alter {key : UInt32} {change : Option α → α} {table : Keyed α} {x : UInt32 × α}
    (h : x ∈ alter key change table) : x.1 = key ∨ ∃ y ∈ table, y.1 = x.1 := by
  induction table with
  | nil =>
    simp only [alter, List.mem_singleton] at h
    exact Or.inl (by rw [h])
  | cons entry rest ih =>
    obtain ⟨k, a⟩ := entry
    simp only [alter] at h
    split at h
    · rcases List.mem_cons.1 h with rfl | h
      · exact Or.inr ⟨_, List.mem_cons_self, rfl⟩
      · rcases ih h with h | ⟨y, hy, hxy⟩
        · exact Or.inl h
        · exact Or.inr ⟨y, List.mem_cons_of_mem _ hy, hxy⟩
    · split at h
      · rename_i hk
        rcases List.mem_cons.1 h with rfl | h
        · exact Or.inl hk
        · exact Or.inr ⟨x, List.mem_cons_of_mem _ h, rfl⟩
      · rcases List.mem_cons.1 h with rfl | h
        · exact Or.inl rfl
        · exact Or.inr ⟨x, h, rfl⟩

theorem ascending_alter {key : UInt32} {change : Option α → α} {table : Keyed α}
    (h : Ascending table) : Ascending (alter key change table) := by
  induction table with
  | nil => simp [alter, Ascending]
  | cons entry rest ih =>
    obtain ⟨k, a⟩ := entry
    obtain ⟨hk, hrest⟩ := List.pairwise_cons.1 h
    simp only [alter]
    split
    · rename_i hlt
      refine List.pairwise_cons.2 ⟨?_, ih hrest⟩
      intro x hx
      rcases fst_mem_alter hx with hx | ⟨y, hy, hxy⟩
      · rw [hx]
        exact hlt
      · rw [← hxy]
        exact hk y hy
    · split
      · exact List.pairwise_cons.2 ⟨hk, hrest⟩
      · rename_i hlt hne
        have hlt : key < k := by
          rw [UInt32.lt_iff_toNat_lt] at hlt ⊢
          have : k.toNat ≠ key.toNat := fun e => hne (UInt32.toNat_inj.1 e)
          omega
        refine List.pairwise_cons.2 ⟨?_, h⟩
        intro x hx
        rcases List.mem_cons.1 hx with rfl | hx
        · exact hlt
        · exact UInt32.lt_trans hlt (hk x hx)

/-- The entry that was changed. -/
theorem get?_alter_self (key : UInt32) (change : Option α → α) (table : Keyed α)
    (h : Ascending table) : (alter key change table).get? key = some (change (table.get? key)) := by
  induction table with
  | nil => simp [alter, get?]
  | cons entry rest ih =>
    obtain ⟨k, a⟩ := entry
    obtain ⟨hk, hrest⟩ := List.pairwise_cons.1 h
    simp only [alter]
    split
    · rename_i hlt
      have hne : (key == k) = false := by
        simp only [beq_eq_false_iff_ne, ne_eq]
        rintro rfl
        exact UInt32.lt_irrefl _ hlt
      simp only [get?, List.lookup_cons, hne]
      exact ih hrest
    · split
      · rename_i hk
        simp [get?, hk]
      · rename_i hlt hne
        have hne' : (key == k) = false := by
          simp only [beq_eq_false_iff_ne, ne_eq]
          exact fun e => hne e.symm
        have hnone : rest.lookup key = none := by
          rw [List.lookup_eq_none_iff]
          intro x hx
          have hx := hk x hx
          simp only [bne_iff_ne, ne_eq]
          rintro rfl
          exact hlt hx
        simp [get?, List.lookup_cons, hne', hnone]

/-- Other entries stay. -/
theorem get?_alter_of_ne {key other : UInt32} (change : Option α → α) (table : Keyed α)
    (h : other ≠ key) : (alter key change table).get? other = table.get? other := by
  have hne : (other == key) = false := by simp [h]
  simp only [get?]
  induction table with
  | nil => simp [alter, List.lookup_cons, hne]
  | cons entry rest ih =>
    obtain ⟨k, a⟩ := entry
    simp only [alter]
    split
    · simp only [List.lookup_cons, ih]
    · split
      · rename_i hk
        subst hk
        simp [List.lookup_cons, hne]
      · simp [List.lookup_cons, hne]

theorem get?_alter_const (key : UInt32) (a : α) (table : Keyed α) :
    (alter key (fun _ => a) table).get? key = some a := by
  induction table with
  | nil => simp [alter, get?]
  | cons entry rest ih =>
    obtain ⟨k, b⟩ := entry
    rw [alter]
    split
    · next hlt =>
      have hne : (key == k) = false := beq_eq_false_iff_ne.2 (UInt32.ne_of_lt hlt).symm
      rw [get?, List.lookup_cons, hne]
      exact ih
    · split
      · next hk => simp [get?, hk]
      · simp [get?]

theorem alter_const_comm_of_lt {key other : UInt32} (h : key < other) (a b : α) (table : Keyed α) :
    alter other (fun _ => b) (alter key (fun _ => a) table)
      = alter key (fun _ => a) (alter other (fun _ => b) table) := by
  have hasymm : ¬other < key := UInt32.lt_asymm h
  have hne : key ≠ other := UInt32.ne_of_lt h
  induction table with
  | nil => simp [alter, h, hasymm, hne.symm]
  | cons entry rest ih =>
    obtain ⟨k, c⟩ := entry
    -- The first entry lies below both numbers, at one of them, between them, or above both.
    by_cases hk : k < key
    · have hk' : k < other := UInt32.lt_trans hk h
      simp [alter, hk, hk', ih]
    · by_cases hkey : k = key
      · subst hkey
        simp [alter, h, UInt32.lt_irrefl]
      · by_cases hk' : k < other
        · simp [alter, hk, hkey, hk', h]
        · by_cases hother : k = other
          · subst hother
            simp [alter, hkey, h, hasymm, UInt32.lt_irrefl]
          · simp [alter, hk, hkey, hk', hother, h, hasymm, hne.symm]

/-- Changes of two entries may be made in either order. -/
theorem alter_const_comm {key other : UInt32} (h : key ≠ other) (a b : α) (table : Keyed α) :
    alter other (fun _ => b) (alter key (fun _ => a) table)
      = alter key (fun _ => a) (alter other (fun _ => b) table) := by
  rcases UInt32.lt_or_lt_of_ne h with hlt | hlt
  · exact alter_const_comm_of_lt hlt a b table
  · exact (alter_const_comm_of_lt hlt b a table).symm

/-- The entries of a table are those that are found in it. -/
theorem mem_iff_get?_eq_some {table : Keyed α} (h : Ascending table)
    {key : UInt32} {a : α} : (key, a) ∈ table ↔ table.get? key = some a := by
  induction table with
  | nil => simp [get?]
  | cons entry rest ih =>
    obtain ⟨k, b⟩ := entry
    obtain ⟨hk, hrest⟩ := List.pairwise_cons.1 h
    rw [get?, List.lookup_cons, List.mem_cons, Prod.mk.injEq]
    by_cases hkey : key = k
    · -- Other entries have larger numbers.
      subst hkey
      have hnot : (key, a) ∉ rest := fun hmem => UInt32.lt_irrefl key (hk (key, a) hmem)
      simp [hnot, eq_comm]
    · rw [show (key == k) = false from beq_eq_false_iff_ne.2 hkey]
      simp only [hkey, false_and, false_or]
      exact ih hrest

end Keyed

end NeighborAwareness
