/-!
# Octet strings

Frames, attributes and datagrams are lists of octets. This file names the type and the ways of
writing into octets that are already there.

## Main definitions

* `Bytes` : octet strings.
* `Bytes.overlay` : new octets over the front of old ones.
* `Bytes.splice` : the same at an offset.
* `Bytes.patch` : a template with its fields filled in.
* `Bytes.slice?` : a part of octets, if it is in range.

## Main results

* `Bytes.length_overlay` : an overlay is as long as the longer of the two.
* `Bytes.take_overlay`, `Bytes.drop_overlay` : the front is new and the rest is old.
* `Bytes.splice_overlay`, `Bytes.splice_length_overlay` : new octets that are changed or go on.
* `Bytes.length_patch` : a template keeps its length.
-/

namespace NeighborAwareness

/-- An octet string, as it travels on the air or through a socket. -/
abbrev Bytes := List UInt8

namespace Bytes

/-- `front` written over the beginning of `back`; octets of `back` further on stay. -/
def overlay (front back : Bytes) : Bytes :=
  front ++ back.drop front.length

/-- `data` written over `bytes` from `offset` on. -/
def splice (bytes : Bytes) (offset : Nat) (data : Bytes) : Bytes :=
  bytes.take offset ++ overlay data (bytes.drop offset)

/-- A template in which fields are filled in, each at its offset and one after the other. -/
def patch (template : Bytes) (fields : List (Nat × Bytes)) : Bytes :=
  fields.foldl (fun bytes field => bytes.splice field.1 field.2) template

/-- An overlay is as long as the longer of its two parts. -/
theorem length_overlay (front back : Bytes) :
    (overlay front back).length = max front.length back.length := by
  simp only [overlay, List.length_append, List.length_drop]
  omega

/-- The front of an overlay is the new octets. -/
@[simp] theorem take_overlay (front back : Bytes) :
    (overlay front back).take front.length = front := by
  simp [overlay]

/-- Behind the new octets an overlay keeps the old ones. -/
@[simp] theorem drop_overlay (front back : Bytes) :
    (overlay front back).drop front.length = back.drop front.length := by
  simp [overlay]

theorem splice_eq (bytes data : Bytes) (offset : Nat) :
    bytes.splice offset data
      = bytes.take offset ++ (data ++ bytes.drop (offset + data.length)) := by
  rw [splice, overlay, List.drop_drop]

theorem length_splice_of_le {bytes data : Bytes} {offset : Nat}
    (h : data.length ≤ bytes.length - offset) : (bytes.splice offset data).length = bytes.length := by
  rw [splice, List.length_append, length_overlay, List.length_take, List.length_drop]
  omega

theorem length_splice {bytes data : Bytes} {offset : Nat}
    (h : offset + data.length ≤ bytes.length) : (bytes.splice offset data).length = bytes.length :=
  length_splice_of_le (Nat.le_sub_of_add_le' h)

/-- Writing inside the new octets of an overlay. -/
theorem splice_overlay {front data : Bytes} {offset : Nat} (back : Bytes)
    (h : offset + data.length ≤ front.length) :
    (overlay front back).splice offset data = overlay (front.splice offset data) back := by
  have htake : (overlay front back).take offset = front.take offset :=
    List.take_append_of_le_length (by omega)
  have hdrop : (overlay front back).drop (offset + data.length)
      = front.drop (offset + data.length) ++ back.drop front.length :=
    List.drop_append_of_le_length h
  rw [splice_eq, htake, hdrop, overlay, length_splice h, splice_eq]
  simp only [List.append_assoc]

theorem splice_append (front bytes data : Bytes) (offset : Nat) :
    (front ++ bytes).splice (front.length + offset) data = front ++ bytes.splice offset data := by
  rw [splice_eq, splice_eq, List.take_length_add_append, Nat.add_assoc, List.drop_length_add_append,
    List.append_assoc]

/-- Writing behind the new octets of an overlay. -/
theorem splice_length_overlay (front data back : Bytes) :
    (overlay front back).splice front.length data = overlay (front ++ data) back := by
  rw [splice, take_overlay, drop_overlay, overlay, overlay, List.drop_drop, List.length_append,
    List.append_assoc]

/-- Fields inside a template do not change its length. -/
theorem length_patch {template : Bytes} {fields : List (Nat × Bytes)}
    (h : ∀ field ∈ fields, field.1 + field.2.length ≤ template.length) :
    (template.patch fields).length = template.length := by
  induction fields generalizing template with
  | nil => rfl
  | cons field fields ih =>
    have hlength := length_splice (h field List.mem_cons_self)
    have hrest : ∀ other ∈ fields,
        other.1 + other.2.length ≤ (template.splice field.1 field.2).length :=
      fun other hother => hlength ▸ h other (List.mem_cons_of_mem _ hother)
    exact (ih hrest).trans hlength

/-! ### Parts -/

variable {bytes : Bytes} {start stop : Nat}

/-- The octets from `start` up to `stop`, nothing when that is out of range. -/
def slice? (bytes : Bytes) (start stop : Nat) : Option Bytes :=
  if start ≤ stop ∧ stop ≤ bytes.length then some ((bytes.take stop).drop start) else none

theorem slice?_eq (hstart : start ≤ stop) (hstop : stop ≤ bytes.length) :
    slice? bytes start stop = some ((bytes.take stop).drop start) :=
  if_pos ⟨hstart, hstop⟩

theorem slice?_front (hstop : stop ≤ bytes.length) : slice? bytes 0 stop = some (bytes.take stop) :=
  slice?_eq (Nat.zero_le _) hstop

theorem slice?_back (hstart : start ≤ bytes.length) :
    slice? bytes start bytes.length = some (bytes.drop start) := by
  rw [slice?_eq hstart (Nat.le_refl _), List.take_length]

end Bytes

end NeighborAwareness
