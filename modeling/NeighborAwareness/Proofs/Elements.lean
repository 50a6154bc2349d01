import NeighborAwareness.Element

/-!
# Reading element lists that were written

An element that was encoded is split off again, whatever octets follow it. So a list of elements
that was encoded is accepted as a whole and handed out element by element.

## Main results

* `Element.split_append_of_encode` : an encoded element is split off the octets behind it.
* `ElementList.elements_of_encodeAll` : the elements of encoded octets are those encoded.
* `ElementList.ofBytes_of_encodeAll` : encoded octets are accepted.
-/

namespace NeighborAwareness

namespace Element

/-- The octets of an element that has some: identifier, length and data. -/
theorem eq_of_encode {e : Element} {bytes : Bytes} (h : e.encode = .ok bytes) :
    bytes = e.id :: LittleEndian.encode 2 e.data.length ++ e.data ∧ e.data.length ≤ maxData := by
  unfold encode at h
  split at h
  · rename_i hle
    exact ⟨(Except.ok.inj h).symm, hle⟩
  · simp at h

/-- The octets of a list of elements are those of the first and those of the others. -/
theorem encodeAll_cons {e : Element} {rest : List Element} {bytes : Bytes}
    (h : encodeAll (e :: rest) = .ok bytes) :
    ∃ front back, e.encode = .ok front ∧ encodeAll rest = .ok back ∧ bytes = front ++ back := by
  simp only [encodeAll, bind, Except.bind] at h
  split at h
  · simp at h
  · rename_i front hfront
    split at h
    · simp at h
    · rename_i back hback
      exact ⟨front, back, hfront, hback, (Except.ok.inj h).symm⟩

/-- An encoded element is split off the octets behind it. -/
theorem split_append_of_encode {e : Element} {bytes : Bytes} (h : e.encode = .ok bytes)
    (rest : Bytes) : split (bytes ++ rest) = .ok (e, rest) := by
  obtain ⟨rfl, hle⟩ := eq_of_encode h
  have hlimit : e.data.length < LittleEndian.limit 2 :=
    Nat.lt_of_le_of_lt hle (by decide)
  have hdecode := LittleEndian.decode_encode hlimit
  simp only [LittleEndian.encode] at hdecode
  simp only [LittleEndian.encode, List.cons_append, List.nil_append, split, hdecode,
    List.take_left, List.drop_left, if_true]

theorem ne_nil_of_encode {e : Element} {bytes : Bytes} (h : e.encode = .ok bytes) :
    bytes ≠ [] := by
  rw [(eq_of_encode h).1]
  exact List.cons_ne_nil _ _

end Element

namespace ElementList

theorem check_of_split {bytes rest : Bytes} {e : Element} (hbytes : bytes ≠ [])
    (h : Element.split bytes = .ok (e, rest)) : check bytes = check rest := by
  rw [check.eq_1]
  simp only [List.isEmpty_iff, hbytes, if_false]
  split
  · rename_i hsplit
    simp [h] at hsplit
  · rename_i hsplit
    simp only [h, Except.ok.injEq, Prod.mk.injEq] at hsplit
    rw [hsplit.2]

theorem elements_of_split {bytes rest : Bytes} {e : Element} (hbytes : bytes ≠ [])
    (h : Element.split bytes = .ok (e, rest)) : elements bytes = e :: elements rest := by
  rw [elements.eq_1]
  simp only [List.isEmpty_iff, hbytes, if_false]
  split
  · rename_i hsplit
    simp [h] at hsplit
  · rename_i hsplit
    simp only [h, Except.ok.injEq, Prod.mk.injEq] at hsplit
    rw [hsplit.1, hsplit.2]

/-- Octets behind a list that was encoded are checked after it, and their elements are handed out
after those encoded. -/
theorem check_elements_append {es : List Element} {front : Bytes}
    (h : Element.encodeAll es = .ok front) (back : Bytes) :
    check (front ++ back) = check back ∧ elements (front ++ back) = es ++ elements back := by
  induction es generalizing front with
  | nil =>
    obtain rfl : [] = front := Except.ok.inj h
    exact ⟨rfl, rfl⟩
  | cons e es ih =>
    obtain ⟨first, others, hfirst, hothers, rfl⟩ := Element.encodeAll_cons h
    obtain ⟨hcheck, helements⟩ := ih hothers
    have hne : first ++ (others ++ back) ≠ [] :=
      List.append_ne_nil_of_left_ne_nil (Element.ne_nil_of_encode hfirst) _
    have hsplit := Element.split_append_of_encode hfirst (others ++ back)
    rw [List.append_assoc]
    exact ⟨(check_of_split hne hsplit).trans hcheck,
      (elements_of_split hne hsplit).trans (congrArg (e :: ·) helements)⟩

theorem check_nil : check [] = none := by
  rw [check.eq_1]
  rfl

theorem elements_nil : elements [] = [] := by
  rw [elements.eq_1]
  rfl

/-- Encoded octets are accepted. -/
theorem ofBytes_of_encodeAll {es : List Element} {bytes : Bytes}
    (h : Element.encodeAll es = .ok bytes) : ofBytes bytes = .ok ⟨bytes⟩ := by
  have hcheck := (check_elements_append h []).1
  rw [List.append_nil, check_nil] at hcheck
  simp only [ofBytes, hcheck]

/-- The elements of encoded octets are those encoded. -/
theorem elements_of_encodeAll {es : List Element} {bytes : Bytes}
    (h : Element.encodeAll es = .ok bytes) : elements bytes = es := by
  have helements := (check_elements_append h []).2
  rwa [List.append_nil, elements_nil, List.append_nil] at helements

end ElementList

end NeighborAwareness
