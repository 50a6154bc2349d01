import Mathlib.Logic.Basic
import Mathlib.Logic.ExistsUnique
import NeighborAwareness.Proofs.Elements

/-!
# The element codec is exact

A list of elements can be encoded just if all data fits the length field, and octets are accepted
just if they are the encoding of a list, of which there is then one. If they are not accepted, the
failure describes what follows the longest beginning of them that is the encoding of a list.

## Main definitions

* `Element.octets` : the octets of an element whose data fits.
* `Element.complaint` : what is wrong with octets that no element is in front of.
* `ElementList.draws` : an iteration, element by element.
* `ElementList.Longest` : the longest beginning that is a list of elements.

## Main results

* `Element.encodeAll_eq` : the octets of a list, or the failure of its first element without any.
* `Element.split_eq_ok_iff`, `Element.eq_complaint_of_split` : what splitting an element off means.
* `ElementList.exists_front`, `ElementList.Longest.of_elements` : the elements that an iteration
  hands out make up the longest beginning.
* `ElementList.ofBytes_of_longest` : octets are judged by what follows it.
* `ElementList.codec_exact` : encoding, reading and iterating agree on all lists and octets.
-/

namespace NeighborAwareness

namespace Element

/-! ### Encoding -/

/-- Identifier, length and data. -/
def octets (e : Element) : Bytes :=
  e.id :: LittleEndian.encode 2 e.data.length ++ e.data

variable {e : Element} {bytes rest : Bytes} {failure : Failure}

theorem encode_eq (e : Element) :
    e.encode = if e.isTooLong then .error e.tooLong else .ok e.octets := by
  simp only [encode, isTooLong, decide_eq_true_eq, ← Nat.not_le, ite_not]
  rfl

/-- What is written is what is encoded, and nothing is written when that fails. -/
theorem run_write (e : Element) (out : Bytes) :
    (e.write.run out : Except Failure Unit × Bytes)
      = match append out e with
        | .ok written => (.ok (), written)
        | .error failure => (.error failure, out) := by
  rw [append, encode_eq, write]
  cases e.isTooLong with
  | true => rfl
  | false =>
    have hoctets : out ++ [e.id] ++ LittleEndian.encode 2 e.data.length ++ e.data
        = out ++ e.octets := by
      rw [octets, List.append_assoc, List.append_assoc, List.singleton_append, List.cons_append]
    exact congrArg (Prod.mk (Except.ok ())) hoctets

/-- A list has octets unless the data of one of its elements does not fit. -/
theorem encodeAll_eq (es : List Element) :
    encodeAll es = match es.find? isTooLong with
      | some e => .error e.tooLong
      | none => .ok (es.flatMap octets) := by
  induction es with
  | nil => rfl
  | cons e es ih =>
    rw [encodeAll, ih, encode_eq, List.find?_cons]
    cases e.isTooLong with
    | true => rfl
    | false => cases es.find? isTooLong <;> rfl

theorem encodeAll_eq_ok_iff (es : List Element) :
    encodeAll es = .ok bytes ↔ (∀ e ∈ es, e.data.length ≤ maxData) ∧ es.flatMap octets = bytes := by
  have hfits : (∀ e ∈ es, e.data.length ≤ maxData) ↔ es.find? isTooLong = none := by
    simp only [List.find?_eq_none, isTooLong, decide_eq_true_eq, Nat.not_lt]
  rw [hfits, encodeAll_eq]
  cases es.find? isTooLong <;> simp

theorem encodeAll_eq_error_iff (es : List Element) :
    encodeAll es = .error failure ↔ ∃ e, es.find? isTooLong = some e ∧ failure = e.tooLong := by
  rw [encodeAll_eq]
  cases es.find? isTooLong <;> simp [eq_comm]

/-! ### Splitting -/

/-- What is wrong with octets that no element is in front of: there are too few of them for a
header, or fewer than the header says behind it. -/
def complaint : Bytes → Failure
  | id :: low :: high :: body =>
    .of (.truncatedElement id (LittleEndian.decode [low, high]) body.length)
  | short => .of (.shortElement short.length)

/-- An element that is split off is encoded in front of the rest. -/
theorem eq_append_of_split (h : split bytes = .ok (e, rest)) :
    e.data.length ≤ maxData ∧ bytes = e.octets ++ rest := by
  unfold split at h
  split at h
  next id low high body =>
    dsimp only at h
    split at h
    next hlength =>
      obtain ⟨rfl, rfl⟩ := Prod.mk.inj (Except.ok.inj h)
      have hlt : LittleEndian.decode [low, high] < LittleEndian.limit 2 :=
        LittleEndian.decode_lt [low, high]
      refine ⟨?_, ?_⟩
      · rw [hlength]
        exact Nat.le_of_lt_succ hlt
      · have hdigits : LittleEndian.encode 2 (LittleEndian.decode [low, high]) = [low, high] :=
          LittleEndian.encode_decode [low, high]
        rw [octets, hlength, hdigits, List.append_assoc, List.take_append_drop]
        rfl
    next => cases h
  next => cases h

theorem split_eq_ok_iff :
    split bytes = .ok (e, rest) ↔ e.data.length ≤ maxData ∧ bytes = e.octets ++ rest := by
  refine ⟨eq_append_of_split, ?_⟩
  rintro ⟨hfits, rfl⟩
  refine split_append_of_encode ?_ rest
  rw [encode_eq, isTooLong, if_neg (by simpa using hfits)]

/-- Splitting fails with the complaint. -/
theorem eq_complaint_of_split (h : split bytes = .error failure) : failure = complaint bytes := by
  unfold split at h
  split at h
  next id low high body =>
    dsimp only at h
    split at h
    next => cases h
    next => exact (Except.error.inj h).symm
  next hshort =>
    rw [complaint]
    · exact (Except.error.inj h).symm
    · exact hshort

end Element

namespace ElementList

variable {bytes front back : Bytes}

theorem elements_of_error {failure : Failure} (h : Element.split bytes = .error failure) :
    elements bytes = [] := by
  rw [elements.eq_1]
  split
  · rfl
  · split
    next => rfl
    next hsplit => rw [h] at hsplit; cases hsplit

theorem check_of_error {failure : Failure} (hbytes : bytes ≠ [])
    (h : Element.split bytes = .error failure) : check bytes = some failure := by
  rw [check.eq_1, if_neg (by simpa using hbytes)]
  split
  next hsplit => rw [h] at hsplit; cases hsplit; rfl
  next hsplit => rw [h] at hsplit; cases hsplit

/-! ### Iteration -/

/-- What an iteration hands out when it is asked so many times. -/
def draws : Nat → Bytes → List (Option Element)
  | 0, _ => []
  | count + 1, left => (next left).1 :: draws count (next left).2

/-- An iteration hands out the first of the elements left, or nothing when there are none. -/
theorem next_eq (left : Bytes) :
    (next left).1 = (elements left).head? ∧ elements (next left).2 = (elements left).tail := by
  rw [next]
  cases left with
  | nil => simp [elements_nil]
  | cons octet others =>
    rw [if_neg (by simp)]
    cases hsplit : Element.split (octet :: others) with
    | error failure =>
      simp [elements_of_error hsplit]
    | ok parts =>
      obtain ⟨e, rest⟩ := parts
      simp [elements_of_split (List.cons_ne_nil octet others) hsplit]

/-- An iteration hands out the elements in order, and then nothing as often as it is asked. -/
theorem draws_eq (count : Nat) (left : Bytes) :
    draws count left
      = ((elements left).take count).map some
        ++ List.replicate (count - (elements left).length) none := by
  induction count generalizing left with
  | zero => simp [draws]
  | succ count ih =>
    obtain ⟨hfirst, hothers⟩ := next_eq left
    rw [draws, ih, hfirst, hothers]
    cases elements left with
    | nil => simp [List.replicate_succ]
    | cons e es => simp

/-! ### The longest list in front -/

/-- `front` is the longest beginning of `bytes` that is an encoded list, and `back` follows it. -/
structure Longest (bytes front back : Bytes) : Prop where
  split : bytes = front ++ back
  encoded : ∃ es, Element.encodeAll es = .ok front
  longest : ∀ es other, Element.encodeAll es = .ok other → other <+: bytes →
    other.length ≤ front.length

/-- Octets are the elements handed out and a rest, which is complained about unless it is empty. -/
theorem exists_front (bytes : Bytes) :
    ∃ front back, bytes = front ++ back ∧ Element.encodeAll (elements bytes) = .ok front
      ∧ check bytes = if back = [] then none else some (Element.complaint back) := by
  induction bytes using elements.induct with
  | case1 bytes hempty =>
    obtain rfl := List.isEmpty_iff.1 hempty
    exact ⟨[], [], rfl, by rw [elements_nil]; rfl, check_nil⟩
  | case2 bytes hempty failure hsplit =>
    have hbytes : bytes ≠ [] := by simpa using hempty
    refine ⟨[], bytes, rfl, ?_, ?_⟩
    · rw [elements_of_error hsplit]
      rfl
    · rw [if_neg hbytes, ← Element.eq_complaint_of_split hsplit]
      exact check_of_error hbytes hsplit
  | case3 bytes hempty e rest hsplit _ ih =>
    have hbytes : bytes ≠ [] := by simpa using hempty
    obtain ⟨front, back, hrest, hencoded, hcheck⟩ := ih
    obtain ⟨hfits, hfirst⟩ := Element.split_eq_ok_iff.1 hsplit
    obtain ⟨hothers, rfl⟩ := (Element.encodeAll_eq_ok_iff _).1 hencoded
    refine ⟨_, back, ?_, (Element.encodeAll_eq_ok_iff _).2 ⟨?_, rfl⟩, ?_⟩
    · rw [elements_of_split hbytes hsplit, List.flatMap_cons, List.append_assoc, ← hrest]
      exact hfirst
    · rw [elements_of_split hbytes hsplit]
      exact List.forall_mem_cons.2 ⟨hfits, hothers⟩
    · exact (check_of_split hbytes hsplit).trans hcheck

/-- The elements handed out make up the longest beginning. -/
theorem Longest.of_elements (hsplit : bytes = front ++ back)
    (hencoded : Element.encodeAll (elements bytes) = .ok front) : Longest bytes front back := by
  refine ⟨hsplit, ⟨_, hencoded⟩, ?_⟩
  rintro es other hother ⟨behind, rfl⟩
  -- What is behind `other` only adds elements to those of `other`.
  rw [(check_elements_append hother behind).2] at hencoded
  obtain ⟨-, rfl⟩ := (Element.encodeAll_eq_ok_iff _).1 hencoded
  obtain ⟨-, rfl⟩ := (Element.encodeAll_eq_ok_iff _).1 hother
  rw [List.flatMap_append, List.length_append]
  exact Nat.le_add_right _ _

theorem Longest.unique (h : Longest bytes front back) {front' back' : Bytes}
    (h' : Longest bytes front' back') : front = front' ∧ back = back' := by
  obtain ⟨es, hes⟩ := h.encoded
  obtain ⟨es', hes'⟩ := h'.encoded
  have hle : front.length ≤ front'.length := h'.longest es front hes ⟨back, h.split.symm⟩
  have hge : front'.length ≤ front.length := h.longest es' front' hes' ⟨back', h'.split.symm⟩
  exact List.append_inj (h.split.symm.trans h'.split) (Nat.le_antisymm hle hge)

/-! ### Reading -/

/-- Octets are accepted just if nothing follows the longest list in front. -/
theorem ofBytes_of_longest (h : Longest bytes front back) :
    ofBytes bytes = if back = [] then .ok ⟨bytes⟩ else .error (Element.complaint back) := by
  obtain ⟨front', back', hsplit, hencoded, hcheck⟩ := exists_front bytes
  obtain ⟨rfl, rfl⟩ := h.unique (.of_elements hsplit hencoded)
  rw [ofBytes, hcheck]
  by_cases hback : back = []
  · rw [if_pos hback, if_pos hback]
  · rw [if_neg hback, if_neg hback]

theorem ofBytes_eq_ok_iff {l : ElementList} :
    ofBytes bytes = .ok l ↔ l.bytes = bytes ∧ Element.encodeAll l.toList = .ok bytes := by
  constructor
  · intro h
    obtain ⟨front, back, hsplit, hencoded, -⟩ := exists_front bytes
    rw [ofBytes_of_longest (.of_elements hsplit hencoded), ite_eq_iff] at h
    obtain ⟨rfl, hl⟩ | ⟨-, hl⟩ := h
    · obtain rfl := Except.ok.inj hl
      rw [List.append_nil] at hsplit
      exact ⟨rfl, hencoded.trans (congrArg Except.ok hsplit.symm)⟩
    · cases hl
  · rintro ⟨rfl, hencoded⟩
    exact ofBytes_of_encodeAll hencoded

/-- Octets are not accepted just if something follows the longest list in front, and the failure
describes it. -/
theorem ofBytes_eq_error_iff {failure : Failure} :
    ofBytes bytes = .error failure
      ↔ ∃ front back, Longest bytes front back ∧ back ≠ [] ∧ failure = Element.complaint back := by
  constructor
  · intro h
    obtain ⟨front, back, hsplit, hencoded, -⟩ := exists_front bytes
    have hlongest : Longest bytes front back := .of_elements hsplit hencoded
    rw [ofBytes_of_longest hlongest, ite_eq_iff] at h
    obtain ⟨-, hl⟩ | ⟨hback, hl⟩ := h
    · cases hl
    · exact ⟨front, back, hlongest, hback, (Except.error.inj hl).symm⟩
  · rintro ⟨front, back, hlongest, hback, rfl⟩
    rw [ofBytes_of_longest hlongest, if_neg hback]

/-- Octets are accepted just if they are the encoding of a list, and of one only. -/
theorem ofBytes_isOk_iff :
    (∃ l, ofBytes bytes = .ok l) ↔ ∃! es, Element.encodeAll es = .ok bytes := by
  constructor
  · rintro ⟨l, hl⟩
    obtain ⟨rfl, hencoded⟩ := ofBytes_eq_ok_iff.1 hl
    exact ⟨l.toList, hencoded, fun es hes => (elements_of_encodeAll hes).symm⟩
  · rintro ⟨es, hes, -⟩
    exact ⟨⟨bytes⟩, ofBytes_of_encodeAll hes⟩

/-- A list of elements is encoded just if all data fits, one element after the other, and fails for
the first whose data does not. An element is written behind what is there, which stays as it is
when that fails. Octets are accepted just if they are the encoding of a list, and then of one list
only, which every iteration hands out, however often it is asked. Otherwise the failure describes
what follows the longest beginning that is the encoding of a list. -/
theorem codec_exact :
    (∀ es bytes, Element.encodeAll es = .ok bytes
      ↔ (∀ e ∈ es, e.data.length ≤ Element.maxData) ∧ es.flatMap Element.octets = bytes)
    ∧ (∀ es failure, Element.encodeAll es = .error failure
      ↔ ∃ e, es.find? Element.isTooLong = some e
        ∧ failure = .of (.payloadTooLarge e.data.length Element.maxData))
    ∧ (∀ e out, (e.write.run out : Except Failure Unit × Bytes)
      = match Element.append out e with
        | .ok written => (.ok (), written)
        | .error failure => (.error failure, out))
    ∧ (∀ es bytes, Element.encodeAll es = .ok bytes
      ↔ ofBytes bytes = .ok ⟨bytes⟩ ∧ toList ⟨bytes⟩ = es)
    ∧ (∀ bytes, (∃ l, ofBytes bytes = .ok l) ↔ ∃! es, Element.encodeAll es = .ok bytes)
    ∧ (∀ bytes l, ofBytes bytes = .ok l
      ↔ l.bytes = bytes ∧ Element.encodeAll l.toList = .ok bytes)
    ∧ (∀ (l : ElementList) (count : Nat), draws count l.bytes
      = (l.toList.take count).map some ++ List.replicate (count - l.length) none)
    ∧ ∀ bytes failure, ofBytes bytes = .error failure
      ↔ ∃ front back, Longest bytes front back ∧ back ≠ [] ∧ failure = Element.complaint back := by
  refine ⟨fun es _ => Element.encodeAll_eq_ok_iff es, fun es _ => Element.encodeAll_eq_error_iff es,
    Element.run_write, fun es bytes => ⟨fun hes => ?_, ?_⟩, fun _ => ofBytes_isOk_iff,
    fun _ _ => ofBytes_eq_ok_iff, fun l count => draws_eq count l.bytes,
    fun _ _ => ofBytes_eq_error_iff⟩
  · exact ⟨ofBytes_of_encodeAll hes, elements_of_encodeAll hes⟩
  · rintro ⟨haccepted, rfl⟩
    exact (ofBytes_eq_ok_iff.1 haccepted).2

end ElementList

end NeighborAwareness
