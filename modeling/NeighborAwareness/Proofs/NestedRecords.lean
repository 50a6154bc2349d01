import NeighborAwareness.Proofs.RequestCodec

/-!
# Records inside an attribute

Octets inside an attribute are read as records, one after the other, each with its padding. What may
be missing is the end of the padding of the last record; if it is all there, up to three octets may
follow. Nothing else is accepted: the first record that claims to be shorter than its own header, or
longer than what is left, is the reason why no records are returned at all. What was written is one
of the many forms that are accepted, the one whose padding is zeros and whose types have no flags.

## Main definitions

* `WrittenRecord` : a record as it may stand among octets, with `WrittenRecord.octets` and the
  `WrittenRecord.record` that is read from it.
* `WrittenRecord.IsPadded`, `WrittenRecord.IsCut` : its padding is all there, or not.
* `Record.claimed` : the length that a record at the front of octets claims.

## Main results

* `Record.split_octets_append` : a record is split off whatever follows it.
* `Record.exists_front` : octets are padded records and a rest that is at the end, cut or wrong.
* `Record.nested_flatMap_append` : padded records are read first.
* `Record.nested_exact` : what is read from which octets.
-/

namespace NeighborAwareness

/-- A record as it may stand among octets: with flags in its type and any padding. -/
structure WrittenRecord where
  type : UInt16
  data : Bytes
  padding : Bytes
  data_le : data.length ≤ 65531

namespace WrittenRecord

variable (w : WrittenRecord)

/-- The length it claims, of header and data. -/
def length : Nat :=
  Record.headerLength + w.data.length

/-- How many octets its padding has when it is all there. -/
def room : Nat :=
  Record.aligned w.length - w.length

/-- The octets: length, type, data and padding. -/
def octets : Bytes :=
  LittleEndian.encode 2 w.length ++ LittleEndian.encode 2 w.type.toNat ++ w.data ++ w.padding

/-- What is read from it: the type without its two flags, and the data. -/
def record : Record :=
  ⟨w.type &&& 0x3FFF, w.data⟩

/-- The padding goes up to the next multiple of four. -/
def IsPadded : Prop :=
  w.padding.length = w.room

/-- Some of the padding is missing. -/
def IsCut : Prop :=
  w.padding.length < w.room

end WrittenRecord

namespace Record

variable {bytes rest : Bytes} {records : List Record} {w : WrittenRecord}

/-- The length that a record at the front of octets claims. -/
def claimed (bytes : Bytes) : Nat :=
  LittleEndian.decode (bytes.take 2)

/-- The complaint about a record at the front of octets. -/
def overrun (bytes : Bytes) : Cause :=
  .nestedOverrun (plainType (LittleEndian.decode ((bytes.drop 2).take 2))) (claimed bytes)
    bytes.length

/-! ### The front of octets -/

/-- A record is split off whatever follows it. -/
theorem split_octets_append (w : WrittenRecord) (rest : Bytes) :
    split (w.octets ++ rest) = .ok (some (w.record, w.length, w.padding ++ rest)) := by
  have hlimit : w.length < LittleEndian.limit 2 := by
    have hdata := w.data_le
    simp only [WrittenRecord.length, headerLength, LittleEndian.limit]
    omega
  have hlength := LittleEndian.decode_encode hlimit
  have htype :=
    LittleEndian.decode_encode (show w.type.toNat < LittleEndian.limit 2 from w.type.toNat_lt)
  have hdata : w.length - headerLength = w.data.length := Nat.add_sub_cancel_left ..
  have hle : headerLength ≤ w.length := Nat.le_add_right ..
  simp only [LittleEndian.encode] at hlength htype
  simp only [WrittenRecord.octets, LittleEndian.encode, List.cons_append, List.nil_append,
    List.append_assoc, split]
  rw [hlength, htype, hdata, List.take_left, List.drop_left, if_pos ⟨hle, rfl⟩, plainType,
    UInt16.ofNat_toNat]
  rfl

theorem split_of_length_le (h : bytes.length ≤ 3) : split bytes = .ok none := by
  rw [split]
  rintro l0 l1 t0 t1 body rfl
  simp only [List.length_cons] at h
  omega

theorem exists_header (h : 4 ≤ bytes.length) :
    ∃ l0 l1 t0 t1 body, bytes = l0 :: l1 :: t0 :: t1 :: body := by
  match bytes with
  | l0 :: l1 :: t0 :: t1 :: body => exact ⟨l0, l1, t0, t1, body, rfl⟩
  | [] | [_] | [_, _] | [_, _, _] =>
    simp only [List.length_cons, List.length_nil] at h
    omega

theorem split_of_claimed (hlength : 4 ≤ bytes.length)
    (h : claimed bytes < 4 ∨ bytes.length < claimed bytes) :
    split bytes = .error (overrun bytes) := by
  obtain ⟨l0, l1, t0, t1, body, rfl⟩ := exists_header hlength
  have hclaimed : claimed (l0 :: l1 :: t0 :: t1 :: body) = LittleEndian.decode [l0, l1] := rfl
  have hwrong : ¬ (headerLength ≤ LittleEndian.decode [l0, l1]
      ∧ (body.take (LittleEndian.decode [l0, l1] - headerLength)).length
        = LittleEndian.decode [l0, l1] - headerLength) := by
    rw [hclaimed] at h
    simp only [headerLength, List.length_take, List.length_cons] at h ⊢
    omega
  rw [split, if_neg hwrong]
  rfl

/-- A record that claims a length that is there has its data, and something behind that. -/
theorem exists_data (hclaimed : 4 ≤ claimed bytes) (hfits : claimed bytes ≤ bytes.length) :
    ∃ (type : UInt16) (data back : Bytes), data.length ≤ 65531
      ∧ bytes = LittleEndian.encode 2 (headerLength + data.length)
          ++ LittleEndian.encode 2 type.toNat ++ data ++ back := by
  obtain ⟨l0, l1, t0, t1, body, rfl⟩ := exists_header (Nat.le_trans hclaimed hfits)
  have hlt := LittleEndian.decode_lt [l0, l1]
  have htype := LittleEndian.decode_lt [t0, t1]
  simp only [List.length_cons, List.length_nil, LittleEndian.limit] at hlt htype
  simp only [claimed, List.take_succ_cons, List.take_zero, List.length_cons] at hclaimed hfits
  have hdata : (body.take (LittleEndian.decode [l0, l1] - 4)).length
      = LittleEndian.decode [l0, l1] - 4 := by
    rw [List.length_take]
    omega
  refine ⟨UInt16.ofNat (LittleEndian.decode [t0, t1]),
    body.take (LittleEndian.decode [l0, l1] - 4), body.drop (LittleEndian.decode [l0, l1] - 4),
    by omega, ?_⟩
  have hlength : headerLength + (LittleEndian.decode [l0, l1] - 4)
      = LittleEndian.decode [l0, l1] := Nat.add_sub_cancel' hclaimed
  have hfirst : LittleEndian.encode 2 (LittleEndian.decode [l0, l1]) = [l0, l1] :=
    LittleEndian.encode_decode [l0, l1]
  have hsecond : LittleEndian.encode 2 (LittleEndian.decode [t0, t1]) = [t0, t1] :=
    LittleEndian.encode_decode [t0, t1]
  rw [hdata, hlength, UInt16.toNat_ofNat_of_lt' htype, hfirst, hsecond, List.append_assoc,
    List.take_append_drop]
  rfl

/-- A record that claims a length that is there has all its padding, or is the last. -/
theorem exists_octets (hclaimed : 4 ≤ claimed bytes) (hfits : claimed bytes ≤ bytes.length) :
    ∃ w : WrittenRecord, w.IsCut ∧ bytes = w.octets
      ∨ ∃ rest, w.IsPadded ∧ bytes = w.octets ++ rest := by
  obtain ⟨type, data, back, hdata, rfl⟩ := exists_data hclaimed hfits
  let bare : WrittenRecord := ⟨type, data, [], hdata⟩
  by_cases hcut : back.length < bare.room
  · exact ⟨⟨type, data, back, hdata⟩, .inl ⟨hcut, rfl⟩⟩
  · refine ⟨⟨type, data, back.take bare.room, hdata⟩, .inr ⟨back.drop bare.room, ?_, ?_⟩⟩
    · exact (List.length_take ..).trans (Nat.min_eq_left (Nat.le_of_not_lt hcut))
    · rw [WrittenRecord.octets, List.append_assoc _ (back.take _), List.take_append_drop]
      rfl

/-! ### Reading on -/

theorem nested_of_split_eq_none (h : split bytes = .ok none) : nested bytes = .ok [] := by
  rw [nested.eq_1]
  split
  · next heq => rw [h] at heq; cases heq
  · rfl
  · next heq => rw [h] at heq; cases heq

theorem nested_of_split_eq_error {cause : Cause} (h : split bytes = .error cause) :
    nested bytes = .error cause := by
  rw [nested.eq_1]
  split
  · next heq => rw [h] at heq; cases heq; rfl
  · next heq => rw [h] at heq; cases heq
  · next heq => rw [h] at heq; cases heq

/-- A record is read first, and then what is behind its padding. -/
theorem nested_octets_append (w : WrittenRecord) (rest : Bytes) :
    nested (w.octets ++ rest)
      = (nested ((w.padding ++ rest).drop w.room)).map fun more => w.record :: more := by
  have hsplit := split_octets_append w rest
  rw [nested.eq_1]
  split
  · next heq => rw [hsplit] at heq; cases heq
  · next heq => rw [hsplit] at heq; cases heq
  · next heq => rw [hsplit] at heq; cases heq; rfl

/-- Padded records are read first, and then what follows them. -/
theorem nested_flatMap_append {front : List WrittenRecord} (h : ∀ w ∈ front, w.IsPadded)
    (rest : Bytes) :
    nested (front.flatMap WrittenRecord.octets ++ rest)
      = (nested rest).map fun more => front.map WrittenRecord.record ++ more := by
  induction front with
  | nil => cases hrest : nested rest <;> simp [hrest, Except.map]
  | cons w front ih =>
    obtain ⟨hw, hfront⟩ := List.forall_mem_cons.1 h
    rw [List.flatMap_cons, List.append_assoc, nested_octets_append,
      List.drop_left' hw, ih hfront]
    cases nested rest <;> rfl

theorem nested_of_length_le (h : bytes.length ≤ 3) : nested bytes = .ok [] :=
  nested_of_split_eq_none (split_of_length_le h)

theorem nested_of_claimed (hlength : 4 ≤ bytes.length)
    (h : claimed bytes < 4 ∨ bytes.length < claimed bytes) :
    nested bytes = .error (overrun bytes) :=
  nested_of_split_eq_error (split_of_claimed hlength h)

theorem nested_of_isCut (h : w.IsCut) : nested w.octets = .ok [w.record] := by
  have hread := nested_octets_append w []
  have hnothing : nested [] = .ok [] := nested_of_length_le (Nat.zero_le 3)
  rw [List.append_nil, List.append_nil, List.drop_eq_nil_of_le (Nat.le_of_lt h), hnothing] at hread
  exact hread

/-! ### All octets -/

/-- What may stand behind padded records: up to three octets, a record that is cut, or one that
claims a wrong length. -/
inductive Ending : Bytes → Prop
  | leftover {rest : Bytes} (h : rest.length ≤ 3) : Ending rest
  | cut {last : WrittenRecord} (h : last.IsCut) : Ending last.octets
  | wrong {rest : Bytes} (hlength : 4 ≤ rest.length)
      (h : claimed rest < 4 ∨ rest.length < claimed rest) : Ending rest

/-- Octets are padded records with an ending. -/
theorem exists_front (bytes : Bytes) :
    ∃ (front : List WrittenRecord) (rest : Bytes), bytes = front.flatMap WrittenRecord.octets ++ rest
      ∧ (∀ w ∈ front, w.IsPadded) ∧ Ending rest := by
  by_cases hlength : bytes.length ≤ 3
  · exact ⟨[], bytes, rfl, by simp, .leftover hlength⟩
  · by_cases hclaimed : 4 ≤ claimed bytes ∧ claimed bytes ≤ bytes.length
    · obtain ⟨w, ⟨hcut, rfl⟩ | ⟨rest, hpadded, hbytes⟩⟩ := exists_octets hclaimed.1 hclaimed.2
      · exact ⟨[], w.octets, rfl, by simp, .cut hcut⟩
      · have hshorter : rest.length < bytes.length := by
          rw [hbytes, WrittenRecord.octets]
          simp only [List.length_append, LittleEndian.length_encode]
          omega
        obtain ⟨front, ending, rfl, hfront, hending⟩ := exists_front rest
        refine ⟨w :: front, ending, ?_, List.forall_mem_cons.2 ⟨hpadded, hfront⟩, hending⟩
        rw [hbytes, List.flatMap_cons, List.append_assoc]
    · exact ⟨[], bytes, rfl, by simp, .wrong (by omega) (by omega)⟩
termination_by bytes.length

/-- Octets are accepted just if they are padded records and then up to three octets or a record that
is cut. -/
theorem nested_eq_ok_iff :
    nested bytes = .ok records ↔ ∃ (front : List WrittenRecord) (rest : Bytes),
      bytes = front.flatMap WrittenRecord.octets ++ rest ∧ (∀ w ∈ front, w.IsPadded)
        ∧ (rest.length ≤ 3 ∧ records = front.map WrittenRecord.record
          ∨ ∃ last : WrittenRecord, last.IsCut ∧ rest = last.octets
            ∧ records = front.map WrittenRecord.record ++ [last.record]) := by
  constructor
  · intro h
    obtain ⟨front, rest, rfl, hfront, hending⟩ := exists_front bytes
    refine ⟨front, rest, rfl, hfront, ?_⟩
    rw [nested_flatMap_append hfront] at h
    cases hending with
    | leftover hlength =>
      rw [nested_of_length_le hlength] at h
      exact .inl ⟨hlength, (Except.ok.inj h).symm.trans (List.append_nil _)⟩
    | cut hcut =>
      rw [nested_of_isCut hcut] at h
      exact .inr ⟨_, hcut, rfl, (Except.ok.inj h).symm⟩
    | wrong hlength hwrong =>
      rw [nested_of_claimed hlength hwrong] at h
      cases h
  · rintro ⟨front, rest, rfl, hfront, ⟨hlength, rfl⟩ | ⟨last, hcut, rfl, rfl⟩⟩
    · rw [nested_flatMap_append hfront, nested_of_length_le hlength, Except.map, List.append_nil]
    · rw [nested_flatMap_append hfront, nested_of_isCut hcut, Except.map]

/-- Octets are not accepted just if behind padded records there is one that claims a wrong length,
and the failure describes it. -/
theorem nested_eq_error_iff {cause : Cause} :
    nested bytes = .error cause ↔ ∃ (front : List WrittenRecord) (rest : Bytes),
      bytes = front.flatMap WrittenRecord.octets ++ rest ∧ (∀ w ∈ front, w.IsPadded)
        ∧ 4 ≤ rest.length ∧ (claimed rest < 4 ∨ rest.length < claimed rest)
        ∧ cause = overrun rest := by
  constructor
  · intro h
    obtain ⟨front, rest, rfl, hfront, hending⟩ := exists_front bytes
    refine ⟨front, rest, rfl, hfront, ?_⟩
    rw [nested_flatMap_append hfront] at h
    cases hending with
    | leftover hlength =>
      rw [nested_of_length_le hlength] at h
      cases h
    | cut hcut =>
      rw [nested_of_isCut hcut] at h
      cases h
    | wrong hlength hwrong =>
      rw [nested_of_claimed hlength hwrong] at h
      exact ⟨hlength, hwrong, (Except.error.inj h).symm⟩
  · rintro ⟨front, rest, rfl, hfront, hlength, hwrong, rfl⟩
    rw [nested_flatMap_append hfront, nested_of_claimed hlength hwrong, Except.map]

/-- A record that fits is written with all its padding, and read as it was. -/
theorem exists_octets_eq_encode {r : Record} (htype : r.type < 0x4000)
    (hdata : r.data.length ≤ 65531) :
    ∃ w : WrittenRecord, w.IsPadded ∧ w.octets = r.encode ∧ w.record = r := by
  let length := headerLength + r.data.length
  refine ⟨⟨r.type, r.data, List.replicate (aligned length - length) 0, hdata⟩,
    List.length_replicate, rfl, ?_⟩
  have hplain : r.type &&& 0x3FFF = r.type := by
    have h := plainType_of_lt htype
    rwa [plainType, UInt16.ofNat_toNat] at h
  rw [WrittenRecord.record, hplain]

theorem nested_flatMap_encode (h : ∀ r ∈ records, r.type < 0x4000 ∧ r.data.length ≤ 65531) :
    nested (records.flatMap encode) = .ok records := by
  obtain ⟨front, hpadded, hoctets, hrecords⟩ : ∃ front : List WrittenRecord,
      (∀ w ∈ front, w.IsPadded) ∧ front.flatMap WrittenRecord.octets = records.flatMap encode
        ∧ front.map WrittenRecord.record = records := by
    induction records with
    | nil => exact ⟨[], by simp, rfl, rfl⟩
    | cons r records ih =>
      obtain ⟨hr, hrecords⟩ := List.forall_mem_cons.1 h
      obtain ⟨w, hw, hwoctets, hwrecord⟩ := exists_octets_eq_encode hr.1 hr.2
      obtain ⟨front, hfront, hoctets, hmap⟩ := ih hrecords
      refine ⟨w :: front, List.forall_mem_cons.2 ⟨hw, hfront⟩, ?_, ?_⟩
      · rw [List.flatMap_cons, List.flatMap_cons, hwoctets, hoctets]
      · rw [List.map_cons, hwrecord, hmap]
  refine nested_eq_ok_iff.2 ⟨front, [], ?_, hpadded, .inl ⟨Nat.zero_le 3, hrecords.symm⟩⟩
  rw [List.append_nil, hoctets]

/-- Records with types that have no flags and data that the length field can describe are read as
they were written. Any octets are accepted just if they are records of at least four octets with all
their padding, whatever it holds, and behind these up to three octets or a last record whose padding
is cut short; the records are then returned in order, their types without the flags. They are not
accepted just if behind records with all their padding at least four octets are left that claim to
be fewer than four or more than there are; then nothing is returned but the complaint about these. -/
theorem nested_exact :
    (∀ records : List Record, (∀ r ∈ records, r.type < 0x4000 ∧ r.data.length ≤ 65531) →
      nested (records.flatMap encode) = .ok records)
    ∧ (∀ bytes records, nested bytes = .ok records
      ↔ ∃ (front : List WrittenRecord) (rest : Bytes),
        bytes = front.flatMap WrittenRecord.octets ++ rest ∧ (∀ w ∈ front, w.IsPadded)
          ∧ (rest.length ≤ 3 ∧ records = front.map WrittenRecord.record
            ∨ ∃ last : WrittenRecord, last.IsCut ∧ rest = last.octets
              ∧ records = front.map WrittenRecord.record ++ [last.record]))
    ∧ ∀ bytes cause, nested bytes = .error cause
      ↔ ∃ (front : List WrittenRecord) (rest : Bytes),
        bytes = front.flatMap WrittenRecord.octets ++ rest ∧ (∀ w ∈ front, w.IsPadded)
          ∧ 4 ≤ rest.length ∧ (claimed rest < 4 ∨ rest.length < claimed rest)
          ∧ cause = overrun rest :=
  ⟨fun _ => nested_flatMap_encode, fun _ _ => nested_eq_ok_iff, fun _ _ => nested_eq_error_iff⟩

end Record

end NeighborAwareness
