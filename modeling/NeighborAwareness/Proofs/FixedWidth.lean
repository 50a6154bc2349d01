import NeighborAwareness.Proofs.RequestCodec

/-!
# Attributes of fixed width

Numbers, addresses and flags have a fixed width. Data of another width is kept as it came. Data of
the right width is read as a typed value, and what that is written as is the data again, with two
exceptions: flags are read from any data and written without, and of the 32 bits of an interface
type the upper 16 are passed over and written as zeros.

## Main definitions

* `AttributeType.width?` : the widths of the types.
* `AttributeType.kept` : what is left of data that was read and written again.

## Main results

* `LittleEndian.encode_mod_of_read?` : what is left of a number that is cut down to fewer octets.
* `Attribute.typed?_eq_none_iff` : which data is not read.
* `Attribute.toRecord_decode` : what is written.
* `Attribute.data_kept_iff` : when it is the data.
-/

namespace NeighborAwareness

/-! ### Words -/

namespace LittleEndian

/-- The octets in front spell what the number is without those behind. -/
theorem decode_append_mod (front back : Bytes) :
    decode (front ++ back) % limit front.length = decode front := by
  induction front with
  | nil => exact Nat.mod_one _
  | cons b front ih =>
    have hb := b.toNat_lt
    rw [List.cons_append, decode, List.length_cons, limit, Nat.mod_mul, decode, ← ih]
    have hmod : (b.toNat + 256 * decode (front ++ back)) % 256 = b.toNat := by omega
    have hdiv : (b.toNat + 256 * decode (front ++ back)) / 256 = decode (front ++ back) := by omega
    rw [hmod, hdiv]

/-- A number that fits a width is written with zeros behind it in a larger one. -/
theorem encode_add_of_lt {width n : Nat} (h : n < limit width) (more : Nat) :
    encode (width + more) n = encode width n ++ List.replicate more 0 := by
  induction width generalizing n with
  | zero =>
    have hzero : n = 0 := Nat.lt_one_iff.1 h
    subst hzero
    rw [Nat.zero_add]
    induction more with
    | zero => rfl
    | succ more ih => exact congrArg (List.cons 0) ih
  | succ width ih =>
    have hdiv : n / 256 < limit width := Nat.div_lt_of_lt_mul h
    rw [Nat.succ_add, encode, ih hdiv]
    rfl

theorem read?_eq_some_iff {width n : Nat} {bytes : Bytes} :
    read? width bytes = some n ↔ bytes.length = width ∧ decode bytes = n := by
  rw [read?, Option.ite_none_right_eq_some, Option.some.injEq]

theorem encode_of_read? {width n : Nat} {bytes : Bytes} (h : read? width bytes = some n) :
    encode width n = bytes := by
  obtain ⟨rfl, rfl⟩ := read?_eq_some_iff.1 h
  exact encode_decode bytes

theorem lt_of_read? {width n : Nat} {bytes : Bytes} (h : read? width bytes = some n) :
    n < limit width := by
  obtain ⟨rfl, rfl⟩ := read?_eq_some_iff.1 h
  exact decode_lt bytes

theorem exists_read?_of_map {α β : Type} {width : Nat} {bytes : Bytes} {word : Nat → α}
    {value : α → β} {b : β} (h : ((read? width bytes).map word).map value = some b) :
    ∃ n, read? width bytes = some n ∧ value (word n) = b := by
  rw [Option.map_map] at h
  exact Option.map_eq_some_iff.1 h

/-- A number cut down to fewer octets is written as the first of them, with zeros behind. -/
theorem encode_mod_of_read? {width more n : Nat} {bytes : Bytes}
    (h : read? (width + more) bytes = some n) :
    encode (width + more) (n % limit width) = bytes.take width ++ List.replicate more 0 := by
  obtain ⟨hlength, rfl⟩ := read?_eq_some_iff.1 h
  have hfront : (bytes.take width).length = width := List.length_take_of_le (by omega)
  have hmod : decode bytes % limit width = decode (bytes.take width) := by
    have hsplit := decode_append_mod (bytes.take width) (bytes.drop width)
    rwa [List.take_append_drop, hfront] at hsplit
  have hlt := decode_lt (bytes.take width)
  have hencode := encode_decode (bytes.take width)
  rw [hfront] at hlt hencode
  rw [hmod, encode_add_of_lt hlt, hencode]

end LittleEndian

/-! ### Widths -/

namespace AttributeType

/-- How many octets of data an attribute of a type must have, if it is a number, an address or a
flag. -/
def width? : UInt16 → Option Nat
  | ack | offchannelTxOk | dontWaitForAck | splitWiphyDump => some 0
  | frameType => some 2
  | wiphy | ifindex | iftype | wiphyFreq | generation | duration | rxSignal => some 4
  | mac => some 6
  | wdev | cookie => some 8
  | _ => none

/-- What is left of data when the value read from it is written. -/
def kept (type : UInt16) (data : Bytes) : Bytes :=
  if width? type = some 0 then []
  else if type = iftype ∧ data.length = 4 then data.take 2 ++ [0, 0]
  else data

end AttributeType

/-! ### Reading and writing -/

namespace Attribute

variable {type : UInt16} {data : Bytes} {w : Nat}

/-- Just the data of another width is not read, and all data of a flag is. -/
theorem typed?_eq_none_iff (h : AttributeType.width? type = some w) :
    typed? type data = none ↔ w ≠ 0 ∧ data.length ≠ w := by
  unfold typed?
  split
  case h_1 | h_3 | h_5 | h_7 | h_8 | h_9 | h_11 | h_13 | h_14 | h_15 =>
    -- a number
    obtain rfl := Option.some.inj h
    simp [LittleEndian.read?]
  case h_6 =>
    -- an address
    obtain rfl := Option.some.inj h
    simp [Address.ofBytes?]
    omega
  case h_16 | h_17 | h_18 | h_19 =>
    -- a flag
    obtain rfl := Option.some.inj h
    simp
  case h_2 | h_4 | h_10 | h_12 | h_20 | h_21 | h_22 => cases h
  case h_23 =>
    unfold AttributeType.width? at h
    split at h
    all_goals contradiction

/-- A value that is typed is written as what is kept of the data. -/
theorem data?_of_typed? {a : Attribute} (h : AttributeType.width? type = some w)
    (ha : typed? type data = some a) : a.data? = some (AttributeType.kept type data) := by
  unfold typed? at ha
  split at ha
  case h_1 | h_3 | h_8 | h_9 | h_13 =>
    -- 32 bits
    obtain ⟨n, hn, rfl⟩ := LittleEndian.exists_read?_of_map ha
    rw [data?, UInt32.toNat_ofNat_of_lt' (LittleEndian.lt_of_read? hn),
      LittleEndian.encode_of_read? hn]
    rfl
  case h_15 =>
    -- 32 bits with a sign
    obtain ⟨n, hn, rfl⟩ := LittleEndian.exists_read?_of_map ha
    rw [data?, UInt32.toUInt32_toInt32, UInt32.toNat_ofNat_of_lt' (LittleEndian.lt_of_read? hn),
      LittleEndian.encode_of_read? hn]
    rfl
  case h_7 | h_14 =>
    -- 64 bits
    obtain ⟨n, hn, rfl⟩ := LittleEndian.exists_read?_of_map ha
    rw [data?, UInt64.toNat_ofNat_of_lt' (LittleEndian.lt_of_read? hn),
      LittleEndian.encode_of_read? hn]
    rfl
  case h_11 =>
    -- 16 bits
    obtain ⟨n, hn, rfl⟩ := LittleEndian.exists_read?_of_map ha
    rw [data?, UInt16.toNat_ofNat_of_lt' (LittleEndian.lt_of_read? hn),
      LittleEndian.encode_of_read? hn]
    rfl
  case h_5 =>
    -- 32 bits, of which 16 are kept
    obtain ⟨n, hn, rfl⟩ := LittleEndian.exists_read?_of_map ha
    have hlength : data.length = 4 := (LittleEndian.read?_eq_some_iff.1 hn).1
    have hcut : LittleEndian.encode 4 (n % LittleEndian.limit 2) = data.take 2 ++ [0, 0] :=
      @LittleEndian.encode_mod_of_read? 2 2 n data hn
    rw [data?, UInt32.toNat_toUInt16, UInt32.toNat_ofNat_of_lt' (LittleEndian.lt_of_read? hn)]
    refine congrArg some (hcut.trans ?_)
    rw [AttributeType.kept, if_neg (by decide), if_pos ⟨rfl, hlength⟩]
  case h_6 =>
    -- an address
    rw [Option.ite_none_right_eq_some] at ha
    obtain ⟨address, haddress, rfl⟩ := Option.map_eq_some_iff.1 ha.2
    rw [Address.ofBytes?, Option.dite_none_right_eq_some] at haddress
    obtain ⟨_, hvalue⟩ := haddress
    obtain rfl := Option.some.inj hvalue
    exact congrArg some (List.take_of_length_le (Nat.le_of_eq ha.1))
  case h_16 | h_17 | h_18 | h_19 =>
    -- a flag
    obtain rfl := Option.some.inj ha
    rfl
  case h_2 | h_4 | h_10 | h_12 | h_20 | h_21 | h_22 => cases h
  case h_23 => cases ha

theorem typed?_ne_unknown (type other : UInt16) (data octets : Bytes) :
    typed? type data ≠ some (unknown other octets) := by
  intro h
  unfold typed? at h
  split at h <;> simp at h

/-- Just the data of another width is kept as it came, and no data of a flag. -/
theorem decode_eq_unknown_iff (h : AttributeType.width? type = some w) :
    decode type data = unknown type data ↔ w ≠ 0 ∧ data.length ≠ w := by
  rw [← typed?_eq_none_iff h, decode]
  cases htyped : typed? type data with
  | none => exact iff_of_true rfl rfl
  | some a =>
    refine iff_of_false (fun ha => ?_) (Option.some_ne_none a)
    rw [Option.getD_some] at ha
    exact typed?_ne_unknown type type data data (by rw [htyped, ha])

/-- A value of fixed width is written with what is kept of its data. -/
theorem toRecord_decode (h : AttributeType.width? type = some w) :
    (decode type data).toRecord = .ok ⟨type, AttributeType.kept type data⟩ := by
  cases htyped : typed? type data with
  | none =>
    obtain ⟨hsome, hlength⟩ := (typed?_eq_none_iff h).1 htyped
    have hkept : AttributeType.kept type data = data := by
      rw [AttributeType.kept, h, if_neg (by simpa using hsome), if_neg]
      rintro ⟨rfl, hfour⟩
      obtain rfl := Option.some.inj h
      exact hlength hfour
    rw [decode, htyped, hkept]
    rfl
  | some a =>
    rw [decode, htyped, Option.getD_some, toRecord, data?_of_typed? h htyped, type_of_typed? htyped]

/-- All data is kept but what a flag carries, and the upper half of an interface type. -/
theorem kept_eq_iff (h : AttributeType.width? type = some w) :
    AttributeType.kept type data = data ↔ (w = 0 → data = [])
      ∧ (type = AttributeType.iftype → data.length = 4 → data.drop 2 = [0, 0]) := by
  rw [AttributeType.kept, h]
  by_cases hflag : w = 0
  · subst hflag
    have hother : type ≠ AttributeType.iftype := by
      rintro rfl
      cases h
    simp [hother, eq_comm]
  · rw [if_neg (by simpa using hflag)]
    split
    · next hiftype =>
      have hsplit : data.take 2 ++ [0, 0] = data ↔ [0, 0] = data.drop 2 := by
        conv_lhs => rhs; rw [← List.take_append_drop 2 data]
        exact List.append_right_inj _
      simp [hsplit, hflag, hiftype, eq_comm]
    · next hother =>
      exact iff_of_true rfl ⟨fun h => absurd h hflag, fun htype hfour =>
        absurd ⟨htype, hfour⟩ hother⟩

/-- An interface is a monitor if the lower half of its type says so. -/
theorem decode_eq_monitor_iff (type : UInt16) (data : Bytes) :
    decode type data = iftype .monitor
      ↔ type = AttributeType.iftype ∧ data.length = 4 ∧ data.take 2 = [6, 0] := by
  have hwidth : AttributeType.width? AttributeType.iftype = some 4 := rfl
  constructor
  · intro h
    have htype : type = AttributeType.iftype :=
      (type_decode type data).symm.trans (congrArg Attribute.type h)
    subst htype
    have hlength : data.length = 4 := by
      by_contra hlength
      have hunknown := (decode_eq_unknown_iff hwidth).2 ⟨by decide, hlength⟩
      rw [h] at hunknown
      cases hunknown
    have hrecord := @toRecord_decode _ data 4 hwidth
    rw [h, AttributeType.kept, if_neg (by decide), if_pos ⟨rfl, hlength⟩] at hrecord
    have hdata : [6, 0] ++ [0, 0] = data.take 2 ++ [0, 0] :=
      congrArg Record.data (Except.ok.inj hrecord)
    exact ⟨rfl, hlength, (List.append_cancel_right hdata).symm⟩
  · rintro ⟨rfl, hlength, htake⟩
    have hread : LittleEndian.read? 4 data = some (LittleEndian.decode data) := if_pos hlength
    have hlower : LittleEndian.decode data % LittleEndian.limit 2 = 6 := by
      have hsplit := LittleEndian.decode_append_mod (data.take 2) (data.drop 2)
      rwa [List.take_append_drop, htake] at hsplit
    have hcode : (UInt32.ofNat (LittleEndian.decode data)).toUInt16 = 6 := by
      apply UInt16.toNat_inj.1
      rw [UInt32.toNat_toUInt16, UInt32.toNat_ofNat_of_lt' (LittleEndian.lt_of_read? hread)]
      exact hlower
    have htyped : typed? AttributeType.iftype data = some (iftype .monitor) := by
      change ((LittleEndian.read? 4 data).map UInt32.ofNat).map
        (fun n => iftype ⟨n.toUInt16⟩) = _
      rw [hread, Option.map_some, Option.map_some, hcode]
      rfl
    rw [decode, htyped, Option.getD_some]

/-- Data of a type of fixed width is kept as it came, under that type, if it is not of this width,
and otherwise a typed value. Written again, all of it is there but what a flag carries, which may
have any data, and the upper half of an interface type. So an interface counts as a monitor whatever
stands in that half. -/
theorem data_kept_iff (h : AttributeType.width? type = some w) (data : Bytes) :
    (decode type data = unknown type data ↔ w ≠ 0 ∧ data.length ≠ w)
      ∧ (decode type data).toRecord = .ok ⟨type, AttributeType.kept type data⟩
      ∧ (AttributeType.kept type data = data ↔ (w = 0 → data = [])
        ∧ (type = AttributeType.iftype → data.length = 4 → data.drop 2 = [0, 0]))
      ∧ (decode type data = iftype .monitor
        ↔ type = AttributeType.iftype ∧ data.length = 4 ∧ data.take 2 = [6, 0]) :=
  ⟨decode_eq_unknown_iff h, toRecord_decode h, kept_eq_iff h, decode_eq_monitor_iff type data⟩

/-- An address that is too short is kept; an interface type with something in its upper half is
not. -/
theorem data_kept_iff_odd :
    decode AttributeType.mac [1, 2, 3] = unknown AttributeType.mac [1, 2, 3]
      ∧ AttributeType.kept AttributeType.iftype [6, 0, 1, 0] ≠ [6, 0, 1, 0]
      ∧ decode AttributeType.iftype [6, 0, 1, 0] = iftype .monitor := by
  have hmac : AttributeType.width? AttributeType.mac = some 6 := rfl
  have hiftype : AttributeType.width? AttributeType.iftype = some 4 := rfl
  obtain ⟨hshort, -, -, -⟩ := data_kept_iff hmac [1, 2, 3]
  obtain ⟨-, -, hkept, hmonitor⟩ := data_kept_iff hiftype [6, 0, 1, 0]
  refine ⟨hshort.2 (by decide), fun h => ?_, hmonitor.2 (by decide)⟩
  exact absurd ((hkept.1 h).2 rfl rfl) (by decide)

/-- It is not so that all values of fixed width are written with the data that they were read from,
nor that an interface is a monitor only if its type says so. -/
theorem not_all_data_kept :
    (¬ ∀ type data, (AttributeType.width? type).isSome →
        (decode type data).toRecord = .ok ⟨type, data⟩)
      ∧ ¬ ∀ data, decode AttributeType.iftype data = iftype .monitor →
        LittleEndian.decode data = InterfaceType.monitor.code.toNat := by
  refine ⟨fun hall => ?_, fun hall => ?_⟩
  · have hrecord : (Except.ok ⟨5, [6, 0, 0, 0]⟩ : Except Failure Record) = .ok ⟨5, [6, 0, 1, 0]⟩ :=
      hall AttributeType.iftype [6, 0, 1, 0] rfl
    cases hrecord
  · exact absurd (hall [6, 0, 1, 0] rfl) (by decide)

end Attribute

end NeighborAwareness
