import Mathlib.Data.List.DropRight
import Mathlib.Data.Nat.Bitwise
import NeighborAwareness.Netlink.Connection
import NeighborAwareness.Proofs.WrittenText

/-!
# Requests on the wire

A request can be written unless it holds an attribute that only the kernel sends. What is written
reads as the same command, version and attributes. Records are taken apart again wherever they
stand, as their length fields do not count the padding. Attributes are read again as they were, as
what a value is written as is data that the value is read from, also where other data is read as the
same value: names are sent without the NUL characters that were cut, flags without the data that was
passed over, and interface types without the upper half.

## Main definitions

* `Record.Sendable` : the length of a record fits its field and its type has no flags.
* `Attribute.ReplyOnly` : only the kernel sends the attribute.
* `Attribute.record` : the record of a value.

## Main results

* `Record.readAll?_flatMap_encode`, `GenericMessage.read?_encode` : what was written is read.
* `Attribute.decode_data` : a value that was read is read again.
* `Connection.requests_survive_the_wire` : which requests are written, and how they are read.
-/

namespace NeighborAwareness

/-- A number that fits the width is read from the octets written for it. -/
theorem LittleEndian.read?_encode {width n : Nat} (h : n < limit width) :
    read? width (encode width n) = some n := by
  rw [read?, if_pos (length_encode width n), decode_encode h]

/-! ### Records -/

namespace Record

/-- The most octets of data that the length field can describe. -/
def maxData : Nat := 0xFFFF - headerLength

/-- The length of a record fits its field and its type has no flags. -/
structure Sendable (r : Record) : Prop where
  plain : r.type < 0x4000
  fits : r.data.length ≤ maxData

variable {r : Record}

theorem plainType_of_lt {type : UInt16} (h : type < 0x4000) : plainType type.toNat = type := by
  have hlt : type.toNat < 2 ^ 14 := UInt16.lt_iff_toNat_lt.1 h
  apply UInt16.toNat_inj.1
  rw [plainType, UInt16.ofNat_toNat, UInt16.toNat_and]
  exact (Nat.and_two_pow_sub_one_eq_mod type.toNat 14).trans (Nat.mod_eq_of_lt hlt)

/-- A record that was written is split off the octets behind it, of which the first are its
padding. -/
theorem split_encode_append (h : r.Sendable) (rest : Bytes) :
    let declared := headerLength + r.data.length
    split (r.encode ++ rest)
      = .ok (some (r, declared, List.replicate (aligned declared - declared) 0 ++ rest)) := by
  intro declared
  have hlimit : declared < LittleEndian.limit 2 := by
    have hfits := h.fits
    simp only [maxData, headerLength, LittleEndian.limit, declared] at hfits ⊢
    omega
  have hlength := LittleEndian.decode_encode hlimit
  have htype :=
    LittleEndian.decode_encode (show r.type.toNat < LittleEndian.limit 2 from r.type.toNat_lt)
  have hdata : declared - headerLength = r.data.length := Nat.add_sub_cancel_left ..
  simp only [LittleEndian.encode] at hlength htype
  simp only [encode, LittleEndian.encode, List.cons_append, List.nil_append, List.append_assoc,
    split]
  rw [hlength, htype, hdata, plainType_of_lt h.plain, List.take_left, List.drop_left,
    if_pos ⟨Nat.le_add_right .., rfl⟩]

theorem readAll?_nil : readAll? [] = some [] := by
  rw [readAll?.eq_1]
  rfl

theorem readAll?_encode_append (h : r.Sendable) (rest : Bytes) :
    readAll? (r.encode ++ rest) = (readAll? rest).map (r :: ·) := by
  have hsplit := split_encode_append h rest
  rw [readAll?.eq_1, if_neg (by simp [encode, LittleEndian.encode])]
  split
  · rename_i s declared back heq
    obtain ⟨rfl, rfl, rfl⟩ : r = s ∧ headerLength + r.data.length = declared ∧ _ = back := by
      simpa using hsplit.symm.trans heq
    simp
  · rename_i hother
    exact absurd hsplit (hother _ _ _)

/-- Records that were written are read. -/
theorem readAll?_flatMap_encode {records : List Record} (h : ∀ r ∈ records, r.Sendable) :
    readAll? (records.flatMap encode) = some records := by
  induction records with
  | nil => exact readAll?_nil
  | cons r rest ih =>
    obtain ⟨hr, hrest⟩ := List.forall_mem_cons.1 h
    rw [List.flatMap_cons, readAll?_encode_append hr, ih hrest]
    rfl

theorem length_encode_mod_four (r : Record) : r.encode.length % 4 = 0 := by
  simp only [encode, List.length_append, LittleEndian.length_encode, List.length_replicate, aligned,
    headerLength]
  omega

end Record

/-! ### Messages -/

namespace GenericMessage

theorem length_encode_mod_four (m : GenericMessage) : m.encode.length % 4 = 0 := by
  rw [encode, List.length_append]
  induction m.records with
  | nil => simp
  | cons r rest ih =>
    have hr := r.length_encode_mod_four
    simp only [List.length_cons, List.length_nil, List.flatMap_cons, List.length_append] at ih ⊢
    omega

/-- A payload that was written is read. -/
theorem read?_encode {m : GenericMessage} (h : ∀ r ∈ m.records, r.Sendable) :
    read? m.encode = some m := by
  simp only [encode, List.cons_append, List.nil_append, read?, Record.readAll?_flatMap_encode h]
  rfl

end GenericMessage

/-- Behind the header of a message stands its payload, and nothing else if that is whole words. -/
theorem Message.drop_encode {payload : Bytes} (h : payload.length % 4 = 0) (type flags : UInt16)
    (sequence : UInt32) :
    (encode type flags sequence payload).drop MessageHeader.size = payload := by
  have hpadding : Record.aligned (MessageHeader.size + payload.length)
      - (MessageHeader.size + payload.length) = 0 := by
    simp only [Record.aligned, MessageHeader.size]
    omega
  simp only [encode, hpadding, List.replicate_zero, List.append_nil]
  exact List.drop_left' (by simp [MessageHeader.encode, MessageHeader.size])

/-! ### Attributes -/

namespace Attribute

/-- Only the kernel sends the attribute. -/
def ReplyOnly : Attribute → Prop
  | supportedIftypes _ => True
  | wiphyBands _ => True
  | stationInfo _ => True
  | _ => False

/-- The record of a value, without data if only the kernel sends it. -/
def record (a : Attribute) : Record :=
  ⟨a.type, a.data?.getD []⟩

variable {type : UInt16} {data octets : Bytes} {a : Attribute}

theorem data?_eq_none_iff (a : Attribute) : a.data? = none ↔ a.ReplyOnly := by
  cases a <;> simp [data?, ReplyOnly]

instance (a : Attribute) : Decidable a.ReplyOnly :=
  decidable_of_iff (a.data? = none) a.data?_eq_none_iff

theorem nameOf_eq (data : Bytes) :
    nameOf data
      = String.ofList ((Utf8.decodeLenient data).toList.rdropWhile (· == '\x00')) := rfl

/-- A name that was read is read again from the octets written for it. -/
theorem nameOf_encode_nameOf (data : Bytes) :
    nameOf (Utf8.encode (nameOf data) ++ [0]) = nameOf data := by
  have hnul : (Utf8.decodeLenient [0]).toList = ['\x00'] := by decide
  rw [nameOf_eq, Utf8.toList_decodeLenient_encode_append, hnul,
    List.rdropWhile_concat_pos _ _ _ rfl, nameOf_eq, String.toList_ofList,
    List.rdropWhile_idempotent]

theorem type_of_typed? (h : typed? type data = some a) : a.type = type := by
  unfold typed? at h
  split at h
  case h_2 | h_4 | h_10 | h_12 | h_16 | h_17 | h_18 | h_19 =>
    -- names, frames and flags, which any data is
    obtain rfl := Option.some.inj h
    rfl
  case h_6 =>
    -- an address
    rw [Option.ite_none_right_eq_some] at h
    obtain ⟨_, -, rfl⟩ := Option.map_eq_some_iff.1 h.2
    rfl
  case h_23 => cases h
  all_goals
    -- a number or nested records
    obtain ⟨_, -, rfl⟩ := Option.map_eq_some_iff.1 h
    rfl

theorem type_decode (type : UInt16) (data : Bytes) : (decode type data).type = type := by
  rw [decode]
  cases h : typed? type data with
  | none => rfl
  | some a => exact type_of_typed? h

theorem typed?_data (h : typed? type data = some a) (hdata : a.data? = some octets) :
    typed? type octets = some a := by
  unfold typed? at h ⊢
  split at h
  case h_1 | h_3 | h_8 | h_9 | h_13 =>
    -- 32 bits
    obtain ⟨n, -, rfl⟩ := Option.map_eq_some_iff.1 h
    obtain rfl := Option.some.inj hdata
    dsimp only
    rw [LittleEndian.read?_encode n.toNat_lt, Option.map_some, UInt32.ofNat_toNat, Option.map_some]
  case h_5 =>
    -- 32 bits, of which 16 are kept
    obtain ⟨n, -, rfl⟩ := Option.map_eq_some_iff.1 h
    obtain rfl := Option.some.inj hdata
    have hlt : n.toUInt16.toNat < LittleEndian.limit 4 :=
      Nat.lt_trans n.toUInt16.toNat_lt (by decide)
    dsimp only
    rw [LittleEndian.read?_encode hlt, Option.map_some, Option.map_some, UInt32.ofNat_uInt16ToNat,
      UInt16.toUInt16_toUInt32]
  case h_7 | h_14 =>
    -- 64 bits
    obtain ⟨n, -, rfl⟩ := Option.map_eq_some_iff.1 h
    obtain rfl := Option.some.inj hdata
    dsimp only
    rw [LittleEndian.read?_encode n.toNat_lt, Option.map_some, UInt64.ofNat_toNat, Option.map_some]
  case h_11 =>
    -- 16 bits
    obtain ⟨n, -, rfl⟩ := Option.map_eq_some_iff.1 h
    obtain rfl := Option.some.inj hdata
    dsimp only
    rw [LittleEndian.read?_encode n.toNat_lt, Option.map_some, UInt16.ofNat_toNat, Option.map_some]
  case h_15 =>
    -- 32 bits with a sign
    obtain ⟨n, -, rfl⟩ := Option.map_eq_some_iff.1 h
    obtain rfl := Option.some.inj hdata
    dsimp only
    rw [UInt32.toUInt32_toInt32, LittleEndian.read?_encode n.toNat_lt, Option.map_some,
      UInt32.ofNat_toNat, Option.map_some]
  case h_2 | h_4 =>
    -- a name
    obtain rfl := Option.some.inj h
    obtain rfl := Option.some.inj hdata
    dsimp only
    rw [nameOf_encode_nameOf]
  case h_6 =>
    -- an address
    rw [Option.ite_none_right_eq_some] at h
    obtain ⟨address, -, rfl⟩ := Option.map_eq_some_iff.1 h.2
    obtain rfl := Option.some.inj hdata
    have haddress := address.ofBytes?_append []
    rw [List.append_nil] at haddress
    dsimp only
    rw [if_pos address.length_octets, haddress, Option.map_some]
  case h_10 | h_12 =>
    -- a frame
    obtain rfl := Option.some.inj h
    obtain rfl := Option.some.inj hdata
    rfl
  case h_16 | h_17 | h_18 | h_19 =>
    -- a flag
    exact h
  case h_20 | h_21 | h_22 =>
    -- nested records, which are not written
    obtain ⟨_, -, rfl⟩ := Option.map_eq_some_iff.1 h
    cases hdata
  case h_23 => cases h

/-- Every value that was read is read again from the octets written for it. -/
theorem decode_data (hdata : (decode type data).data? = some octets) :
    decode (decode type data).type octets = decode type data := by
  rw [type_decode]
  cases htyped : typed? type data with
  | none =>
    have hunknown : decode type data = unknown type data := by rw [decode, htyped]; rfl
    rw [hunknown] at hdata
    rw [Option.some.inj hdata]
  | some a =>
    have hvalue : decode type data = a := by rw [decode, htyped]; rfl
    rw [hvalue] at hdata ⊢
    rw [decode, typed?_data htyped hdata]
    rfl

/-- A value of which nothing is lost on the way: it was read under a plain type, and what it is
written as is short enough. -/
structure Sendable (a : Attribute) : Prop where
  made : ∃ type data, type < 0x4000 ∧ decode type data = a
  fits : ∀ data, a.data? = some data → data.length ≤ Record.maxData

namespace Sendable

theorem sendable_record (h : a.Sendable) : a.record.Sendable := by
  obtain ⟨type, data, hplain, rfl⟩ := h.made
  refine ⟨?_, ?_⟩
  · rw [Attribute.record, type_decode]
    exact hplain
  · cases hdata : (decode type data).data? with
    | none => simp [Attribute.record, hdata]
    | some octets =>
      rw [Attribute.record, hdata]
      exact h.fits octets hdata

theorem ofRecord_record (h : a.Sendable) (hdata : ¬ a.ReplyOnly) : ofRecord a.record = a := by
  obtain ⟨type, data, -, rfl⟩ := h.made
  rw [← data?_eq_none_iff, ← ne_eq, Option.ne_none_iff_exists'] at hdata
  obtain ⟨octets, hoctets⟩ := hdata
  rw [ofRecord, Attribute.record, hoctets]
  exact decode_data hoctets

end Sendable

theorem toRecords_eq_ok {attributes : List Attribute} (h : ∀ a ∈ attributes, ¬ a.ReplyOnly) :
    toRecords attributes = .ok (attributes.map record) := by
  induction attributes with
  | nil => rfl
  | cons a rest ih =>
    obtain ⟨ha, hrest⟩ := List.forall_mem_cons.1 h
    rw [← data?_eq_none_iff, ← ne_eq, Option.ne_none_iff_exists'] at ha
    obtain ⟨octets, hoctets⟩ := ha
    simp only [toRecords, toRecord, hoctets, ih hrest, List.map_cons, record]
    rfl

/-- Values cannot be sent if one of them is for the kernel only. -/
theorem toRecords_eq_error {attributes : List Attribute} (h : ∃ a ∈ attributes, a.ReplyOnly) :
    ∃ failure, toRecords attributes = .error failure := by
  induction attributes with
  | nil =>
    obtain ⟨a, ha, -⟩ := h
    cases ha
  | cons a rest ih =>
    rw [toRecords]
    by_cases ha : a.ReplyOnly
    · rw [toRecord, (data?_eq_none_iff a).2 ha]
      exact ⟨_, rfl⟩
    · obtain ⟨b, hb, hreply⟩ := h
      rcases List.mem_cons.1 hb with rfl | hb
      · exact absurd hreply ha
      · obtain ⟨failure, hfailure⟩ := ih ⟨b, hb, hreply⟩
        cases a.toRecord with
        | error other => exact ⟨other, rfl⟩
        | ok r =>
          rw [hfailure]
          exact ⟨failure, rfl⟩

end Attribute

/-! ### Requests -/

namespace Connection

/-- A request can be written unless it holds an attribute that only the kernel sends. Behind the
header of the message stand then command, version and the attributes, each as the record of its
value, and they read as the same command, version and attributes, element by element. Every value
that was read from some data is read again from the data that it is sent with. -/
theorem requests_survive_the_wire (c : Connection) (command : Command)
    (attributes : List Attribute) (reply : Reply) (sequence : UInt32)
    (h : ∀ a ∈ attributes, a.Sendable) :
    ((∃ failure, c.encode command attributes reply sequence = .error failure)
        ↔ ∃ a ∈ attributes, a.ReplyOnly)
      ∧ (∀ message, c.encode command attributes reply sequence = .ok message →
        message.drop MessageHeader.size
            = [command.code, c.family.version, 0, 0]
              ++ (attributes.map Attribute.record).flatMap Record.encode
          ∧ ∃ m, GenericMessage.read? (message.drop MessageHeader.size) = some m
            ∧ m.command = command.code ∧ m.version = c.family.version
            ∧ m.records.map Attribute.ofRecord = attributes)
      ∧ ∀ type data octets, (Attribute.decode type data).data? = some octets →
        Attribute.decode (Attribute.decode type data).type octets = Attribute.decode type data := by
  by_cases hreply : ∃ a ∈ attributes, a.ReplyOnly
  · obtain ⟨failure, hfailure⟩ := Attribute.toRecords_eq_error hreply
    have hencode : c.encode command attributes reply sequence = .error failure := by
      rw [encode, hfailure]
      rfl
    refine ⟨⟨fun _ => hreply, fun _ => ⟨failure, hencode⟩⟩, fun message hmessage => ?_,
      fun _ _ _ => Attribute.decode_data⟩
    rw [hencode] at hmessage
    cases hmessage
  · have hnone : ∀ a ∈ attributes, ¬ a.ReplyOnly := fun a ha hr => hreply ⟨a, ha, hr⟩
    let m : GenericMessage := ⟨command.code, c.family.version, attributes.map Attribute.record⟩
    have hencode : c.encode command attributes reply sequence
        = .ok (Message.encode c.family.id reply.flags sequence m.encode) := by
      rw [encode, Attribute.toRecords_eq_ok hnone]
      rfl
    have hpayload := Message.drop_encode m.length_encode_mod_four c.family.id reply.flags sequence
    refine ⟨⟨fun hfailed => ?_, fun hr => absurd hr hreply⟩, fun message hmessage => ?_,
      fun _ _ _ => Attribute.decode_data⟩
    · obtain ⟨failure, hfailure⟩ := hfailed
      rw [hencode] at hfailure
      cases hfailure
    · obtain rfl := Except.ok.inj (hencode.symm.trans hmessage)
      rw [hpayload]
      have hsendable : ∀ r ∈ m.records, r.Sendable := by
        intro r hr
        obtain ⟨a, ha, rfl⟩ := List.mem_map.1 hr
        exact (h a ha).sendable_record
      refine ⟨rfl, m, GenericMessage.read?_encode hsendable, rfl, rfl, ?_⟩
      rw [List.map_map]
      exact (List.map_congr_left fun a ha => (h a ha).ofRecord_record (hnone a ha)).trans
        (List.map_id _)

/-- A connection on which nothing arrives. -/
def silent : Connection where
  family := ⟨28, 1⟩
  requests := .ofSocket ⟨0, SocketScript.idle⟩
  events := .ofSocket ⟨1, SocketScript.idle⟩
  nextSequence := 1
  deadline := 1000000

/-- A name with two NUL characters behind it, an interface type with something in its upper half, a
flag with data, and an address that is too short. -/
def oddAttributes : List Attribute :=
  [.decode 4 [0x77, 0x6C, 0x61, 0x6E, 0x30, 0, 0], .decode 5 [6, 0, 1, 0], .decode 92 [7],
    .decode 6 [1, 2, 3]]

theorem sendable_oddAttributes : ∀ a ∈ oddAttributes, a.Sendable := by
  have hmade : ∀ a ∈ oddAttributes,
      ∃ type data, type < 0x4000 ∧ Attribute.decode type data = a := by
    simp only [oddAttributes, List.forall_mem_cons]
    exact ⟨⟨4, _, by decide, rfl⟩, ⟨5, _, by decide, rfl⟩, ⟨92, _, by decide, rfl⟩,
      ⟨6, _, by decide, rfl⟩, fun _ h => nomatch h⟩
  have hfits : ∀ a ∈ oddAttributes, ∀ data ∈ a.data?, data.length ≤ Record.maxData := by
    decide +kernel
  exact fun a ha => ⟨hmade a ha, hfits a ha⟩

/-- They are sent without what does not belong to their values. -/
theorem requests_survive_the_wire_odd :
    (∀ a ∈ oddAttributes, a.Sendable)
      ∧ ∃ message m, silent.encode .newInterface oddAttributes .acknowledged 7 = .ok message
        ∧ GenericMessage.read? (message.drop MessageHeader.size) = some m
        ∧ m.command = 7 ∧ m.version = 1
        ∧ m.records.map Attribute.ofRecord
          = [.ifname "wlan0", .iftype .monitor, .ack, .unknown 6 [1, 2, 3]] := by
  obtain ⟨hfails, hreads, -⟩ := silent.requests_survive_the_wire .newInterface oddAttributes
    .acknowledged 7 sendable_oddAttributes
  cases hencode : silent.encode .newInterface oddAttributes .acknowledged 7 with
  | error failure =>
    exact absurd (hfails.1 ⟨failure, hencode⟩) (by decide +kernel)
  | ok message =>
    obtain ⟨-, m, hm, hcommand, hversion, hattributes⟩ := hreads message hencode
    refine ⟨sendable_oddAttributes, message, m, rfl, hm, hcommand, hversion, ?_⟩
    rw [hattributes]
    decide +kernel

end Connection

end NeighborAwareness
