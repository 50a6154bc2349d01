import Mathlib.Data.List.Forall2
import NeighborAwareness.Proofs.FixedWidth
import NeighborAwareness.Proofs.RadioDumps

/-!
# Attributes that the directory does not know

A kernel may put more into its messages than the directory knows of: attributes of other types, with
any data, and numbers and addresses of another width. They are read as unknown attributes, one for
each record and in its place, and what the directory makes of radios, interfaces and stations does
not depend on them, wherever they stand. The same goes for entries in the station information.

## Main definitions

* `Richer` : a list with more elements inserted.
* `Record.IsForeign`, `Record.IsForeignEntry` : attributes and station entries that are not known.
* `GenericMessage.Extends` : a message with such attributes and entries inserted.
* `Link.answered` : the link that answers the next call with messages.

## Main results

* `Richer.foldl_eq`, `Richer.findSome?_eq` : what passes over the inserted elements.
* `Attribute.ofRecord_of_isForeign`, `StationEntry.ofRecord_of_isForeignEntry` : what is not known
  is read as it came.
* `GenericMessage.Extends.row` : a message with more inserted, as it is read.
* `Directory.blind_to_foreign` : the directory passes over all of it.
-/

namespace NeighborAwareness

/-! ### Insertions -/

/-- A list with alike elements in the place of its own, and `extra` ones anywhere between them. -/
inductive Richer {α : Type} (extra : α → Prop) (alike : α → α → Prop) : List α → List α → Prop
  | done : Richer extra alike [] []
  | keep {a b : α} {as bs : List α} (h : alike a b) (hrest : Richer extra alike as bs) :
    Richer extra alike (a :: as) (b :: bs)
  | insert {b : α} {as bs : List α} (h : extra b) (hrest : Richer extra alike as bs) :
    Richer extra alike as (b :: bs)

namespace Richer

variable {α β : Type} {extra : α → Prop} {alike : α → α → Prop} {as bs : List α}

theorem map {more : β → Prop} {like : β → β → Prop} {f : α → β}
    (hextra : ∀ b, extra b → more (f b)) (halike : ∀ a b, alike a b → like (f a) (f b))
    (h : Richer extra alike as bs) : Richer more like (as.map f) (bs.map f) := by
  induction h with
  | done => exact .done
  | keep h _ ih => exact .keep (halike _ _ h) ih
  | insert h _ ih => exact .insert (hextra _ h) ih

/-- Whoever learns nothing from the inserted elements learns the same. -/
theorem foldl_eq {f : β → α → β} (hextra : ∀ s b, extra b → f s b = s)
    (halike : ∀ s a b, alike a b → f s b = f s a) (h : Richer extra alike as bs) (s : β) :
    bs.foldl f s = as.foldl f s := by
  induction h generalizing s with
  | done => rfl
  | keep h _ ih => rw [List.foldl_cons, List.foldl_cons, halike s _ _ h, ih]
  | insert h _ ih => rw [List.foldl_cons, hextra s _ h, ih]

/-- Whoever finds nothing in the inserted elements finds the same. -/
theorem findSome?_eq {f : α → Option β} (hextra : ∀ b, extra b → f b = none)
    (halike : ∀ a b, alike a b → f b = f a) (h : Richer extra alike as bs) :
    bs.findSome? f = as.findSome? f := by
  induction h with
  | done => rfl
  | keep h _ ih => rw [List.findSome?_cons, List.findSome?_cons, halike _ _ h, ih]
  | insert h _ ih => rw [List.findSome?_cons, hextra _ h, ih]

end Richer

/-! ### What is not known -/

/-- The types of attributes that are known. -/
def AttributeType.decoded : List UInt16 :=
  [wiphy, wiphyName, ifindex, ifname, iftype, mac, stationInfo, wiphyBands, supportedIftypes,
    wiphyFreq, generation, frame, duration, cookie, frameMatch, ack, frameType, offchannelTxOk,
    dontWaitForAck, rxSignal, wdev, splitWiphyDump]

namespace StationEntryType

/-- The types of station entries that are known. -/
def decoded : List UInt16 :=
  [inactiveTime, rxBytes, txBytes, signal, rxPackets, txPackets, txRetries, txFailed,
    connectedTime, beaconLoss, rxBytes64, txBytes64]

/-- How many octets of data a station entry of a type must have, if it is a counter. -/
def width? : UInt16 → Option Nat
  | inactiveTime | connectedTime | rxBytes | txBytes | rxPackets | txPackets | txRetries | txFailed
  | beaconLoss => some 4
  | rxBytes64 | txBytes64 => some 8
  | _ => none

end StationEntryType

namespace Record

/-- An attribute of a type that is not known, or a number or an address of another width. -/
def IsForeign (r : Record) : Prop :=
  r.type ∉ AttributeType.decoded
    ∨ ∃ w, AttributeType.width? r.type = some w ∧ w ≠ 0 ∧ r.data.length ≠ w

/-- A station entry of a type that is not known, a counter of another width, or a signal without
data; of other signals the first octet counts. -/
def IsForeignEntry (r : Record) : Prop :=
  r.type ∉ StationEntryType.decoded
    ∨ (∃ w, StationEntryType.width? r.type = some w ∧ r.data.length ≠ w)
    ∨ r.type = StationEntryType.signal ∧ r.data = []

/-- The same attribute, or station information with foreign entries inserted. -/
inductive Alike : Record → Record → Prop
  | refl (r : Record) : Alike r r
  | stationInfo {data more : Bytes} {entries others : List Record}
    (hdata : Attribute.nested? data = some entries) (hmore : Attribute.nested? more = some others)
    (h : Richer IsForeignEntry Eq entries others) :
    Alike ⟨AttributeType.stationInfo, data⟩ ⟨AttributeType.stationInfo, more⟩

end Record

/-- A message with foreign attributes inserted. -/
def GenericMessage.Extends (m richer : GenericMessage) : Prop :=
  Richer Record.IsForeign Record.Alike m.records richer.records

/-! ### Reading -/

namespace StationEntry

/-- An entry that is kept as it came. -/
def IsUnknown (e : StationEntry) : Prop :=
  ∃ type data, e = unknown type data

variable {type : UInt16} {data : Bytes}

theorem typed?_of_notMem (h : type ∉ StationEntryType.decoded) : typed? ⟨type, data⟩ = none := by
  unfold typed?
  dsimp only
  split
  case h_13 => rfl
  all_goals exact absurd (by decide) h

theorem typed?_of_width {w : Nat} (h : StationEntryType.width? type = some w)
    (hlength : data.length ≠ w) : typed? ⟨type, data⟩ = none := by
  unfold typed?
  dsimp only
  split
  case h_12 => cases h
  case h_13 => rfl
  all_goals
    obtain rfl := Option.some.inj h
    rw [LittleEndian.read?, if_neg hlength]
    rfl

/-- What is not known is read as it came. -/
theorem ofRecord_of_isForeignEntry {r : Record} (h : r.IsForeignEntry) :
    ofRecord r = unknown r.type r.data := by
  have hnone : typed? r = none := by
    rcases h with htype | ⟨w, hwidth, hlength⟩ | ⟨hsignal, hdata⟩
    · exact typed?_of_notMem htype
    · exact typed?_of_width hwidth hlength
    · obtain ⟨type, data⟩ := r
      obtain rfl : type = StationEntryType.signal := hsignal
      obtain rfl : data = [] := hdata
      rfl
  rw [ofRecord, hnone]
  rfl

end StationEntry

namespace Attribute

/-- An attribute that is kept as it came. -/
def IsUnknown (a : Attribute) : Prop :=
  ∃ type data, a = unknown type data

/-- The same attribute, or station information with entries inserted that are kept as they came. -/
inductive Alike : Attribute → Attribute → Prop
  | refl (a : Attribute) : Alike a a
  | stationInfo {entries others : List StationEntry}
    (h : Richer StationEntry.IsUnknown Eq entries others) :
    Alike (stationInfo entries) (stationInfo others)

theorem typed?_of_notMem {type : UInt16} {data : Bytes} (h : type ∉ AttributeType.decoded) :
    typed? type data = none := by
  unfold typed?
  split
  case h_23 => rfl
  all_goals exact absurd (by decide) h

/-- What is not known is read as it came. -/
theorem ofRecord_of_isForeign {r : Record} (h : r.IsForeign) :
    ofRecord r = unknown r.type r.data := by
  rcases h with htype | ⟨w, hwidth, hsome, hlength⟩
  · rw [ofRecord, decode, typed?_of_notMem htype]
    rfl
  · exact (decode_eq_unknown_iff hwidth).2 ⟨hsome, hlength⟩

/-- Station information that is well formed is read entry by entry. -/
theorem ofRecord_stationInfo {data : Bytes} {entries : List Record}
    (h : nested? data = some entries) :
    ofRecord ⟨AttributeType.stationInfo, data⟩
      = stationInfo (entries.map StationEntry.ofRecord) := by
  change ((nested? data).map _).getD _ = _
  rw [h]
  rfl

theorem alike_ofRecord {r other : Record} (h : r.Alike other) :
    (ofRecord r).Alike (ofRecord other) := by
  cases h with
  | refl => exact .refl _
  | @stationInfo data more entries others hdata hmore h =>
    rw [ofRecord_stationInfo hdata, ofRecord_stationInfo hmore]
    refine .stationInfo (h.map (fun e he => ?_) fun e other he => by rw [he])
    exact ⟨_, _, StationEntry.ofRecord_of_isForeignEntry he⟩

end Attribute

/-- A message with more inserted is read with unknown attributes and entries inserted. -/
theorem GenericMessage.Extends.row {m richer : GenericMessage} (h : m.Extends richer) :
    Richer Attribute.IsUnknown Attribute.Alike m.row richer.row :=
  h.map (fun _ hr => ⟨_, _, Attribute.ofRecord_of_isForeign hr⟩) fun _ _ => Attribute.alike_ofRecord

/-! ### Learning -/

variable {row richer : List Attribute}

namespace Attribute

/-- Whoever learns nothing from unknown attributes and entries learns the same. -/
theorem foldl_of_richer {β : Type} {f : β → Attribute → β}
    (hunknown : ∀ s type data, f s (unknown type data) = s)
    (hentries : ∀ s {entries others}, Richer StationEntry.IsUnknown Eq entries others →
      f s (stationInfo others) = f s (stationInfo entries))
    (h : Richer IsUnknown Alike row richer) (s : β) : richer.foldl f s = row.foldl f s := by
  refine h.foldl_eq ?_ ?_ s
  · rintro s _ ⟨type, data, rfl⟩
    exact hunknown s type data
  · rintro s _ _ (⟨a⟩ | ⟨hmore⟩)
    · rfl
    · exact hentries s hmore

/-- Whoever looks for neither unknown attributes nor station information finds the same. -/
theorem findSome?_of_richer {β : Type} {f : Attribute → Option β}
    (hunknown : ∀ type data, f (unknown type data) = none)
    (hentries : ∀ entries, f (stationInfo entries) = none)
    (h : Richer IsUnknown Alike row richer) : richer.findSome? f = row.findSome? f := by
  refine h.findSome?_eq ?_ ?_
  · rintro _ ⟨type, data, rfl⟩
    exact hunknown type data
  · rintro _ _ (⟨a⟩ | ⟨-⟩)
    · rfl
    · rw [hentries, hentries]

end Attribute

namespace Radio

theorem merge_of_richer (h : Richer Attribute.IsUnknown Attribute.Alike row richer) (r : Radio) :
    r.merge richer = r.merge row :=
  Attribute.foldl_of_richer (fun _ _ _ => rfl) (fun _ _ _ _ => rfl) h r

theorem idOf?_of_richer (h : Richer Attribute.IsUnknown Attribute.Alike row richer) :
    idOf? richer = idOf? row :=
  Attribute.findSome?_of_richer (fun _ _ => rfl) (fun _ => rfl) h

end Radio

theorem Interface.ofRow?_of_richer (h : Richer Attribute.IsUnknown Attribute.Alike row richer) :
    ofRow? richer = ofRow? row := by
  have hindex : richer.findSome? Attribute.ifindex? = row.findSome? Attribute.ifindex? :=
    Attribute.findSome?_of_richer (fun _ _ => rfl) (fun _ => rfl) h
  have hlearn : richer.foldl learn blank = row.foldl learn blank :=
    Attribute.foldl_of_richer (fun _ _ _ => rfl) (fun _ _ _ _ => rfl) h blank
  rw [ofRow?, ofRow?, hindex, hlearn]

theorem Station.ofRow_of_richer (h : Richer Attribute.IsUnknown Attribute.Alike row richer) :
    ofRow richer = ofRow row := by
  refine Attribute.foldl_of_richer (fun _ _ _ => rfl) (fun s entries others hmore => ?_) h blank
  refine hmore.foldl_eq ?_ ?_ s
  · rintro s _ ⟨type, data, rfl⟩
    rfl
  · rintro s a _ rfl
    rfl

/-! ### Dumps -/

variable {rows others : List (List Attribute)}

/-- What does not depend on what is not known is the same for all messages of a dump. -/
theorem map_of_richer {β : Type} {f : List Attribute → β}
    (hf : ∀ {row richer}, Richer Attribute.IsUnknown Attribute.Alike row richer → f richer = f row)
    (h : List.Forall₂ (Richer Attribute.IsUnknown Attribute.Alike) rows others) :
    others.map f = rows.map f := by
  induction h with
  | nil => rfl
  | cons hrow _ ih => rw [List.map_cons, List.map_cons, hf hrow, ih]

namespace Radio

theorem addRow_of_richer (h : Richer Attribute.IsUnknown Attribute.Alike row richer)
    (found : Keyed Radio × List Note) : addRow found richer = addRow found row := by
  simp only [addRow, idOf?_of_richer h, merge_of_richer h]

theorem ofRows_of_richer
    (h : List.Forall₂ (Richer Attribute.IsUnknown Attribute.Alike) rows others) :
    ofRows others = ofRows rows := by
  have hfold : ∀ found, others.foldl addRow found = rows.foldl addRow found := by
    induction h with
    | nil => exact fun _ => rfl
    | cons hrow _ ih =>
      intro found
      rw [List.foldl_cons, List.foldl_cons, addRow_of_richer hrow, ih]
  rw [ofRows, ofRows, hfold]

end Radio

namespace Interface

theorem ofRows_eq (rows : List (List Attribute)) :
    ofRows rows = (((rows.map ofRow?).filterMap id).mergeSort fun a b => a.index ≤ b.index,
      ((rows.map ofRow?).filter Option.isNone).map fun _ => .skippedDevice) := by
  rw [ofRows, List.filterMap_map, List.filter_map, List.map_map]
  rfl

theorem ofRows_of_richer
    (h : List.Forall₂ (Richer Attribute.IsUnknown Attribute.Alike) rows others) :
    ofRows others = ofRows rows := by
  rw [ofRows_eq, ofRows_eq, map_of_richer ofRow?_of_richer h]

end Interface

namespace Link

/-- The link when the next call is answered with `messages`. -/
def answered (l : Link) (answer : Answer) (messages : List GenericMessage) : Link :=
  { l with answers := { answer with rows := messages.map GenericMessage.row } :: l.answers }

/-- The messages are the reply, if the call does not fail, and make no difference to the link. -/
theorem execute_answered (l : Link) (answer : Answer) (messages : List GenericMessage)
    (command : Command) (attributes : List Attribute) (dump : Bool) (reply : Command) :
    (l.answered answer messages).execute command attributes dump reply
      = (match answer.failure with
          | some failure => .error failure
          | none => .ok (messages.map GenericMessage.row),
        { l with
          clock := l.clock + answer.took
          calls := l.calls ++ [(l.clock, .execute command attributes dump reply)] }) := by
  rw [execute, take, answered, List.headD_cons]
  cases answer.failure <;> rfl

end Link

theorem GenericMessage.map_type_row (m : GenericMessage) :
    m.row.map Attribute.type = m.records.map Record.type := by
  rw [row, List.map_map]
  exact List.map_congr_left fun r _ => Attribute.type_decode r.type r.data

namespace Directory

/-- Whatever foreign attributes and station entries are inserted into the messages of a dump, the
directory lists the same radios, interfaces and stations, and takes the same notes. What the
messages of an answer, or of an event, are handed out as is one attribute for each record of the
message, in order and under its type. -/
theorem blind_to_foreign (d : Directory) (i : Interface) (l : Link) (answer : Answer)
    {dump richer : List GenericMessage} (h : List.Forall₂ GenericMessage.Extends dump richer) :
    let plain := l.answered answer dump
    let more := l.answered answer richer
    listRadios more = listRadios plain
      ∧ d.listInterfaces more = d.listInterfaces plain
      ∧ stations more i = stations plain i
      ∧ (∀ m : GenericMessage, m.row.map Attribute.type = m.records.map Record.type)
      ∧ (∀ version reply found m all, Connection.collect version reply found m = .ok all →
        all = found ++ [m.row])
      ∧ ∀ header m, ∃ e, (Connection.eventOf ⟨header, .content m⟩).1 = [e]
        ∧ e.attributes = m.row := by
  intro plain more
  have hrows : List.Forall₂ (Richer Attribute.IsUnknown Attribute.Alike)
      (dump.map GenericMessage.row) (richer.map GenericMessage.row) := by
    rw [List.forall₂_map_left_iff, List.forall₂_map_right_iff]
    exact h.imp fun _ _ => GenericMessage.Extends.row
  refine ⟨?_, ?_, ?_, GenericMessage.map_type_row, ?_, fun header m => ⟨_, rfl, rfl⟩⟩
  · rw [listRadios, listRadios, Link.execute_answered, Link.execute_answered]
    cases answer.failure with
    | some failure => rfl
    | none => simp only [Radio.ofRows_of_richer hrows]
  · rw [listInterfaces, listInterfaces, Link.execute_answered, Link.execute_answered]
    cases answer.failure with
    | some failure => rfl
    | none => simp only [Interface.ofRows_of_richer hrows]
  · rw [stations, stations, Link.execute_answered, Link.execute_answered]
    cases answer.failure with
    | some failure => rfl
    | none => simp only [map_of_richer Station.ofRow_of_richer hrows]
  · intro version reply found m all hall
    rw [Connection.collect] at hall
    split at hall
    · cases hall
    · split at hall
      · cases hall
      · exact (Except.ok.inj hall).symm

/-- A message about an interface and what it counts, as in a dump of interfaces and in one of
stations. -/
def countedMessage : GenericMessage :=
  ⟨7, 1, [⟨AttributeType.ifindex, [3, 0, 0, 0]⟩, ⟨AttributeType.mac, [2, 0, 0, 0, 0, 3]⟩,
    ⟨AttributeType.stationInfo, Record.encode ⟨StationEntryType.rxPackets, [5, 0, 0, 0]⟩⟩]⟩

/-- The message with an attribute of another type, an index that is too long, an address that is too
short, and entries of both kinds. -/
def crowdedMessage : GenericMessage :=
  ⟨7, 1, [⟨300, [1]⟩, ⟨AttributeType.ifindex, [3, 0, 0, 0]⟩,
    ⟨AttributeType.ifindex, [4, 0, 0, 0, 0]⟩, ⟨AttributeType.mac, [2, 0, 0, 0, 0, 3]⟩,
    ⟨AttributeType.stationInfo, Record.encode ⟨40, []⟩
      ++ Record.encode ⟨StationEntryType.rxPackets, [5, 0, 0, 0]⟩
      ++ Record.encode ⟨StationEntryType.rxPackets, [6]⟩⟩, ⟨AttributeType.mac, [1, 2, 3]⟩]⟩

theorem extends_crowdedMessage : countedMessage.Extends crowdedMessage := by
  have hentries : Attribute.nested? (Record.encode ⟨StationEntryType.rxPackets, [5, 0, 0, 0]⟩)
      = some [⟨StationEntryType.rxPackets, [5, 0, 0, 0]⟩] := by
    decide +kernel
  have hothers : Attribute.nested? (Record.encode ⟨40, []⟩
      ++ Record.encode ⟨StationEntryType.rxPackets, [5, 0, 0, 0]⟩
      ++ Record.encode ⟨StationEntryType.rxPackets, [6]⟩)
      = some [⟨40, []⟩, ⟨StationEntryType.rxPackets, [5, 0, 0, 0]⟩,
        ⟨StationEntryType.rxPackets, [6]⟩] := by
    decide +kernel
  refine .insert (.inl (by decide)) (.keep (.refl _) (.insert (.inr ⟨4, rfl, by decide⟩)
    (.keep (.refl _) (.keep (.stationInfo hentries hothers ?_)
      (.insert (.inr ⟨6, rfl, by decide⟩) .done)))))
  exact .insert (.inl (by decide)) (.keep rfl (.insert (.inr (.inl ⟨4, rfl, by decide⟩)) .done))

/-- From both messages the directory lists the same interface, and the same station. -/
theorem blind_to_foreign_crowded :
    let l := (Link.start 0 []).answered .granted [crowdedMessage]
    List.Forall₂ GenericMessage.Extends [countedMessage] [crowdedMessage]
      ∧ (empty.listInterfaces l).1 = .ok [{ Interface.blank with
          index := 3, address := ⟨[2, 0, 0, 0, 0, 3], rfl⟩ }]
      ∧ (stations l .blank).1 = .ok [{ Station.blank with
          address := ⟨[2, 0, 0, 0, 0, 3], rfl⟩, rxPackets := some 5 }] := by
  have hextends : List.Forall₂ GenericMessage.Extends [countedMessage] [crowdedMessage] :=
    .cons extends_crowdedMessage .nil
  obtain ⟨-, hinterfaces, hstations, -⟩ :=
    empty.blind_to_foreign .blank (Link.start 0 []) .granted hextends
  dsimp only
  rw [hinterfaces, hstations]
  exact ⟨hextends, by decide +kernel, by decide +kernel⟩

end Directory

end NeighborAwareness
