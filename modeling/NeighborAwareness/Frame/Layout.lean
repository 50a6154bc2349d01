import NeighborAwareness.Address
import NeighborAwareness.Failure

/-!
# Layout of the management frames

What all frames of neighbour awareness networking share, and the scratch memory they are put
together in. A frame is put together over the front of the scratch memory: a template or one piece
behind the other, and then the fields that are filled in. The octets behind it are those of longer
frames written earlier.

## Main definitions

* `Frame.networkId`, `Frame.groupAddress`, `Frame.serviceId`, `Frame.actionBody` : the fixed fields.
* `Frame.managementHeader` : the 24 octets in front of every frame body.
* `Frame.actionHead` : header and first body octets of an action frame.
* `Frame.checkPayload` : the limit of service payloads.
* `Scratch`, `Scratch.write`, `Scratch.frame` : the scratch memory.
* `Scratch.put`, `Scratch.putAll`, `Scratch.patch` : octets written at an offset, pieces one behind the
  other, and fields filled in.
* `Scratch.putTemplate`, `Scratch.putActionHead` : a template at the front, and that of action heads.

## Main results

* `Scratch.frame_write` : the frame just written is the one that is read.
* `Scratch.write_putAll`, `Scratch.write_patch` : what is put behind a frame, and filled in in one.
* `Scratch.putTemplate_eq`, `Scratch.putActionHead_eq` : what a template leaves.
-/

namespace NeighborAwareness

namespace Frame

/-- Octets of scratch memory, enough for one frame. -/
def capacity : Nat := 4096

/-- Octets of the management header. -/
def headerLength : Nat := 24

/-- Offset of the receiver address. -/
def receiverOffset : Nat := 4

/-- Offset of the transmitter address. -/
def sourceOffset : Nat := 10

/-- Offset of the network identifier. -/
def networkOffset : Nat := 16

/-- The network identifier in every frame, which marks the cluster. -/
def networkId : Address where
  octets := [0x50, 0x6F, 0x9A, 0x01, 0xD9, 0x49]

/-- The group address that discovery frames are sent to. -/
def groupAddress : Address where
  octets := [0x51, 0x6F, 0x9A, 0x01, 0x00, 0x00]

/-- The organisation identifier and its type for neighbour awareness networking. -/
def organisationType : Bytes := [0x50, 0x6F, 0x9A, 0x13]

/-- The body of an action frame begins with public action, vendor specific, organisation and
type. -/
def actionBody : Bytes := [0x04, 0x09, 0x50, 0x6F, 0x9A, 0x13]

/-- The service that all nodes share. -/
def serviceId : Bytes := [0x75, 0x94, 0x31, 0x93, 0xEA, 0xC9]

/-- The length of a service payload is one octet. -/
def maxPayload : Nat := 255

/-- Frame control of action frames: management, subtype action. -/
def actionControl : Bytes := [0xD0, 0x00]

/-- Frame control of beacons: management, subtype beacon. -/
def beaconControl : Bytes := [0x80, 0x00]

/-- The management header: frame control, no duration, receiver, transmitter, network, no
sequence number. -/
def managementHeader (control : Bytes) (receiver source : Address) : Bytes :=
  control ++ [0x00, 0x00] ++ receiver.octets ++ source.octets ++ networkId.octets ++ [0x00, 0x00]

/-- Header and first body octets of an action frame. -/
def actionHead (receiver source : Address) : Bytes :=
  managementHeader actionControl receiver source ++ actionBody

/-- The action head to the group, with the transmitter still to be filled in. -/
def actionTemplate : Bytes :=
  [0xD0, 0x00, 0x00, 0x00,
   0x51, 0x6F, 0x9A, 0x01, 0x00, 0x00,
   0x00, 0x00, 0x00, 0x00, 0x00, 0x00,
   0x50, 0x6F, 0x9A, 0x01, 0xD9, 0x49,
   0x00, 0x00,
   0x04, 0x09, 0x50, 0x6F, 0x9A, 0x13]

/-- The addresses in an action head. -/
def actionFields (receiver source : Address) : List (Nat × Bytes) :=
  [(receiverOffset, receiver.octets), (sourceOffset, source.octets)]

theorem patch_actionTemplate (receiver source : Address) :
    actionTemplate.patch (actionFields receiver source) = actionHead receiver source := by
  obtain ⟨octets, h⟩ := receiver
  obtain ⟨octets', h'⟩ := source
  match octets, h, octets', h' with
  | [_, _, _, _, _, _], _, [_, _, _, _, _, _], _ => rfl

/-- Whether the body of an action frame belongs to neighbour awareness networking. -/
def isNeighborAction (body : Bytes) : Bool :=
  actionBody.isPrefixOf body

/-- Refuses a payload that its length octet cannot describe or that does not fit into the scratch
memory behind `fixed` octets. -/
def checkPayload (payload : Bytes) (fixed : Nat) : Except Failure Unit :=
  let limit := min maxPayload (capacity - fixed)
  if payload.length ≤ limit then .ok ()
  else .error (.of (.payloadTooLarge payload.length limit))

/-- With room for any length that one octet can say, just the longer payloads are refused. -/
theorem checkPayload_eq (payload : Bytes) {fixed : Nat} (hfixed : maxPayload + fixed ≤ capacity) :
    checkPayload payload fixed
      = if payload.length ≤ maxPayload then .ok ()
        else .error (.of (.payloadTooLarge payload.length maxPayload)) := by
  have hlimit : min maxPayload (capacity - fixed) = maxPayload := by omega
  rw [checkPayload, hlimit]

/-- A payload that is not refused fits into the scratch memory behind `fixed` octets. -/
theorem add_length_le_of_checkPayload {payload : Bytes} {fixed : Nat} (hfixed : fixed ≤ capacity)
    (h : checkPayload payload fixed = .ok ()) : fixed + payload.length ≤ capacity := by
  unfold checkPayload at h
  dsimp only at h
  split at h
  · omega
  · cases h

end Frame

/-- Memory of fixed size in which frames are put together one at a time. -/
@[ext]
structure Scratch where
  bytes : Bytes
  length_bytes : bytes.length = Frame.capacity

namespace Scratch

/-- Scratch memory that holds no frame yet. -/
def empty : Scratch :=
  ⟨List.replicate Frame.capacity 0, List.length_replicate⟩

instance : Inhabited Scratch := ⟨empty⟩

/-- The first `length` octets, at most all of them. -/
def frame (s : Scratch) (length : Nat) : Bytes :=
  s.bytes.take length

/-- `data` written over the front, as far as it fits. -/
def write (s : Scratch) (data : Bytes) : Scratch where
  bytes := Bytes.overlay (data.take Frame.capacity) s.bytes
  length_bytes := by
    have h := s.length_bytes
    rw [Bytes.length_overlay, List.length_take, h]
    omega

/-- The frame just written is the one that is read. -/
theorem frame_write (s : Scratch) {data : Bytes} (h : data.length ≤ Frame.capacity) :
    (s.write data).frame data.length = data := by
  have hd : data.take Frame.capacity = data := List.take_of_length_le h
  simp only [frame, write, hd]
  exact Bytes.take_overlay data s.bytes

/-! ### Pieces and fields -/

theorem length_splice_bytes (s : Scratch) (offset : Nat) (data : Bytes) :
    (s.bytes.splice offset (data.take (Frame.capacity - offset))).length = Frame.capacity := by
  refine (Bytes.length_splice_of_le ?_).trans s.length_bytes
  rw [s.length_bytes]
  exact List.length_take_le _ _

/-- `data` written from `offset` on, as far as it fits. -/
def put (s : Scratch) (offset : Nat) (data : Bytes) : Scratch :=
  ⟨s.bytes.splice offset (data.take (Frame.capacity - offset)), s.length_splice_bytes offset data⟩

/-- Pieces written one behind the other from `offset` on, and the offset behind them. -/
def putAll (s : Scratch) (offset : Nat) : List Bytes → Nat × Scratch
  | [] => (offset, s)
  | piece :: pieces => (s.put offset piece).putAll (offset + piece.length) pieces

/-- Fields filled in behind `base`. -/
def patch (s : Scratch) (base : Nat) (fields : List (Nat × Bytes)) : Scratch :=
  fields.foldl (fun s field => s.put (base + field.1) field.2) s

/-- A template at the front, with its fields. -/
def putTemplate (s : Scratch) (template : Bytes) (fields : List (Nat × Bytes)) : Scratch :=
  (s.put 0 template).patch 0 fields

/-- The action head, and the offset behind it. -/
def putActionHead (s : Scratch) (receiver source : Address) : Nat × Scratch :=
  (Frame.actionTemplate.length,
    s.putTemplate Frame.actionTemplate (Frame.actionFields receiver source))

/-- A frame that was put together, with its length. If it was refused, the memory is not looked at. -/
def composed : Except Failure Nat × Scratch → Except Failure (Nat × Scratch)
  | (.ok length, s) => .ok (length, s)
  | (.error failure, _) => .error failure

theorem bytes_write (s : Scratch) {data : Bytes} (h : data.length ≤ Frame.capacity) :
    (s.write data).bytes = Bytes.overlay data s.bytes := by
  simp only [write, List.take_of_length_le h]

theorem drop_write (s : Scratch) {data : Bytes} (h : data.length ≤ Frame.capacity) :
    (s.write data).bytes.drop data.length = s.bytes.drop data.length := by
  rw [bytes_write s h, Bytes.drop_overlay]

theorem bytes_put (s : Scratch) {offset : Nat} {data : Bytes}
    (h : offset + data.length ≤ Frame.capacity) :
    (s.put offset data).bytes = s.bytes.splice offset data := by
  simp only [put, List.take_of_length_le (show data.length ≤ Frame.capacity - offset by omega)]

theorem put_zero (s : Scratch) (data : Bytes) : s.put 0 data = s.write data := rfl

theorem write_put (s : Scratch) {data field : Bytes} {offset : Nat}
    (h : offset + field.length ≤ data.length) (hdata : data.length ≤ Frame.capacity) :
    (s.write data).put offset field = s.write (data.splice offset field) := by
  have hsplice : (data.splice offset field).length ≤ Frame.capacity := by
    rwa [Bytes.length_splice h]
  apply Scratch.ext
  rw [bytes_put _ (by omega), bytes_write s hdata, bytes_write s hsplice,
    Bytes.splice_overlay s.bytes h]

theorem write_put_length (s : Scratch) {data piece : Bytes}
    (h : data.length + piece.length ≤ Frame.capacity) :
    (s.write data).put data.length piece = s.write (data ++ piece) := by
  have happend : (data ++ piece).length ≤ Frame.capacity := by rwa [List.length_append]
  apply Scratch.ext
  rw [bytes_put _ h, bytes_write s (by omega), bytes_write s happend, Bytes.splice_length_overlay]

/-- Pieces put behind a frame. -/
theorem write_putAll (s : Scratch) {data : Bytes} {pieces : List Bytes}
    (h : (data ++ pieces.flatten).length ≤ Frame.capacity) :
    (s.write data).putAll data.length pieces
      = ((data ++ pieces.flatten).length, s.write (data ++ pieces.flatten)) := by
  induction pieces generalizing data with
  | nil => rw [putAll, List.flatten_nil, List.append_nil]
  | cons piece pieces ih =>
    rw [List.flatten_cons, ← List.append_assoc] at h
    have hpiece : data.length + piece.length ≤ Frame.capacity := by
      rw [List.length_append, List.length_append] at h
      omega
    rw [putAll, write_put_length s hpiece, ← List.length_append, ih h, List.flatten_cons,
      List.append_assoc]

/-- Fields filled in in a template that stands behind something else. -/
theorem write_patch (s : Scratch) {front template : Bytes} {fields : List (Nat × Bytes)}
    (h : ∀ field ∈ fields, field.1 + field.2.length ≤ template.length)
    (hfits : (front ++ template).length ≤ Frame.capacity) :
    (s.write (front ++ template)).patch front.length fields
      = s.write (front ++ template.patch fields) := by
  induction fields generalizing template with
  | nil => rfl
  | cons field fields ih =>
    have hfield := h field List.mem_cons_self
    have hlength := Bytes.length_splice hfield
    have hinside : front.length + field.1 + field.2.length ≤ (front ++ template).length := by
      rw [List.length_append]
      omega
    rw [patch, List.foldl_cons, write_put s hinside hfits, Bytes.splice_append, ← patch]
    refine ih (fun other hother => ?_) ?_
    · rw [hlength]
      exact h other (List.mem_cons_of_mem _ hother)
    · rwa [List.length_append, hlength, ← List.length_append]

/-- A template put behind a frame, with its fields and what is put behind it. -/
theorem write_put_patch_put (s : Scratch) {front template rest : Bytes} {fields : List (Nat × Bytes)}
    (h : ∀ field ∈ fields, field.1 + field.2.length ≤ template.length)
    (hfits : (front ++ template).length + rest.length ≤ Frame.capacity) :
    (((s.write front).put front.length template).patch front.length fields).put
        (front.length + template.length) rest
      = s.write (front ++ template.patch fields ++ rest) := by
  have hlength : front.length + template.length = (front ++ template.patch fields).length := by
    rw [List.length_append, Bytes.length_patch h]
  rw [write_put_length s (by rw [← List.length_append]; omega), write_patch s h (by omega), hlength]
  refine write_put_length s ?_
  rwa [← hlength, ← List.length_append]

/-- A template leaves its octets with the fields. -/
theorem putTemplate_eq (s : Scratch) {template : Bytes} {fields : List (Nat × Bytes)}
    (h : ∀ field ∈ fields, field.1 + field.2.length ≤ template.length)
    (hfits : template.length ≤ Frame.capacity) :
    s.putTemplate template fields = s.write (template.patch fields) := by
  have hpatch : (s.write ([] ++ template)).patch 0 fields = s.write ([] ++ template.patch fields) :=
    write_patch s h hfits
  rwa [List.nil_append, List.nil_append, ← put_zero] at hpatch

/-- What is written of an action head. -/
theorem putActionHead_eq (s : Scratch) (receiver source : Address) :
    s.putActionHead receiver source
      = ((Frame.actionHead receiver source).length,
        s.write (Frame.actionHead receiver source)) := by
  have hfields : ∀ field ∈ Frame.actionFields receiver source,
      field.1 + field.2.length ≤ Frame.actionTemplate.length := by
    simp [Frame.actionFields, receiver.length_octets, source.length_octets, Frame.receiverOffset,
      Frame.sourceOffset, Frame.actionTemplate]
  rw [putActionHead, putTemplate_eq s hfields (by decide), ← Frame.patch_actionTemplate,
    Bytes.length_patch hfields]

end Scratch

end NeighborAwareness
