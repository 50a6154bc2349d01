import NeighborAwareness.Netlink.Generic

/-!
# Netlink messages

A message is a header of sixteen octets and a payload. Two message types have payloads of their
own: the end of a dump, and an answer to a request, which is an acknowledgement when its code is
zero and else repeats the rejected request.

## Main definitions

* `MessageHeader`, `Message` : a message.
* `Message.encode` : the octets of a request.
* `Message.read?` : the message that octets are.
* `LinkInfo.bringUp`, `LinkInfo.read?` : the payload of the messages that bring interfaces up.

## Main results

* `Message.length_of_read?` : a message that reads is as long as its header says.
-/

namespace NeighborAwareness

/-- The header of a message. -/
structure MessageHeader where
  /-- Octets of header and payload together. -/
  length : Nat
  type : UInt16
  flags : UInt16
  sequence : UInt32
  /-- The socket that a message comes from, zero for the kernel. -/
  sender : UInt32
  deriving DecidableEq, Repr

namespace MessageHeader

/-- Octets of a header. -/
def size : Nat := 16

/-- The octets of a header. -/
def encode (h : MessageHeader) : Bytes :=
  LittleEndian.encode 4 h.length ++ LittleEndian.encode 2 h.type.toNat
    ++ LittleEndian.encode 2 h.flags.toNat ++ LittleEndian.encode 4 h.sequence.toNat
    ++ LittleEndian.encode 4 h.sender.toNat

/-- The header in front of octets. -/
def read? (bytes : Bytes) : Option MessageHeader :=
  let field := fun offset width => LittleEndian.decode ((bytes.drop offset).take width)
  if size ≤ bytes.length then
    some ⟨field 0 4, UInt16.ofNat (field 4 2), UInt16.ofNat (field 6 2),
      UInt32.ofNat (field 8 4), UInt32.ofNat (field 12 4)⟩
  else none

end MessageHeader

/-! ### Flags -/

namespace MessageFlags

/-- Marks a request. -/
def request : UInt16 := 1

/-- More messages of the same answer follow. -/
def multi : UInt16 := 2

/-- Asks for an acknowledgement. -/
def acknowledge : UInt16 := 4

/-- Asks for everything there is. -/
def dump : UInt16 := 0x300

end MessageFlags

/-! ### Messages -/

/-- What a message carries. -/
inductive MessageBody (α : Type) where
  | content (a : α)
  /-- The request was carried out. -/
  | acknowledged
  /-- A dump is complete. -/
  | finished
  /-- The request with this sequence number was rejected. The kernel gives error numbers as
  negative codes; `code` is the number. -/
  | rejected (code : Int32) (sequence : UInt32)
  deriving DecidableEq, Repr

/-- A message with contents of type `α`. -/
structure Message (α : Type) where
  header : MessageHeader
  body : MessageBody α
  deriving DecidableEq, Repr

/-- A way to read the contents of messages. -/
abbrev ContentReader (α : Type) := Bytes → Option α

namespace Message

/-- The type of messages that answer a request. -/
def answerType : UInt16 := 2

/-- The type of the message that ends a dump. -/
def finishedType : UInt16 := 3

/-- The octets of a message with the given payload. -/
def encode (type flags : UInt16) (sequence : UInt32) (payload : Bytes) : Bytes :=
  let length := MessageHeader.size + payload.length
  MessageHeader.encode ⟨length, type, flags, sequence, 0⟩ ++ payload
    ++ List.replicate (Record.aligned length - length) 0

/-- The body of an answer to a request: a code, the header of the request and, when it was rejected,
the contents of the request. How long the repeated header says that the request was does not
matter. -/
def readAnswer? {α : Type} (content : ContentReader α) (bytes : Bytes) : Option (MessageBody α) :=
  match MessageHeader.read? (bytes.drop 4) with
  | none => none
  | some request =>
    let code := LittleEndian.decode (bytes.take 4)
    if code = 0 then some .acknowledged
    else
      (content (bytes.drop (4 + MessageHeader.size))).map fun _ =>
        .rejected (-(UInt32.ofNat code).toInt32) request.sequence

/-- The body of a message of a given type. -/
def readBody? {α : Type} (content : ContentReader α) (type : UInt16) (bytes : Bytes) :
    Option (MessageBody α) :=
  if type = finishedType then some .finished
  else if type = answerType then readAnswer? content bytes
  else (content bytes).map .content

/-- The message that octets are. They have to be as many as its header says, and with no padding
behind them, they have to be a multiple of four. -/
def read? {α : Type} (content : ContentReader α) (bytes : Bytes) : Option (Message α) :=
  match MessageHeader.read? bytes with
  | none => none
  | some header =>
    if header.length = bytes.length ∧ header.length % 4 = 0 then
      (readBody? content header.type (bytes.drop MessageHeader.size)).map fun body => ⟨header, body⟩
    else none

/-- A message that reads is as long as its header says. -/
theorem length_of_read? {α : Type} {content : ContentReader α} {bytes : Bytes} {m : Message α}
    (h : read? content bytes = some m) : m.header.length = bytes.length := by
  unfold read? at h
  split at h
  · simp at h
  · split at h
    · rename_i hlength
      obtain ⟨body, _, rfl⟩ := Option.map_eq_some_iff.1 h
      exact hlength.1
    · simp at h

end Message

/-! ### Bringing interfaces up -/

namespace LinkInfo

/-- Octets in front of the records. -/
def headerLength : Nat := 16

/-- The type of the request for a new link state. -/
def requestType : UInt16 := 16

/-- The type of an Ethernet device. -/
def ethernet : Nat := 1

/-- The flag of an interface that is up. -/
def up : Nat := 1

/-- The payload that brings an interface up: no address family, an Ethernet device, and the one
flag as new value and as change. -/
def bringUp (index : UInt32) : Bytes :=
  [0, 0] ++ LittleEndian.encode 2 ethernet ++ LittleEndian.encode 4 index.toNat
    ++ LittleEndian.encode 4 up ++ LittleEndian.encode 4 up

/-- Passes over a payload. -/
def read? : ContentReader Unit := fun bytes =>
  if headerLength ≤ bytes.length then
    (Record.readAll? (bytes.drop headerLength)).map fun _ => ()
  else none

end LinkInfo

end NeighborAwareness
