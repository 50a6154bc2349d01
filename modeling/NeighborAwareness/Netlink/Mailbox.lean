import NeighborAwareness.Host.Basic
import NeighborAwareness.Netlink.Message

/-!
# Mailboxes

A mailbox is a netlink socket with a buffer. One read fills the buffer with a datagram, and the
messages in it are handed out one at a time; the next read happens when they are used up. Octets
that earlier datagrams left further back in the buffer stay there.

A message is taken by its length field alone, without padding, so only lengths that are multiples of
four decode. A message that does not decode is not passed over: whoever receives next meets it
again. One that claims more than its datagram takes octets from further back, and after one that
reaches the end of the buffer there is nothing to receive any more.

## Main definitions

* `Mailbox` : socket, buffer and position.
* `Mailbox.connect` : opens one.
* `Mailbox.send` : sends a message.
* `Mailbox.receive` : the next message.

## Main results

* `Mailbox.backlog_receive` : a message received leaves less to receive.

## Assumptions

Sockets are those of the `neli` library, version 0.6.5. The following is assumed of it.

* The buffer has 32768 octets and is never cleared. A read that gives nothing, or would block, is
  reported as nothing to receive, and any other error with its number.
* A message is cut off by its length field, without a look at how much the datagram has left. If it
  does not decode, or goes beyond the buffer, the position stays where it is.
* Type 2 is an error, which holds a number and the header that it answers, and type 3 ends a dump.
  The number zero makes it an acknowledgement, which is consumed, but only accepted if a request
  that asked for one was sent since the last one.
* Attributes inside a message have to be there with their padding.
-/

namespace NeighborAwareness

/-- A netlink socket with the datagram that is being handed out. -/
structure Mailbox where
  socket : Socket
  buffer : Bytes
  /-- Where the next message begins. -/
  position : Nat
  /-- How many octets the datagram has. -/
  filled : Nat
  /-- A request was sent whose acknowledgement has not come. -/
  expectsAck : Bool
  deriving DecidableEq, Repr

/-- What receiving gives. -/
inductive Received (α : Type) where
  | message (m : Message α)
  /-- There is nothing to receive. -/
  | nothing
  | broken (failure : Failure)
  deriving DecidableEq, Repr

namespace Mailbox

/-- Octets of the buffer; longer datagrams are cut. -/
def capacity : Nat := 32768

/-- The mailbox of a socket that was just opened. -/
def ofSocket (socket : Socket) : Mailbox :=
  ⟨socket, List.replicate capacity 0, 0, 0, false⟩

/-- Opens a socket for one of the netlink protocols. -/
def connect (h : Host) (protocol : Nat) : Except Failure Mailbox × Host :=
  match h.openSocket SystemCall.netlinkFamily SystemCall.rawType protocol with
  | (.error failure, h) => (.error failure, h)
  | (.ok socket, h) =>
    match h.bind socket (.netlink 0 0) with
    | (.error failure, h) => (.error failure, h)
    | (.ok (), h) => (.ok (ofSocket socket), h)

/-- Joins a group. -/
def join (h : Host) (m : Mailbox) (group : UInt32) : Except Failure Unit × Mailbox × Host :=
  let (result, socket, h) := h.setOption m.socket (.join m.socket.number group)
  (result, { m with socket }, h)

/-- Sends a message. Whether an acknowledgement is expected is settled before it goes out. -/
def send (h : Host) (m : Mailbox) (acknowledged : Bool) (message : Bytes) :
    Except Failure Unit × Mailbox × Host :=
  let (result, socket, h) := h.send m.socket message
  (result, { m with socket, expectsAck := m.expectsAck || acknowledged }, h)

/-! ### Receiving -/

/-- The octets from the next message on. -/
def ahead (m : Mailbox) : Bytes :=
  m.buffer.drop m.position

/-- Reads a datagram if the last one is used up. The failure is what receiving gives instead of a
message. -/
def refill {α : Type} (m : Mailbox) : Except (Received α) Unit × Mailbox :=
  if m.position = m.filled then
    let (reading, socket) := m.socket.receive Errno.wouldBlock
    let read := { m with socket }
    match reading with
    | .failed number =>
      if number = Errno.wouldBlock then (.error .nothing, read)
      else (.error (.broken (.of (.system number))), read)
    | .data octets =>
      let octets := octets.take capacity
      if octets.isEmpty then (.error .nothing, read)
      else
        (.ok (), { read with
          buffer := Bytes.overlay octets m.buffer
          position := 0
          filled := octets.length })
  else (.ok (), m)

/-- Octets that the next message takes, by its length field. -/
def nextSize (m : Mailbox) : Nat :=
  LittleEndian.decode (m.ahead.take 4)

/-- Hands a message out. An acknowledgement that nobody expects is a failure. -/
def handOut {α : Type} (m : Mailbox) (message : Message α) : Received α × Mailbox :=
  match message.body with
  | .acknowledged =>
    if m.expectsAck then (.message message, { m with expectsAck := false })
    else (.broken (.of .unexpectedAck), m)
  | _ => (.message message, m)

/-- The next message in the buffer, nothing at its end. -/
def next {α : Type} (content : ContentReader α) (m : Mailbox) : Received α × Mailbox :=
  if capacity ≤ m.position then (.nothing, m)
  else if capacity < m.position + m.nextSize then (.broken (.of .incompletePacket), m)
  else
    match Message.read? content (m.ahead.take m.nextSize) with
    | none => (.broken (.of .undecodable), m)
    | some message => { m with position := m.position + m.nextSize }.handOut message

/-- The next message. -/
def receive {α : Type} (content : ContentReader α) (m : Mailbox) : Received α × Mailbox :=
  match m.refill with
  | (.error received, m) => (received, m)
  | (.ok (), m) => m.next content

/-! ### Progress -/

/-- How much there may be to receive: the reads that are left, then the octets of the buffer. -/
def backlog (m : Mailbox) : Nat :=
  m.socket.script.reads.length * (capacity + 1) + (capacity - m.position)

theorem backlog_refill {α : Type} {m after : Mailbox}
    (h : m.refill (α := α) = (.ok (), after)) : after.backlog ≤ m.backlog := by
  unfold refill at h
  split at h
  · rcases hreads : m.socket.script.reads with _ | ⟨reading, rest⟩
    · simp [Socket.receive, hreads] at h
    · simp only [Socket.receive, hreads, List.headD_cons, List.tail_cons] at h
      cases reading with
      | failed number =>
        dsimp only at h
        split at h <;> simp at h
      | data octets =>
        dsimp only at h
        split at h
        · simp at h
        · simp only [Prod.mk.injEq, true_and] at h
          rw [← h]
          simp only [backlog, hreads, List.length_cons]
          have : (rest.length + 1) * (capacity + 1)
              = rest.length * (capacity + 1) + (capacity + 1) := by
            rw [Nat.add_mul, Nat.one_mul]
          omega
  · simp only [Prod.mk.injEq, true_and] at h
    exact h ▸ Nat.le_refl _

theorem backlog_handOut {α : Type} (m : Mailbox) (message : Message α) :
    (m.handOut message).2.backlog = m.backlog := by
  unfold handOut
  split
  · split <;> rfl
  · rfl

/-- A message received leaves less to receive. -/
theorem backlog_receive {α : Type} {content : ContentReader α} {m after : Mailbox}
    {message : Message α} (h : m.receive content = (.message message, after)) :
    after.backlog < m.backlog := by
  unfold receive at h
  split at h
  · rename_i received middle hrefill
    simp only [Prod.mk.injEq] at h
    obtain ⟨rfl, rfl⟩ := h
    unfold refill at hrefill
    split at hrefill
    · dsimp only at hrefill
      split at hrefill <;> split at hrefill <;> simp at hrefill
    · simp at hrefill
  · rename_i middle hrefill
    have hle := backlog_refill hrefill
    unfold next at h
    split at h
    · simp at h
    · split at h
      · simp at h
      · rename_i hroom
        split at h
        · simp at h
        · rename_i found hread
          have hnext : 0 < middle.nextSize := by
            rcases Nat.eq_zero_or_pos middle.nextSize with h0 | h0
            · simp [h0, Message.read?, MessageHeader.read?, MessageHeader.size] at hread
            · exact h0
          have hmoved :=
            backlog_handOut { middle with position := middle.position + middle.nextSize } found
          rw [h] at hmoved
          simp only [backlog] at hmoved hle ⊢
          omega

end Mailbox

end NeighborAwareness
