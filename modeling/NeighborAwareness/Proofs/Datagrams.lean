import NeighborAwareness.Netlink.Mailbox

/-!
# Datagrams in a mailbox

A mailbox hands the messages of a datagram out one at a time. What is left of the datagram is an
invariant of receiving: a message that reads is taken from its front, and the next datagram is read
only when nothing is left. A message that does not decode stays at the front for good.

## Main definitions

* `Mailbox.Holds` : what is left of the datagram that is being handed out.
* `Mailbox.Stuck` : the next message does not decode.

## Main results

* `Mailbox.Holds.receive_of_read` : a message that reads is handed out, and the rest stays.
* `Mailbox.refill_of_data` : a datagram is read when nothing is left of the last one.
* `Mailbox.Stuck.receive` : a stuck mailbox gives the same failure for ever.
* `Mailbox.stuck_of_receive` : who receives a message that does not decode leaves a stuck mailbox.
-/

namespace NeighborAwareness

/-! ### The length of a message -/

namespace Message

variable {α : Type} {content : ContentReader α} {octets : Bytes} {m : Message α}

/-- A message that reads is as long as its first four octets say. -/
theorem decode_of_read? (h : read? content octets = some m) :
    LittleEndian.decode (octets.take 4) = octets.length := by
  have hlength := length_of_read? h
  unfold read? at h
  split at h
  · simp at h
  · rename_i header hheader
    split at h
    · obtain ⟨body, -, rfl⟩ := Option.map_eq_some_iff.1 h
      unfold MessageHeader.read? at hheader
      split at hheader
      · obtain rfl := Option.some.inj hheader
        exact hlength
      · simp at hheader
    · simp at h

theorem size_le_of_read? (h : read? content octets = some m) :
    MessageHeader.size ≤ octets.length := by
  unfold read? at h
  split at h
  · simp at h
  · rename_i header hheader
    unfold MessageHeader.read? at hheader
    split at hheader
    · assumption
    · simp at hheader

end Message

namespace Mailbox

variable {α : Type} {content : ContentReader α} {m after : Mailbox}

/-! ### Reading datagrams -/

/-- What is left of the datagram that is being handed out are the octets `pending`. -/
structure Holds (m : Mailbox) (pending : Bytes) : Prop where
  ahead : pending <+: m.ahead
  filled : m.filled = m.position + pending.length
  room : pending ≠ [] → m.filled ≤ capacity

theorem holds_nil (h : m.position = m.filled) : m.Holds [] :=
  ⟨List.nil_prefix, by rw [List.length_nil, h, Nat.add_zero], fun hne => absurd rfl hne⟩

theorem refill_of_unread (h : m.position ≠ m.filled) : m.refill (α := α) = (.ok (), m) :=
  if_neg h

/-- When nothing is left, the next datagram is read. -/
theorem refill_of_data {octets : Bytes} {more : List Reading} (hrest : m.position = m.filled)
    (hreads : m.socket.script.reads = .data octets :: more) (hne : octets ≠ [])
    (hroom : octets.length ≤ capacity) :
    ∃ after, m.refill (α := α) = (.ok (), after) ∧ after.Holds octets
      ∧ after.socket.script.reads = more := by
  have htake : octets.take capacity = octets := List.take_of_length_le hroom
  have hfull : octets.isEmpty = false := by simpa using hne
  refine ⟨{ m with
    socket := { m.socket with script := { m.socket.script with reads := more } }
    buffer := Bytes.overlay octets m.buffer
    position := 0
    filled := octets.length }, ?_, ⟨?_, ?_, fun _ => hroom⟩, rfl⟩
  · simp only [refill, if_pos hrest, Socket.receive, hreads, List.headD_cons, List.tail_cons, htake,
      hfull, Bool.false_eq_true, if_false]
  · exact ⟨m.buffer.drop octets.length, rfl⟩
  · exact (Nat.zero_add _).symm

theorem unread_of_refill (h : m.refill (α := α) = (.ok (), after)) :
    after.position ≠ after.filled := by
  unfold refill at h
  split at h
  · dsimp only at h
    split at h
    · split at h <;> simp at h
    · split at h
      · simp at h
      · rename_i octets hreading hempty
        simp only [Prod.mk.injEq, true_and] at h
        subst h
        intro hzero
        exact hempty (List.isEmpty_iff.2 (List.eq_nil_of_length_eq_zero hzero.symm))
  · rename_i hunread
    simp only [Prod.mk.injEq, true_and] at h
    exact h ▸ hunread

theorem receive_of_refill (h : m.refill (α := α) = (.ok (), after)) :
    m.receive content = after.receive content := by
  rw [receive, receive, h, refill_of_unread (unread_of_refill h)]

/-- With nothing left and nothing to read, nothing is received, and nothing changes. -/
theorem receive_of_reads_eq_nil (hrest : m.position = m.filled)
    (hreads : m.socket.script.reads = []) : m.receive content = (.nothing, m) := by
  have hsocket : (m.socket.receive Errno.wouldBlock) = (.failed Errno.wouldBlock, m.socket) := by
    rw [Socket.receive, hreads]
    exact congrArg _ (by rw [List.tail_nil, ← hreads])
  rw [receive, refill, if_pos hrest, hsocket]
  rfl

/-! ### Messages that read -/

/-- A mailbox after the next `size` octets. -/
def pass (m : Mailbox) (size : Nat) : Mailbox :=
  { m with position := m.position + size }

/-- Handing a message out gives the message, unless it is an acknowledgement that nobody expects.
Nothing moves, and nothing is read. -/
theorem handOut_cases (m : Mailbox) (message : Message α) :
    ∃ received after, m.handOut message = (received, after)
      ∧ (received = .message message
        ∨ message.body = .acknowledged ∧ received = .broken (.of .unexpectedAck))
      ∧ after.socket = m.socket ∧ ∀ pending, m.Holds pending → after.Holds pending := by
  unfold handOut
  split
  · rename_i hbody
    split
    · exact ⟨_, _, rfl, .inl rfl, rfl, fun pending h => ⟨h.ahead, h.filled, h.room⟩⟩
    · exact ⟨_, _, rfl, .inr ⟨hbody, rfl⟩, rfl, fun pending h => h⟩
  · exact ⟨_, _, rfl, .inl rfl, rfl, fun pending h => h⟩

namespace Holds

variable {pending chunk rest : Bytes}

theorem unread (h : m.Holds pending) (hne : pending ≠ []) : m.position ≠ m.filled := by
  have hlength : 0 < pending.length := List.length_pos_iff.2 hne
  have hfilled := h.filled
  omega

/-- The next message is as long as its first octets say, and lies in the buffer. -/
theorem nextSize_of_decode (h : m.Holds (chunk ++ rest))
    (hdecode : LittleEndian.decode (chunk.take 4) = chunk.length) (hlength : 4 ≤ chunk.length) :
    m.nextSize = chunk.length ∧ m.ahead.take m.nextSize = chunk := by
  obtain ⟨behind, hahead⟩ := h.ahead
  have hsize : m.nextSize = chunk.length := by
    rw [nextSize, ← hahead, List.append_assoc, List.take_append_of_le_length hlength, hdecode]
  refine ⟨hsize, ?_⟩
  rw [hsize, ← hahead, List.append_assoc, List.take_left]

/-- What follows the first part of a datagram stays when that is passed. -/
theorem pass (h : m.Holds (chunk ++ rest)) : (m.pass chunk.length).Holds rest := by
  obtain ⟨behind, hahead⟩ := h.ahead
  have hfilled := h.filled
  rw [List.length_append] at hfilled
  refine ⟨⟨behind, ?_⟩, ?_, fun hne => h.room ?_⟩
  · rw [Mailbox.ahead, Mailbox.pass, ← List.drop_drop]
    change rest ++ behind = m.ahead.drop chunk.length
    rw [← hahead, List.append_assoc, List.drop_left]
  · change m.filled = m.position + chunk.length + rest.length
    omega
  · exact fun hnil => hne (List.append_eq_nil_iff.1 hnil).2

/-- A message that reads is handed out, and what follows it in the datagram stays. -/
theorem receive_of_read {message : Message α} (h : m.Holds (chunk ++ rest))
    (hread : Message.read? content chunk = some message) :
    ∃ received after, m.receive content = (received, after)
      ∧ (received = .message message
        ∨ message.body = .acknowledged ∧ received = .broken (.of .unexpectedAck))
      ∧ after.socket = m.socket ∧ after.Holds rest := by
  have hsize : 16 ≤ chunk.length := Message.size_le_of_read? hread
  have hne : chunk ++ rest ≠ [] := by
    intro hnil
    rw [(List.append_eq_nil_iff.1 hnil).1] at hsize
    contradiction
  obtain ⟨hnext, hchunk⟩ := h.nextSize_of_decode (Message.decode_of_read? hread) (by omega)
  have hfilled := h.filled
  have hroom := h.room hne
  rw [List.length_append] at hfilled
  obtain ⟨received, after, hout, hreceived, hsocket, hkeep⟩ :=
    handOut_cases (m.pass chunk.length) message
  refine ⟨received, after, ?_, hreceived, hsocket, hkeep rest h.pass⟩
  rw [receive, refill_of_unread (h.unread hne)]
  change m.next content = (received, after)
  rw [next, if_neg (by omega), if_neg (by omega), hchunk, hread, hnext]
  exact hout

end Holds

/-! ### Messages that do not decode -/

/-- The next message lies in the buffer and does not decode. -/
structure Stuck (content : ContentReader α) (m : Mailbox) : Prop where
  unread : m.position ≠ m.filled
  room : m.position < capacity
  fits : m.position + m.nextSize ≤ capacity
  undecodable : Message.read? content (m.ahead.take m.nextSize) = none

/-- A stuck mailbox gives the same failure each time, and reads nothing. -/
theorem Stuck.receive (h : m.Stuck content) :
    m.receive content = (.broken (.of .undecodable), m) := by
  rw [Mailbox.receive, refill_of_unread h.unread]
  change m.next content = _
  rw [next, if_neg (Nat.not_le.2 h.room), if_neg (Nat.not_lt.2 h.fits), h.undecodable]

/-- A datagram that is one message which does not decode leaves a stuck mailbox. -/
theorem Holds.stuck {chunk : Bytes} (h : m.Holds chunk)
    (hdecode : LittleEndian.decode (chunk.take 4) = chunk.length) (hlength : 4 ≤ chunk.length)
    (hread : Message.read? content chunk = none) : m.Stuck content := by
  have hholds : m.Holds (chunk ++ []) := by rwa [List.append_nil]
  have hne : chunk ≠ [] := by
    rintro rfl
    contradiction
  obtain ⟨hsize, hchunk⟩ := hholds.nextSize_of_decode hdecode hlength
  have hfilled := h.filled
  have hroom := h.room hne
  exact ⟨h.unread hne, by omega, by omega, by rwa [hchunk]⟩

/-- Who receives a message that does not decode leaves a stuck mailbox. -/
theorem stuck_of_receive (h : m.receive content = (.broken (.of .undecodable), after)) :
    after.Stuck content := by
  unfold Mailbox.receive at h
  split at h
  · rename_i received middle hrefill
    simp only [Prod.mk.injEq] at h
    obtain ⟨rfl, rfl⟩ := h
    unfold refill at hrefill
    split at hrefill
    · dsimp only at hrefill
      split at hrefill <;> split at hrefill <;> simp [Failure.of] at hrefill
    · simp at hrefill
  · rename_i middle hrefill
    have hunread := unread_of_refill hrefill
    unfold next at h
    split at h
    · simp at h
    · rename_i hroom
      split at h
      · simp [Failure.of] at h
      · rename_i hfits
        split at h
        · rename_i hread
          obtain rfl := congrArg Prod.snd h
          exact ⟨hunread, Nat.lt_of_not_le hroom, Nat.le_of_not_lt hfits, hread⟩
        · rename_i message hread
          obtain ⟨received, out, hout, hreceived, -⟩ := handOut_cases
            { middle with position := middle.position + middle.nextSize } message
          rw [hout] at h
          obtain ⟨rfl, -⟩ := Prod.mk.inj h
          rcases hreceived with hreceived | ⟨-, hreceived⟩
          · cases hreceived
          · cases hreceived

end Mailbox

end NeighborAwareness
