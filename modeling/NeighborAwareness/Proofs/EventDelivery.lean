import NeighborAwareness.Proofs.Undecodable

/-!
# What the event loop hands on

The event loop looks whether it is to go on, waits, and receives one message if the socket is
readable. Nothing else ends it than the flag, a wait that fails and a hang-up, and nothing else is
handed on than the events in the messages that it receives, in the order in which they arrive, up to
the first message that does not decode.

That holds as long as each datagram fits the buffer and none of its messages claims more octets than
the datagram has left. The mailbox compares neither: it completes such a message from the octets of
earlier datagrams, and goes on receiving behind it what these left in the buffer.

## Main definitions

* `Connection.messagesIn`, `Connection.IsIntact` : the messages of a datagram, and whether each is
  all there.
* `Connection.arriving`, `Connection.toReceive` : what arrives, message by message and receipt by
  receipt.
* `Connection.Awaits` : the invariant of receiving.

## Main results

* `Connection.attend_schedule` : the event loop that runs is the one turn by turn.
* `Connection.attend_eq` : what ends the loop, and how often it receives.
* `Connection.Awaits.receiveEvent` : what one receipt does.
* `Connection.Awaits.receiveEvents_eq` : what some receipts hand on.
* `Connection.events_in_order` : what the loop hands on, and what ends it.
-/

namespace NeighborAwareness

namespace Connection

/-! ### Turns of the loop -/

/-- The loop that hands events on until it is stopped is the one turn by turn. -/
theorem attend_schedule (c : Connection) (h : Host) (polls : List Poll) :
    c.attend h (schedule polls) = (.ofEnd (c.listen h polls).1, (c.listen h polls).2) := by
  induction polls generalizing c h with
  | nil => rfl
  | cons poll polls ih =>
    rw [schedule, List.map_cons, List.cons_append, ← schedule]
    cases poll with
    | idle => exact ih c _
    | failed number =>
      simp only [attend, listen, if_true]
      split
      · exact ih c _
      · rfl
    | ready reported =>
      simp only [attend, listen, if_true]
      split
      · rfl
      · rw [ih]

namespace Turn

/-- How a turn leaves the loop, if it ends it. -/
def ending? (turn : Turn) : Option Standing :=
  if turn.running then
    match turn.poll with
    | .idle => none
    | .failed number =>
      if number = Errno.interrupted then none else some (.failed (.of (.system number)))
    | .ready reported =>
      if SystemCall.isHangUp reported then some (.failed (.of .eventSocketHungUp)) else none
  else some .stopped

/-- Whether the wait reports the socket. -/
def isReady (turn : Turn) : Bool :=
  match turn.poll with
  | .ready _ => true
  | _ => false

/-- How many messages the loop receives: one for each wait that reports the socket, up to the turn
that ends the loop. -/
def receipts (turns : List Turn) : Nat :=
  (turns.takeWhile fun turn => turn.ending?.isNone).countP isReady

end Turn

/-- The first turn that ends the loop says how, and up to it the loop hands on what its receipts
give. -/
theorem attend_eq (c : Connection) (h : Host) (turns : List Turn) :
    (c.attend h turns).1 = (turns.findSome? Turn.ending?).getD .waiting
      ∧ (c.attend h turns).2.1 = c.receiveEvents (Turn.receipts turns) := by
  induction turns generalizing c h with
  | nil => exact ⟨rfl, rfl⟩
  | cons turn turns ih =>
    obtain ⟨running, poll⟩ := turn
    rw [List.findSome?_cons, Turn.receipts, List.takeWhile_cons]
    cases running with
    | false => exact ⟨rfl, rfl⟩
    | true =>
      cases poll with
      | idle => exact ih c _
      | failed number =>
        by_cases hnumber : number = Errno.interrupted
        · simp only [attend, Turn.ending?, hnumber, if_true]
          exact ih c _
        · simp only [attend, Turn.ending?, if_neg hnumber, if_true]
          exact ⟨rfl, rfl⟩
      | ready reported =>
        cases hhangUp : SystemCall.isHangUp reported with
        | true =>
          simp only [attend, Turn.ending?, hhangUp, if_true]
          exact ⟨rfl, rfl⟩
        | false =>
          obtain ⟨hstanding, hevents⟩ := ih c.receiveEvent.2.2
            ((h.asked (.poll c.events.socket.number SystemCall.readable c.wait)).noted
              c.receiveEvent.2.1)
          simp only [attend, Turn.ending?, hhangUp, if_true, Bool.false_eq_true, if_false]
          refine ⟨hstanding, ?_⟩
          rw [hevents, Option.isNone_none, if_pos rfl, List.countP_cons_of_pos rfl, receiveEvents]
          rfl

/-- What ends the loop: it is told not to go on, or a wait fails that was not interrupted, or the
socket hangs up. -/
theorem Turn.ending?_eq_some {turn : Turn} {standing : Standing}
    (h : turn.ending? = some standing) :
    turn.running = false ∧ standing = .stopped
    ∨ turn.running = true
      ∧ ((∃ number, turn.poll = .failed number ∧ number ≠ Errno.interrupted
          ∧ standing = .failed (.of (.system number)))
        ∨ ∃ reported, turn.poll = .ready reported ∧ SystemCall.isHangUp reported = true
          ∧ standing = .failed (.of .eventSocketHungUp)) := by
  obtain ⟨running, poll⟩ := turn
  cases running with
  | false => exact .inl ⟨rfl, (Option.some.inj h).symm⟩
  | true =>
    cases poll with
    | idle => cases h
    | failed number =>
      simp only [ending?, if_true] at h
      split at h
      · cases h
      · rename_i hnumber
        exact .inr ⟨rfl, .inl ⟨number, rfl, hnumber, (Option.some.inj h).symm⟩⟩
    | ready reported =>
      simp only [ending?, if_true] at h
      split at h
      · rename_i hhangUp
        exact .inr ⟨rfl, .inr ⟨reported, rfl, hhangUp, (Option.some.inj h).symm⟩⟩
      · cases h

/-- Turns in which the wait gives nothing, or is interrupted, make no difference. -/
theorem attend_eq_of_passed (c : Connection) (h : Host) (front back : List Turn) {poll : Poll}
    (hpassed : poll = .idle ∨ poll = .failed Errno.interrupted) :
    (c.attend h (front ++ ⟨true, poll⟩ :: back)).1 = (c.attend h (front ++ back)).1
      ∧ (c.attend h (front ++ ⟨true, poll⟩ :: back)).2.1
        = (c.attend h (front ++ back)).2.1 := by
  have hending : (⟨true, poll⟩ : Turn).ending? = none := by
    rcases hpassed with rfl | rfl
    · rfl
    · rfl
  have hready : (⟨true, poll⟩ : Turn).isReady = false := by
    rcases hpassed with rfl | rfl
    · rfl
    · rfl
  have hreceipts :
      Turn.receipts (front ++ ⟨true, poll⟩ :: back) = Turn.receipts (front ++ back) := by
    induction front with
    | nil =>
      rw [List.nil_append, List.nil_append, Turn.receipts,
        List.takeWhile_cons_of_pos (by rw [hending]; rfl),
        List.countP_cons_of_neg (by rw [hready]; exact Bool.false_ne_true), Turn.receipts]
    | cons turn front ih =>
      simp only [Turn.receipts, List.cons_append, List.takeWhile_cons] at ih ⊢
      split
      · rw [List.countP_cons, List.countP_cons, ih]
      · rfl
  obtain ⟨hstanding, hevents⟩ := c.attend_eq h (front ++ ⟨true, poll⟩ :: back)
  obtain ⟨hstanding', hevents'⟩ := c.attend_eq h (front ++ back)
  rw [hstanding, hstanding', hevents, hevents', hreceipts, List.findSome?_append,
    List.findSome?_append, List.findSome?_cons, hending]
  exact ⟨rfl, rfl⟩

/-! ### Messages of a datagram -/

/-- The messages of a datagram, cut by their length fields. The last one is all that is left where
nothing more can be cut off. -/
def messagesIn (octets : Bytes) : List Bytes :=
  let size := LittleEndian.decode (octets.take 4)
  if MessageHeader.size ≤ size ∧ size ≤ octets.length then
    octets.take size :: messagesIn (octets.drop size)
  else if octets = [] then []
  else [octets]
termination_by octets.length
decreasing_by
  rename_i h
  have hsize : 16 ≤ LittleEndian.decode (octets.take 4) := h.1
  rw [List.length_drop]
  omega

@[simp]
theorem messagesIn_nil : messagesIn [] = [] := by
  rw [messagesIn]
  rfl

theorem flatten_messagesIn (octets : Bytes) : (messagesIn octets).flatten = octets := by
  fun_induction messagesIn octets with
  | case1 octets size hsize ih => rw [List.flatten_cons, ih, List.take_append_drop]
  | case2 size hsize => rfl
  | case3 octets size hsize hne => rw [List.flatten_singleton]

/-- A datagram is empty, or a message is its first, or nothing can be cut off. -/
theorem messagesIn_cases (octets : Bytes) :
    octets = []
    ∨ (∃ first rest, octets = first ++ rest ∧ messagesIn octets = first :: messagesIn rest
        ∧ LittleEndian.decode (first.take 4) = first.length ∧ MessageHeader.size ≤ first.length)
    ∨ messagesIn octets = [octets]
      ∧ ¬(MessageHeader.size ≤ LittleEndian.decode (octets.take 4)
        ∧ LittleEndian.decode (octets.take 4) ≤ octets.length) := by
  by_cases hsize : MessageHeader.size ≤ LittleEndian.decode (octets.take 4)
      ∧ LittleEndian.decode (octets.take 4) ≤ octets.length
  · refine .inr (.inl ⟨octets.take (LittleEndian.decode (octets.take 4)),
      octets.drop (LittleEndian.decode (octets.take 4)), (List.take_append_drop ..).symm, ?_, ?_,
      ?_⟩)
    · rw [messagesIn, if_pos hsize]
    · have hfour : 4 ≤ LittleEndian.decode (octets.take 4) := Nat.le_trans (by decide) hsize.1
      rw [List.take_take, Nat.min_eq_left hfour, List.length_take, Nat.min_eq_left hsize.2]
    · rw [List.length_take, Nat.min_eq_left hsize.2]
      exact hsize.1
  · by_cases hempty : octets = []
    · exact .inl hempty
    · refine .inr (.inr ⟨?_, hsize⟩)
      rw [messagesIn, if_neg hsize, if_neg hempty]

/-- A datagram that fits the buffer, and of whose messages each says how long it is and claims no
more than the datagram has left for it. -/
structure IsIntact (octets : Bytes) : Prop where
  room : octets.length ≤ Mailbox.capacity
  within : ∀ m ∈ messagesIn octets, 4 ≤ m.length ∧ LittleEndian.decode (m.take 4) ≤ m.length

instance (octets : Bytes) : Decidable (IsIntact octets) :=
  decidable_of_iff (octets.length ≤ Mailbox.capacity
      ∧ ∀ m ∈ messagesIn octets, 4 ≤ m.length ∧ LittleEndian.decode (m.take 4) ≤ m.length)
    ⟨fun ⟨room, within⟩ => ⟨room, within⟩, fun ⟨room, within⟩ => ⟨room, within⟩⟩

theorem isIntact_nil : IsIntact [] :=
  ⟨Nat.zero_le _, fun _ hm => absurd (messagesIn_nil ▸ hm) List.not_mem_nil⟩

theorem IsIntact.of_append {first rest : Bytes} (h : IsIntact (first ++ rest))
    (hcut : messagesIn (first ++ rest) = first :: messagesIn rest) : IsIntact rest := by
  have hroom := h.room
  rw [List.length_append] at hroom
  exact ⟨by omega, fun m hm => h.within m (hcut ▸ List.mem_cons_of_mem _ hm)⟩

/-! ### What arrives -/

/-- What one receipt gives: a message, or nothing. -/
abbrev Receipt := Option Bytes

namespace Receipt

/-- Whether receiving goes on behind it. -/
def isReadable : Receipt → Bool
  | none => true
  | some octets => decodes octets

/-- The events that it hands on. -/
def events : Receipt → List Event
  | none => []
  | some octets => eventsIn octets

end Receipt

/-- The messages that a read gives. -/
def messagesOf : Reading → List Bytes
  | .data octets => messagesIn octets
  | .failed _ => []

/-- What receiving makes of a read: one receipt for each message, or one that gives nothing. -/
def receiptsOf (reading : Reading) : List Receipt :=
  if messagesOf reading = [] then [none] else (messagesOf reading).map some

/-- The messages to receive, `pending` being left of the last datagram. -/
def arriving (c : Connection) (pending : Bytes) : List Bytes :=
  messagesIn pending ++ c.events.socket.script.reads.flatMap messagesOf

/-- What there is to receive, receipt by receipt. -/
def toReceive (c : Connection) (pending : Bytes) : List Receipt :=
  (messagesIn pending).map some ++ c.events.socket.script.reads.flatMap receiptsOf

theorem events_toReceive (c : Connection) (pending : Bytes) :
    (c.toReceive pending).flatMap Receipt.events = (c.arriving pending).flatMap eventsIn := by
  have hreading : ∀ reading,
      (receiptsOf reading).flatMap Receipt.events = (messagesOf reading).flatMap eventsIn := by
    intro reading
    rw [receiptsOf]
    split
    · rename_i hnone
      rw [hnone]
      rfl
    · exact List.flatMap_map ..
  rw [toReceive, arriving, List.flatMap_append, List.flatMap_append, List.flatMap_assoc,
    List.flatMap_assoc]
  simp only [hreading]
  exact congrArg (· ++ _) (List.flatMap_map ..)

/-! ### One receipt -/

/-- The invariant of receiving: `pending` is left of the datagram that is being handed out, and it
is intact, as is everything that is still to be read. -/
structure Awaits (c : Connection) (pending : Bytes) : Prop where
  holds : c.events.Holds pending
  pending : IsIntact pending
  reads : ∀ octets, Reading.data octets ∈ c.events.socket.script.reads → IsIntact octets

end Connection

namespace Mailbox

variable {α : Type} {content : ContentReader α} {m : Mailbox} {pending : Bytes}

/-- A mailbox is stuck if the next message does not decode and claims no more than what is left of
the datagram. -/
theorem Holds.stuck_of_within (h : m.Holds pending) (hheader : 4 ≤ pending.length)
    (hsize : LittleEndian.decode (pending.take 4) ≤ pending.length)
    (hread : Message.read? content (pending.take (LittleEndian.decode (pending.take 4))) = none) :
    m.Stuck content := by
  obtain ⟨behind, hahead⟩ := h.ahead
  have hne : pending ≠ [] := by
    rintro rfl
    contradiction
  have hnext : m.nextSize = LittleEndian.decode (pending.take 4) := by
    rw [nextSize, ← hahead, List.take_append_of_le_length hheader]
  have hfilled := h.filled
  have hroom := h.room hne
  refine ⟨h.unread hne, by omega, by omega, ?_⟩
  rw [hnext, ← hahead, List.take_append_of_le_length hsize, hread]

end Mailbox

namespace Connection

variable {c : Connection} {pending : Bytes}

/-- While something is left of an intact datagram, its first message is received. If it decodes, the
rest stays, else the mailbox is stuck. -/
theorem receiveEvent_of_pending (h : c.Awaits pending) (hne : pending ≠ []) :
    ∃ first rest, messagesIn pending = first :: messagesIn rest
      ∧ (decodes first = true
          ∧ (∃ notes events, c.receiveEvent = (eventsIn first, notes, { c with events })
            ∧ ({ c with events } : Connection).Awaits rest
            ∧ events.socket = c.events.socket)
        ∨ decodes first = false ∧ c.events.Stuck GenericMessage.read?) := by
  rcases messagesIn_cases pending with
    hempty | ⟨first, rest, rfl, hcut, hdecode, hsize⟩ | ⟨hcut, hsize⟩
  · exact absurd hempty hne
  · refine ⟨first, rest, hcut, ?_⟩
    cases hdecodes : decodes first with
    | true =>
      obtain ⟨notes, events, hreceive, hrest, hsocket⟩ := receiveEvent_of_read h.holds hdecodes
      refine .inl ⟨rfl, notes, events, hreceive, ⟨hrest, h.pending.of_append hcut, ?_⟩, hsocket⟩
      intro octets hoctets
      exact h.reads octets (hsocket ▸ hoctets)
    | false =>
      have hlength : 4 ≤ first.length := Nat.le_trans (by decide) hsize
      have htake : LittleEndian.decode ((first ++ rest).take 4) = first.length := by
        rw [List.take_append_of_le_length hlength, hdecode]
      have hread : Message.read? GenericMessage.read? first = none := by
        rw [decodes, Option.isSome_eq_false_iff, Option.isNone_iff_eq_none] at hdecodes
        exact hdecodes
      refine .inr ⟨rfl, h.holds.stuck_of_within ?_ ?_ ?_⟩
      · rw [List.length_append]
        omega
      · rw [htake, List.length_append]
        omega
      · rw [htake, List.take_left, hread]
  · -- Nothing can be cut off, so the next message is too short for a header.
    obtain ⟨hheader, hwithin⟩ := h.pending.within pending (hcut ▸ List.mem_cons_self)
    refine ⟨pending, [], by rw [hcut, messagesIn_nil], .inr ⟨?_, ?_⟩⟩
    · cases hread : Message.read? GenericMessage.read? pending with
      | none => rw [decodes, hread]; rfl
      | some message =>
        refine absurd ⟨?_, hwithin⟩ hsize
        rw [Message.decode_of_read? hread]
        exact Message.size_le_of_read? hread
    · refine h.holds.stuck_of_within hheader hwithin ?_
      cases hread : Message.read? GenericMessage.read?
          (pending.take (LittleEndian.decode (pending.take 4))) with
      | none => rfl
      | some message =>
        refine absurd ⟨?_, hwithin⟩ hsize
        have hlong := Message.size_le_of_read? hread
        rwa [List.length_take, Nat.min_eq_left hwithin] at hlong

/-- A read that gives no message is used up, and hands nothing on. -/
theorem receiveEvent_of_nothing {reading : Reading} {more : List Reading}
    (hrest : c.events.position = c.events.filled)
    (hreads : c.events.socket.script.reads = reading :: more) (hnone : messagesOf reading = []) :
    ∃ notes events, c.receiveEvent = ([], notes, { c with events })
      ∧ events.position = events.filled ∧ events.socket.script.reads = more := by
  let used := { c.events with socket := (c.events.socket.receive Errno.wouldBlock).2 }
  have hmore : used.socket.script.reads = more := congrArg List.tail hreads
  cases reading with
  | failed number =>
    by_cases hnumber : number = Errno.wouldBlock
    · refine ⟨[], used, ?_, hrest, hmore⟩
      simp only [receiveEvent, Mailbox.receive, Mailbox.refill, if_pos hrest, Socket.receive,
        hreads, List.headD_cons, if_pos hnumber, used]
    · refine ⟨[.eventUndecodable], used, ?_, hrest, hmore⟩
      simp only [receiveEvent, Mailbox.receive, Mailbox.refill, if_pos hrest, Socket.receive,
        hreads, List.headD_cons, if_neg hnumber, used]
  | data octets =>
    have hempty : octets = [] := by
      rw [← flatten_messagesIn octets, show messagesIn octets = [] from hnone]
      rfl
    refine ⟨[], used, ?_, hrest, hmore⟩
    simp only [receiveEvent, Mailbox.receive, Mailbox.refill, if_pos hrest, Socket.receive, hreads,
      List.headD_cons, hempty, List.take_nil, List.isEmpty_nil, if_true, used]

/-- Reading a datagram first makes no difference to what some receipts hand on. -/
theorem receiveEvents_of_refill {events : Mailbox}
    (h : c.events.refill (α := GenericMessage) = (.ok (), events)) (count : Nat) :
    c.receiveEvents count = ({ c with events } : Connection).receiveEvents count := by
  cases count with
  | zero => rfl
  | succ count => rw [receiveEvents, receiveEvents, receiveEvent_of_refill h]

theorem Awaits.receiveEvent_of_ne_nil (h : c.Awaits pending) (hne : pending ≠ []) :
    ∃ receipt later, c.toReceive pending = receipt :: later
      ∧ (receipt.isReadable = true ∧ c.receiveEvent.1 = receipt.events
          ∧ (∃ left, c.receiveEvent.2.2.Awaits left ∧ c.receiveEvent.2.2.toReceive left = later)
        ∨ receipt.isReadable = false ∧ ∀ count, c.receiveEvents count = []) := by
  obtain ⟨first, rest, hcut, hfirst⟩ := receiveEvent_of_pending h hne
  refine ⟨some first, (messagesIn rest).map some ++ c.events.socket.script.reads.flatMap receiptsOf,
    by rw [toReceive, hcut]; rfl, ?_⟩
  rcases hfirst with ⟨hdecodes, notes, events, hreceive, hawaits, hsocket⟩ | ⟨hdecodes, hstuck⟩
  · refine .inl ⟨hdecodes, by rw [hreceive]; rfl, rest, by rwa [hreceive], ?_⟩
    rw [hreceive]
    exact congrArg (fun socket => _ ++ socket.script.reads.flatMap receiptsOf) hsocket
  · exact .inr ⟨hdecodes, receiveEvents_of_stuck hstuck⟩

/-- One receipt: with nothing to receive, nothing happens. Else the first thing to receive is
received and the others stay, or it does not decode, and nothing is received any more. -/
theorem Awaits.receiveEvent (h : c.Awaits pending) :
    c.toReceive pending = [] ∧ c.receiveEvent = ([], [], c)
    ∨ ∃ receipt later, c.toReceive pending = receipt :: later
      ∧ (receipt.isReadable = true ∧ c.receiveEvent.1 = receipt.events
          ∧ (∃ left, c.receiveEvent.2.2.Awaits left ∧ c.receiveEvent.2.2.toReceive left = later)
        ∨ receipt.isReadable = false ∧ ∀ count, c.receiveEvents count = []) := by
  by_cases hne : pending = []
  · subst hne
    have hrest : c.events.position = c.events.filled := h.holds.filled.symm
    rcases hreads : c.events.socket.script.reads with _ | ⟨reading, more⟩
    · refine .inl ⟨?_, ?_⟩
      · rw [toReceive, messagesIn_nil, hreads]
        rfl
      · rw [Connection.receiveEvent, Mailbox.receive_of_reads_eq_nil hrest hreads]
    · have hlater : ∀ octets, Reading.data octets ∈ more → IsIntact octets :=
        fun octets ho => h.reads octets (hreads ▸ List.mem_cons_of_mem _ ho)
      have htoReceive : c.toReceive [] = receiptsOf reading ++ more.flatMap receiptsOf := by
        rw [toReceive, messagesIn_nil, hreads, List.map_nil, List.nil_append, List.flatMap_cons]
      by_cases hnone : messagesOf reading = []
      · obtain ⟨notes, events, hreceive, hused, hmore⟩ := receiveEvent_of_nothing hrest hreads hnone
        refine .inr ⟨none, more.flatMap receiptsOf, ?_, .inl ⟨rfl, ?_, [], ?_, ?_⟩⟩
        · rw [htoReceive, receiptsOf, if_pos hnone]
          rfl
        · rw [hreceive]
          rfl
        · rw [hreceive]
          exact ⟨Mailbox.holds_nil hused, isIntact_nil, fun octets ho => hlater octets (hmore ▸ ho)⟩
        · rw [hreceive, toReceive, messagesIn_nil]
          exact congrArg (List.flatMap receiptsOf) hmore
      · cases reading with
        | failed number => exact absurd rfl hnone
        | data octets =>
          have hoctets : octets ≠ [] := by
            rintro rfl
            exact hnone messagesIn_nil
          have hintact := h.reads octets (hreads ▸ List.mem_cons_self)
          obtain ⟨filled, hrefill, hholds, hmore⟩ :=
            Mailbox.refill_of_data (α := GenericMessage) hrest hreads hoctets hintact.room
          have hawaits : ({ c with events := filled } : Connection).Awaits octets :=
            ⟨hholds, hintact, fun other ho => hlater other (hmore ▸ ho)⟩
          have hsame :
              c.toReceive [] = ({ c with events := filled } : Connection).toReceive octets := by
            rw [htoReceive, receiptsOf, if_neg hnone, toReceive]
            exact congrArg (fun reads => _ ++ reads.flatMap receiptsOf) hmore.symm
          rw [hsame, receiveEvent_of_refill hrefill]
          simp only [receiveEvents_of_refill hrefill]
          exact .inr (hawaits.receiveEvent_of_ne_nil hoctets)
  · exact .inr (h.receiveEvent_of_ne_nil hne)

/-- What some receipts hand on: the events of what there is to receive, up to what does not
decode. -/
theorem Awaits.receiveEvents_eq (h : c.Awaits pending) (count : Nat) :
    c.receiveEvents count
      = (((c.toReceive pending).take count).takeWhile
          Receipt.isReadable).flatMap Receipt.events := by
  -- The induction is on the receipts; one keeps `Awaits`, with what there is to receive cut by one.
  induction count generalizing c pending with
  | zero => rw [List.take_zero]; rfl
  | succ count ih =>
    rcases h.receiveEvent with ⟨hnone, hreceive⟩
        | ⟨receipt, later, hahead, ⟨hreadable, hevents, left, hawaits, hlater⟩
          | ⟨hreadable, hstuck⟩⟩
    · rw [receiveEvents, hreceive, ih h, hnone, List.take_nil, List.take_nil]
      rfl
    · rw [receiveEvents, hevents, ih hawaits, hlater, hahead, List.take_succ_cons,
        List.takeWhile_cons_of_pos hreadable, List.flatMap_cons]
    · rw [hstuck, hahead, List.take_succ_cons,
        List.takeWhile_cons_of_neg (by rw [hreadable]; exact Bool.false_ne_true)]
      rfl

/-! ### Events in order -/

/-- Octets that are a message with contents have one event, with the command, the number and the
decoded attributes of the message. All other octets have none: those that are no message, and
acknowledgements, rejections and ends of dumps. -/
theorem eventsIn_eq (octets : Bytes) :
    (∃ header g, Message.read? GenericMessage.read? octets = some ⟨header, .content g⟩
      ∧ eventsIn octets
        = [⟨⟨g.command⟩, header.sequence, g.records.map Attribute.ofRecord⟩])
    ∨ eventsIn octets = []
      ∧ ∀ header g, Message.read? GenericMessage.read? octets ≠ some ⟨header, .content g⟩ := by
  rw [eventsIn]
  rcases Message.read? GenericMessage.read? octets with _ | ⟨header, body⟩
  · exact .inr ⟨rfl, fun header g hread => by cases hread⟩
  · cases body with
    | content g => exact .inl ⟨header, g, rfl, rfl⟩
    | acknowledged => exact .inr ⟨rfl, fun header g hread => by cases hread⟩
    | finished => exact .inr ⟨rfl, fun header g hread => by cases hread⟩
    | rejected code sequence => exact .inr ⟨rfl, fun header g hread => by cases hread⟩

/-- The event loop, while no message claims more octets than its datagram has left. It hands on the
events of the messages in the order in which they arrive, one message for each wait that reports the
socket, up to the first message that does not decode; so what it hands on is the beginning of all
events that arrive. Nothing in a message ends it: it stops when it is told to, and it fails when a
wait does that was not interrupted, or on a hang-up. The loop that runs is the one that is told to
stop behind its waits. -/
theorem events_in_order {c : Connection} {pending : Bytes} (h : Host) (turns : List Turn)
    (hawaits : c.Awaits pending) :
    (c.attend h turns).2.1
        = (((c.toReceive pending).take (Turn.receipts turns)).takeWhile
            Receipt.isReadable).flatMap Receipt.events
      ∧ (c.attend h turns).2.1 <+: (c.arriving pending).flatMap eventsIn
      ∧ (∀ octets,
        (∃ header g, Message.read? GenericMessage.read? octets = some ⟨header, .content g⟩
          ∧ eventsIn octets
            = [⟨⟨g.command⟩, header.sequence, g.records.map Attribute.ofRecord⟩])
        ∨ eventsIn octets = []
          ∧ ∀ header g, Message.read? GenericMessage.read? octets ≠ some ⟨header, .content g⟩)
      ∧ (∀ front poll back, turns = front ++ ⟨true, poll⟩ :: back →
        poll = .idle ∨ poll = .failed Errno.interrupted →
        (c.attend h turns).1 = (c.attend h (front ++ back)).1
          ∧ (c.attend h turns).2.1 = (c.attend h (front ++ back)).2.1)
      ∧ (c.attend h turns).1 = (turns.findSome? Turn.ending?).getD .waiting
      ∧ ((c.attend h turns).1 = .stopped → ∃ turn ∈ turns, turn.running = false)
      ∧ (∀ failure, (c.attend h turns).1 = .failed failure →
        ∃ turn ∈ turns, turn.running = true
          ∧ ((∃ number, turn.poll = .failed number ∧ number ≠ Errno.interrupted
              ∧ failure = .of (.system number))
            ∨ ∃ reported, turn.poll = .ready reported ∧ SystemCall.isHangUp reported = true
              ∧ failure = .of .eventSocketHungUp))
      ∧ ∀ polls,
        c.attend h (schedule polls) = (.ofEnd (c.listen h polls).1, (c.listen h polls).2) := by
  obtain ⟨hstanding, hreceived⟩ := c.attend_eq h turns
  have hevents := hreceived.trans (hawaits.receiveEvents_eq _)
  have hending : ∀ standing, (c.attend h turns).1 = standing → standing ≠ .waiting →
      ∃ turn ∈ turns, turn.ending? = some standing := by
    intro standing hended hne
    rw [hstanding] at hended
    cases hfound : turns.findSome? Turn.ending? with
    | none =>
      rw [hfound] at hended
      exact absurd hended.symm hne
    | some found =>
      rw [hfound] at hended
      obtain rfl : found = standing := hended
      exact List.exists_of_findSome?_eq_some hfound
  refine ⟨hevents, ?_, eventsIn_eq, ?_, hstanding, ?_, ?_, c.attend_schedule h⟩
  · rw [hevents, ← events_toReceive]
    obtain ⟨behind, hbehind⟩ := (List.takeWhile_prefix Receipt.isReadable).trans
      (List.take_prefix (Turn.receipts turns) (c.toReceive pending))
    exact ⟨behind.flatMap Receipt.events, by rw [← List.flatMap_append, hbehind]⟩
  · rintro front poll back rfl hpassed
    exact c.attend_eq_of_passed h front back hpassed
  · intro hstopped
    obtain ⟨turn, hturn, hend⟩ := hending _ hstopped (by nofun)
    rcases Turn.ending?_eq_some hend with ⟨hrunning, -⟩ | ⟨-, hfailed⟩
    · exact ⟨turn, hturn, hrunning⟩
    · rcases hfailed with ⟨number, -, -, hfailed⟩ | ⟨reported, -, -, hfailed⟩
      · cases hfailed
      · cases hfailed
  · intro failure hfailed
    obtain ⟨turn, hturn, hend⟩ := hending _ hfailed (by nofun)
    rcases Turn.ending?_eq_some hend with ⟨-, hstopped⟩ | ⟨hrunning, hfailed⟩
    · cases hstopped
    · refine ⟨turn, hturn, hrunning, ?_⟩
      rcases hfailed with ⟨number, hpoll, hnumber, hfailed⟩ | ⟨reported, hpoll, hhangUp, hfailed⟩
      · exact .inl ⟨number, hpoll, hnumber, Standing.failed.inj hfailed⟩
      · exact .inr ⟨reported, hpoll, hhangUp, Standing.failed.inj hfailed⟩

/-- The header that an answer to the fifth request repeats. -/
def fifth : Bytes :=
  MessageHeader.encode ⟨MessageHeader.size, 28, 0, 5, 0⟩

/-- The announcement that an interface is gone. -/
def departure : Bytes :=
  Message.encode 28 0 7 (GenericMessage.encode
    ⟨Command.deleteInterface.code, 1, [⟨3, LittleEndian.encode 4 2⟩]⟩)

/-- A connection that receives all kinds of messages: announcements, an acknowledgement that nobody
expects, a rejection, and an announcement without a payload. -/
def busy : Connection :=
  receiving
    [.data (announcement ++ Message.encode Message.answerType 0 5 ([0, 0, 0, 0] ++ fifth)),
      .failed 105, .data [],
      .data (Message.encode Message.answerType 0 5
        ([240, 255, 255, 255] ++ fifth ++ [Command.newRadio.code, 1, 0, 0]) ++ departure),
      .data (truncated ++ announcement)]

/-- Turns of all kinds, the last but one with the flag cleared. -/
def busyTurns : List Turn :=
  [⟨true, .idle⟩, ⟨true, .ready 1⟩, ⟨true, .failed Errno.interrupted⟩, ⟨true, .ready 1⟩,
    ⟨true, .ready 1⟩, ⟨true, .ready 1⟩, ⟨true, .ready 1⟩, ⟨true, .ready 1⟩, ⟨true, .ready 1⟩,
    ⟨true, .ready 1⟩, ⟨false, .idle⟩, ⟨true, .failed 9⟩]

theorem awaits_busy : busy.Awaits [] := by
  refine ⟨Mailbox.holds_nil rfl, isIntact_nil, fun octets ho => ?_⟩
  simp only [busy, receiving, Mailbox.ofSocket, List.mem_cons, Reading.data.injEq, reduceCtorEq,
    List.not_mem_nil, or_false, false_or] at ho
  rcases ho with rfl | rfl | rfl | rfl
  · decide +kernel
  · exact isIntact_nil
  · decide +kernel
  · decide +kernel

/-- Three announcements arrive, two of them before the message that does not decode. These are
handed on, and the cleared flag stops the loop. -/
theorem events_in_order_busy :
    busy.Awaits []
      ∧ (busy.arriving []).flatMap eventsIn
        = [⟨.newRadio, 0, []⟩, ⟨.deleteInterface, 7, [.ifindex 2]⟩, ⟨.newRadio, 0, []⟩]
      ∧ (busy.attend (.start 0 []) busyTurns).2.1
        = [⟨.newRadio, 0, []⟩, ⟨.deleteInterface, 7, [.ifindex 2]⟩]
      ∧ (busy.attend (.start 0 []) busyTurns).1 = .stopped := by
  obtain ⟨hevents, -, -, -, hstanding, -⟩ := events_in_order (.start 0 []) busyTurns awaits_busy
  refine ⟨awaits_busy, by decide +kernel, ?_, ?_⟩
  · rw [hevents]
    decide +kernel
  · rw [hstanding]
    decide +kernel

/-- The announcement of an interface. -/
def arrival (index : UInt32) : Bytes :=
  Message.encode 28 0 0 (GenericMessage.encode
    ⟨Command.newInterface.code, 1, [⟨3, LittleEndian.encode 4 index.toNat⟩]⟩)

/-- A connection that receives the announcements of two interfaces, and then one of a third that is
cut off in front of its index. -/
def misled : Connection :=
  receiving [.data (arrival 1 ++ arrival 2), .data ((arrival 3).take 20)]

/-- It is not so that the loop hands on nothing else than what arrives: the third announcement gets
the index of the first, and the second is handed on once more. -/
theorem not_only_arrived :
    ¬ ∀ (c : Connection) (h : Host) (turns : List Turn),
      c.events.position = c.events.filled →
      (c.attend h turns).2.1 <+: (c.arriving []).flatMap eventsIn := by
  intro hall
  have hprefix := hall misled (.start 0 []) (List.replicate 4 ⟨true, .ready 1⟩) rfl
  have hhanded : (misled.attend (.start 0 []) (List.replicate 4 ⟨true, .ready 1⟩)).2.1
      = [1, 2, 1, 2].map fun index => ⟨.newInterface, 0, [.ifindex index]⟩ := by
    decide +kernel
  have harriving : (misled.arriving []).flatMap eventsIn
      = [1, 2].map fun index => ⟨.newInterface, 0, [.ifindex index]⟩ := by
    decide +kernel
  rw [hhanded, harriving] at hprefix
  exact absurd hprefix.length_le (by decide)

end Connection

end NeighborAwareness
