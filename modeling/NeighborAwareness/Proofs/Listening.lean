import NeighborAwareness.Netlink.Connection
import NeighborAwareness.Proofs.Datagrams

/-!
# Events that the loop leaves waiting

Each time that the event socket is readable, the event loop receives one message. So a datagram of
several messages is handed on over several rounds, and the kernel, who no longer has it, does not
ask for them: after the first message of the last datagram the loop idles, and what follows that
message waits until another datagram comes.

## Main definitions

* `Connection.decodes`, `Connection.eventsIn` : whether octets are a message, and its events.
* `Connection.IsDatagram` : the messages of a datagram whose messages all decode.
* `Connection.Honest` : a schedule of datagrams and waits where the waits say what the kernel has.
* `Connection.leftBehind` : what follows the first message of the last datagram.

## Main results

* `Connection.receiveEvent_of_read` : what one receipt hands on.
* `Connection.Follows.receiveEvent` : one receipt in an honest schedule.
* `Connection.listen_waiting_events` : while the loop idles, all events that were read have been
  handed on but those that follow the first message of the last datagram.
-/

namespace NeighborAwareness

namespace Connection

variable {c : Connection}

/-! ### One receipt -/

/-- Whether octets are a message. -/
def decodes (octets : Bytes) : Bool :=
  (Message.read? GenericMessage.read? octets).isSome

/-- The events in a message. -/
def eventsIn (octets : Bytes) : List Event :=
  match Message.read? GenericMessage.read? octets with
  | some m => (eventOf m).1
  | none => []

/-- A message that reads hands its events on, and what follows it in the datagram stays. -/
theorem receiveEvent_of_read {octets rest : Bytes} (hholds : c.events.Holds (octets ++ rest))
    (hread : decodes octets = true) :
    ∃ notes events, c.receiveEvent = (eventsIn octets, notes, { c with events })
      ∧ events.Holds rest ∧ events.socket = c.events.socket := by
  obtain ⟨message, hmessage⟩ := Option.isSome_iff_exists.1 hread
  obtain ⟨received, events, hreceive, hreceived, hsocket, hrest⟩ := hholds.receive_of_read hmessage
  have hevents : eventsIn octets = (eventOf message).1 := by rw [eventsIn, hmessage]
  rcases hreceived with rfl | ⟨hbody, rfl⟩
  · refine ⟨(eventOf message).2, events, ?_, hrest, hsocket⟩
    rw [receiveEvent, hreceive, hevents]
  -- An acknowledgement that nobody expects is a failure, but neither gives an event.
  · refine ⟨[.eventUndecodable], events, ?_, hrest, hsocket⟩
    rw [receiveEvent, hreceive, hevents, eventOf, hbody]

theorem receiveEvent_of_refill {events : Mailbox}
    (h : c.events.refill (α := GenericMessage) = (.ok (), events)) :
    c.receiveEvent = ({ c with events } : Connection).receiveEvent := by
  rw [receiveEvent, receiveEvent, Mailbox.receive_of_refill h]

/-- The first message of a datagram is handed on when nothing is left of the one before. -/
theorem receiveEvent_of_data {octets rest : Bytes} {more : List Reading}
    (hrest : c.events.position = c.events.filled)
    (hreads : c.events.socket.script.reads = .data (octets ++ rest) :: more)
    (hroom : (octets ++ rest).length ≤ Mailbox.capacity)
    (hread : decodes octets = true) :
    ∃ notes events, c.receiveEvent = (eventsIn octets, notes, { c with events })
      ∧ events.Holds rest ∧ events.socket.script.reads = more := by
  have hne : octets ++ rest ≠ [] := by
    intro hnil
    obtain ⟨message, hmessage⟩ := Option.isSome_iff_exists.1 hread
    have hsize := Message.size_le_of_read? hmessage
    rw [(List.append_eq_nil_iff.1 hnil).1] at hsize
    contradiction
  obtain ⟨filled, hrefill, hholds, hmore⟩ :=
    Mailbox.refill_of_data (α := GenericMessage) hrest hreads hne hroom
  obtain ⟨notes, events, hreceive, hleft, hsocket⟩ :=
    receiveEvent_of_read (c := { c with events := filled }) hholds hread
  refine ⟨notes, events, ?_, hleft, by rw [hsocket]; exact hmore⟩
  rw [receiveEvent_of_refill hrefill, hreceive]

/-! ### Rounds of the loop -/

/-- A wait ends the loop, is passed over, or reports the socket readable; then one message is
received. -/
theorem listen_cons (c : Connection) (h : Host) (poll : Poll) (polls : List Poll) :
    (∃ failure after, c.listen h (poll :: polls) = (some failure, [], c, after))
    ∨ (poll = .idle ∨ poll = .failed Errno.interrupted)
      ∧ (∃ after, c.listen h (poll :: polls) = c.listen after polls)
    ∨ ∃ reported, poll = .ready reported ∧ SystemCall.isHangUp reported = false
      ∧ ∃ after,
        let later := c.receiveEvent.2.2.listen after polls
        c.listen h (poll :: polls)
          = (later.1, c.receiveEvent.1 ++ later.2.1, later.2.2.1, later.2.2.2) := by
  cases poll with
  | idle => exact .inr (.inl ⟨.inl rfl, _, rfl⟩)
  | failed number =>
    rw [listen]
    by_cases hnumber : number = Errno.interrupted
    · refine .inr (.inl ⟨.inr (by rw [hnumber]), _, if_pos hnumber⟩)
    · exact .inl ⟨_, _, if_neg hnumber⟩
  | ready reported =>
    rw [listen]
    cases hhangUp : SystemCall.isHangUp reported with
    | true => exact .inl ⟨_, _, if_pos rfl⟩
    | false => exact .inr (.inr ⟨reported, rfl, hhangUp, _, rfl⟩)

/-! ### Schedules -/

/-- The messages of a datagram whose messages all decode. -/
structure IsDatagram (messages : List Bytes) : Prop where
  ne_nil : messages ≠ []
  decodes : ∀ octets ∈ messages, decodes octets = true
  room : messages.flatten.length ≤ Mailbox.capacity

/-- The kernel has `unread` datagrams at first. Before each wait, some more arrive; a wait reports
the socket readable exactly when there is a datagram that was not read, and else nothing. What is
reported when a wait fails, and what follows a hang-up, do not matter. -/
def Honest (c : Connection) (unread : Nat) : List (Nat × Poll) → Prop
  | [] => True
  | (arriving, poll) :: schedule =>
    let waiting := unread + arriving
    let reads := c.events.socket.script.reads.length
    waiting ≤ reads
      ∧ match poll with
        | .idle => waiting = 0 ∧ c.Honest waiting schedule
        | .failed _ => c.Honest waiting schedule
        | .ready reported =>
          SystemCall.isHangUp reported = true
            ∨ 0 < waiting
              ∧ let after := c.receiveEvent.2.2
                after.Honest (waiting - (reads - after.events.socket.script.reads.length)) schedule

/-- What follows the first message of the last of some datagrams. -/
def leftBehind (datagrams : List (List Bytes)) : List Bytes :=
  (datagrams.getLast?.getD []).tail

/-- The invariant of an honest schedule: `read` are the datagrams read so far, of the last of which
`pending` was not handed on, and `left` those that will come, of which the kernel has `unread`. When
it has none, nothing was received since the last datagram was read. -/
structure Follows (c : Connection) (read left : List (List Bytes)) (pending : List Bytes)
    (unread : Nat) : Prop where
  holds : c.events.Holds pending.flatten
  decodes : ∀ octets ∈ pending, decodes octets = true
  reads : c.events.socket.script.reads = left.map fun datagram => .data datagram.flatten
  datagrams : ∀ datagram ∈ left, IsDatagram datagram
  behind : unread = 0 → pending = leftBehind read

namespace Follows

variable {read left : List (List Bytes)} {pending : List Bytes} {unread waiting : Nat}

theorem arrive (h : c.Follows read left pending unread) (hle : unread ≤ waiting) :
    c.Follows read left pending waiting :=
  ⟨h.holds, h.decodes, h.reads, h.datagrams, fun hzero => h.behind (by omega)⟩

/-- One receipt hands on the first message that is pending, and reads a datagram for it if there is
none. -/
theorem receiveEvent (h : c.Follows read left pending waiting) (hwaiting : 0 < waiting)
    (hle : waiting ≤ left.length) :
    ∃ newly left' pending', left = newly ++ left'
      ∧ c.receiveEvent.2.2.Follows (read ++ newly) left' pending' (waiting - newly.length)
      ∧ c.receiveEvent.1 ++ pending'.flatMap eventsIn
        = pending.flatMap eventsIn ++ newly.flatten.flatMap eventsIn := by
  cases pending with
  | cons octets pending =>
    have hholds : c.events.Holds (octets ++ pending.flatten) := h.holds
    obtain ⟨notes, events, hreceive, hrest, hsocket⟩ :=
      receiveEvent_of_read hholds (h.decodes octets List.mem_cons_self)
    refine ⟨[], left, pending, rfl, ?_, ?_⟩
    · rw [hreceive, List.append_nil]
      refine ⟨hrest, fun octets ho => h.decodes octets (List.mem_cons_of_mem _ ho), ?_, h.datagrams,
        fun hzero => ?_⟩
      · exact (congrArg (fun socket => socket.script.reads) hsocket).trans h.reads
      · rw [List.length_nil, Nat.sub_zero] at hzero
        omega
    · rw [hreceive, List.flatMap_cons, List.flatten_nil, List.flatMap_nil, List.append_nil]
  | nil =>
    cases left with
    | nil => exact absurd hle (by rw [List.length_nil]; omega)
    | cons datagram left =>
      have hdatagram := h.datagrams datagram List.mem_cons_self
      cases datagram with
      | nil => exact absurd rfl hdatagram.ne_nil
      | cons octets following =>
        have hrest : c.events.position = c.events.filled := h.holds.filled.symm
        have hfirst := hdatagram.decodes octets List.mem_cons_self
        obtain ⟨notes, events, hreceive, hleft, hreads⟩ :=
          receiveEvent_of_data hrest h.reads hdatagram.room hfirst
        have hbehind : following = leftBehind (read ++ [octets :: following]) := by
          rw [leftBehind, List.getLast?_concat]
          rfl
        refine ⟨[octets :: following], left, following, rfl, ?_, ?_⟩
        · rw [hreceive]
          exact ⟨hleft, fun octets ho => hdatagram.decodes octets (List.mem_cons_of_mem _ ho), hreads,
            fun datagram hd => h.datagrams datagram (List.mem_cons_of_mem _ hd), fun _ => hbehind⟩
        · rw [hreceive]
          simp only [List.flatMap_nil, List.flatten_cons, List.flatten_nil, List.append_nil,
            List.flatMap_cons, List.nil_append]

/-- One round in which the socket is readable keeps the invariant, and the schedule stays honest. -/
theorem round {schedule : List (Nat × Poll)} {arriving reported : Nat}
    (h : c.Follows read left pending unread) (hhangUp : SystemCall.isHangUp reported = false)
    (hhonest : c.Honest unread ((arriving, .ready reported) :: schedule)) :
    ∃ newly left' pending' unread', left = newly ++ left'
      ∧ c.receiveEvent.2.2.Follows (read ++ newly) left' pending' unread'
      ∧ c.receiveEvent.2.2.Honest unread' schedule
      ∧ c.receiveEvent.1 ++ pending'.flatMap eventsIn
        = pending.flatMap eventsIn ++ newly.flatten.flatMap eventsIn := by
  obtain ⟨hle, hpoll⟩ := hhonest
  rcases hpoll with hpoll | ⟨hwaiting, hrest⟩
  · rw [hhangUp] at hpoll
    contradiction
  · rw [h.reads, List.length_map] at hle
    obtain ⟨newly, left', pending', rfl, hnext, hevents⟩ :=
      (h.arrive (Nat.le_add_right ..)).receiveEvent hwaiting hle
    refine ⟨newly, left', pending', _, rfl, hnext, ?_, hevents⟩
    have hread : c.events.socket.script.reads.length
        - c.receiveEvent.2.2.events.socket.script.reads.length = newly.length := by
      rw [h.reads, hnext.reads, List.length_map, List.length_map, List.length_append]
      omega
    rw [← hread]
    exact hrest

/-- Up to a wait at which the loop idles, it hands on what was pending and all that it reads, but
for what follows the first message of the last datagram. -/
theorem listen {front back : List (Nat × Poll)} {arriving : Nat} {h : Host}
    (hfollows : c.Follows read left pending unread)
    (hhonest : c.Honest unread (front ++ (arriving, .idle) :: back))
    (hloops : (c.listen h (front.map Prod.snd)).1 = none) :
    ∃ newly left', left = newly ++ left'
      ∧ (c.listen h (front.map Prod.snd)).2.2.1.events.socket.script.reads
        = left'.map (fun datagram => .data datagram.flatten)
      ∧ (c.listen h (front.map Prod.snd)).2.1
          ++ (leftBehind (read ++ newly)).flatMap eventsIn
        = pending.flatMap eventsIn ++ newly.flatten.flatMap eventsIn := by
  -- The induction is on the schedule; one round keeps `Follows`, with more read and less left.
  induction front generalizing c h read left pending unread with
  | nil =>
    obtain ⟨-, hzero, -⟩ := hhonest
    refine ⟨[], left, rfl, hfollows.reads, ?_⟩
    rw [List.append_nil, ← hfollows.behind (by omega), List.flatten_nil, List.flatMap_nil,
      List.append_nil]
    rfl
  | cons round front ih =>
    obtain ⟨more, poll⟩ := round
    rw [List.map_cons] at hloops ⊢
    rcases c.listen_cons h poll (front.map Prod.snd) with
      ⟨failure, after, hlisten⟩ | ⟨hpassed, after, hlisten⟩
        | ⟨reported, rfl, hhangUp, after, hlisten⟩
    · rw [hlisten] at hloops
      contradiction
    · rw [hlisten] at hloops ⊢
      have hrest : c.Honest (unread + more) (front ++ (arriving, .idle) :: back) := by
        rcases hpassed with rfl | rfl
        · exact hhonest.2.2
        · exact hhonest.2
      exact ih (hfollows.arrive (Nat.le_add_right ..)) hrest hloops
    · rw [hlisten] at hloops ⊢
      obtain ⟨newly, left', pending', unread', rfl, hnext, hrest, hevents⟩ :=
        hfollows.round hhangUp hhonest
      obtain ⟨later, last, rfl, hreads, hhanded⟩ := ih hnext hrest hloops
      refine ⟨newly ++ later, last, (List.append_assoc ..).symm, hreads, ?_⟩
      rw [List.append_assoc, ← List.append_assoc read, hhanded, ← List.append_assoc, hevents,
        List.flatten_append, List.flatMap_append, List.append_assoc]

end Follows

/-! ### Idling -/

theorem events_listen_append {h : Host} {front : List Poll} (back : List Poll)
    (hloops : (c.listen h front).1 = none) :
    ∃ after, (c.listen h (front ++ back)).2.1
      = (c.listen h front).2.1 ++ ((c.listen h front).2.2.1.listen after back).2.1 := by
  induction front generalizing c h with
  | nil => exact ⟨h, rfl⟩
  | cons poll front ih =>
    rw [List.cons_append]
    cases poll with
    | idle => exact ih hloops
    | failed number =>
      simp only [listen] at hloops ⊢
      split at hloops
      · rename_i hnumber
        simp only [if_pos hnumber]
        exact ih hloops
      · contradiction
    | ready reported =>
      simp only [listen] at hloops ⊢
      split at hloops
      · contradiction
      · rename_i hhangUp
        simp only [if_neg hhangUp]
        obtain ⟨after, hevents⟩ := ih hloops
        exact ⟨after, by rw [hevents, List.append_assoc]⟩

/-- While the loop idles, all events in the datagrams that were read have been handed on but those
that follow the first message of the last datagram. So none is waiting exactly when there are no
such events. -/
theorem listen_waiting_events (h : Host) {datagrams : List (List Bytes)}
    {front back : List (Nat × Poll)} {arriving : Nat}
    (hrest : c.events.position = c.events.filled)
    (hreads : c.events.socket.script.reads = datagrams.map fun datagram => .data datagram.flatten)
    (hdatagrams : ∀ datagram ∈ datagrams, IsDatagram datagram)
    (hhonest : c.Honest 0 (front ++ (arriving, .idle) :: back))
    (hloops : (c.listen h (front.map Prod.snd)).1 = none) :
    let idling := c.listen h (front.map Prod.snd)
    let unread := idling.2.2.1.events.socket.script.reads.length
    let read := datagrams.take (datagrams.length - unread)
    idling.2.1 <+: (c.listen h ((front ++ (arriving, .idle) :: back).map Prod.snd)).2.1
      ∧ idling.2.1 ++ (leftBehind read).flatMap eventsIn = read.flatten.flatMap eventsIn
      ∧ (idling.2.1 = read.flatten.flatMap eventsIn
        ↔ (leftBehind read).flatMap eventsIn = []) := by
  intro idling unread read
  have hfollows : c.Follows [] datagrams [] 0 :=
    ⟨Mailbox.holds_nil hrest, fun octets ho => absurd ho List.not_mem_nil, hreads, hdatagrams,
      fun _ => rfl⟩
  obtain ⟨newly, left, hsplit, hleft, hhanded⟩ := hfollows.listen hhonest hloops
  have hread : read = newly := by
    have hunread : unread = left.length := by
      rw [← List.length_map (fun datagram => Reading.data datagram.flatten), ← hleft]
    change datagrams.take (datagrams.length - unread) = newly
    rw [hunread, hsplit, List.length_append, Nat.add_sub_cancel, List.take_left]
  have hall : idling.2.1 ++ (leftBehind read).flatMap eventsIn = read.flatten.flatMap eventsIn := by
    rw [hread]
    exact hhanded
  refine ⟨?_, hall, ?_⟩
  · obtain ⟨after, hevents⟩ :=
      c.events_listen_append (((arriving, Poll.idle) :: back).map Prod.snd) hloops
    rw [List.map_append, hevents]
    exact List.prefix_append ..
  · rw [← hall, List.self_eq_append_right]

/-- A connection on which nothing has happened, and whose socket for events will give `reads`. -/
def receiving (reads : List Reading) : Connection where
  family := ⟨28, 1⟩
  requests := .ofSocket ⟨0, .idle⟩
  events := .ofSocket ⟨1, { SocketScript.idle with reads }⟩
  nextSequence := 1
  deadline := 1000000

/-- The announcement of a radio of which nothing is said. -/
def announcement : Bytes :=
  Message.encode 28 0 0 (GenericMessage.encode ⟨Command.newRadio.code, 1, []⟩)

/-- A connection that will receive two announcements in one datagram. -/
def announced : Connection :=
  receiving [.data (announcement ++ announcement)]

/-- Reported once, the datagram is read whole, and the next wait idles. -/
theorem honest_announced : announced.Honest 0 ([(1, .ready 1)] ++ (0, .idle) :: []) := by
  have hreads : announced.receiveEvent.2.2.events.socket.script.reads = [] := by decide +kernel
  refine ⟨Nat.le_refl _, .inr ⟨Nat.one_pos, ?_⟩⟩
  dsimp only
  rw [hreads]
  exact ⟨Nat.zero_le _, rfl, trivial⟩

theorem listen_announced :
    let idling := announced.listen (.start 0 []) ([((1 : Nat), Poll.ready 1)].map Prod.snd)
    idling.1 = none ∧ idling.2.1 = [⟨.newRadio, 0, []⟩]
      ∧ idling.2.2.1.events.socket.script.reads = [] := by
  decide +kernel

theorem isDatagram_announcements (datagram : List Bytes)
    (h : datagram ∈ [[announcement, announcement]]) : IsDatagram datagram := by
  rw [List.mem_singleton.1 h]
  exact ⟨List.cons_ne_nil _ _, by decide +kernel, by decide⟩

/-- Of two announcements in one datagram, one is handed on before the loop idles, and the other is
left behind. -/
theorem listen_waiting_events_announced :
    let idling := announced.listen (.start 0 []) ([((1 : Nat), Poll.ready 1)].map Prod.snd)
    announced.events.position = announced.events.filled
      ∧ announced.events.socket.script.reads = [.data [announcement, announcement].flatten]
      ∧ IsDatagram [announcement, announcement]
      ∧ announced.Honest 0 ([(1, .ready 1)] ++ (0, .idle) :: [])
      ∧ idling.1 = none
      ∧ idling.2.1 ++ [announcement].flatMap eventsIn
        = [announcement, announcement].flatMap eventsIn := by
  intro idling
  obtain ⟨hloops, hhanded, hreads⟩ := listen_announced
  obtain ⟨-, hall, -⟩ := announced.listen_waiting_events (.start 0 []) rfl rfl
    isDatagram_announcements honest_announced hloops
  rw [hreads] at hall
  exact ⟨rfl, rfl, isDatagram_announcements _ List.mem_cons_self, honest_announced, hloops, hall⟩

/-- It is not so that all events that were read have been handed on whenever the loop idles. -/
theorem not_all_handed_on_while_idling :
    ¬ ∀ (c : Connection) (h : Host) (datagrams : List (List Bytes)) (front back : List (Nat × Poll))
        (arriving : Nat),
      c.events.position = c.events.filled →
      c.events.socket.script.reads = datagrams.map (fun datagram => .data datagram.flatten) →
      (∀ datagram ∈ datagrams, IsDatagram datagram) →
      c.Honest 0 (front ++ (arriving, .idle) :: back) →
      (c.listen h (front.map Prod.snd)).1 = none →
      let idling := c.listen h (front.map Prod.snd)
      let unread := idling.2.2.1.events.socket.script.reads.length
      idling.2.1 = (datagrams.take (datagrams.length - unread)).flatten.flatMap eventsIn := by
  intro hall
  obtain ⟨hloops, hhanded, hreads⟩ := listen_announced
  have hboth := hall announced (.start 0 []) _ _ [] 0 rfl rfl isDatagram_announcements
    honest_announced hloops
  dsimp only at hboth
  rw [hhanded, hreads] at hboth
  revert hboth
  decide +kernel

end Connection

end NeighborAwareness
