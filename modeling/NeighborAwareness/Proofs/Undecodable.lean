import NeighborAwareness.Proofs.Listening
import NeighborAwareness.Proofs.OwnAnswers

/-!
# Messages that do not decode

A message that does not decode stays in its mailbox, and whoever receives next meets it again. On
the event socket it is the end of all events. On the socket for requests, every request after it
fails, whatever answers the kernel gives.

## Main definitions

* `Connection.IsMessage` : a datagram that is one message by its length.
* `Poll.receipts` : how many messages the event loop receives.
* `Connection.Later` : what becomes of a connection by its use.

## Main results

* `Connection.receiveEvents_eq_takeWhile` : events are handed on up to the first message that does
  not decode.
* `Connection.stuck_of_execute`, `Connection.Later.stuck` : a request that failed on such a message
  leaves it in the mailbox, and so does all later use.
* `Connection.undecodable_message_stays` : what such a message costs.
-/

namespace NeighborAwareness

/-! ### Sending and settling -/

namespace Mailbox

variable {α β : Type} {content : ContentReader α} {sequence : UInt32} {request : String}
  {take : β → α → Except Failure β} {m after : Mailbox}

theorem Stuck.of_send (hstuck : m.Stuck content) (h : Host) (acknowledged : Bool)
    (message : Bytes) : (m.send h acknowledged message).2.1.Stuck content :=
  ⟨hstuck.unread, hstuck.room, hstuck.fits, hstuck.undecodable⟩

theorem settle_of_broken {failure : Failure} (h : m.receive content = (.broken failure, after))
    (known : β) :
    m.settle content sequence request take known = (.error failure, [], after) := by
  rw [settle.eq_def]
  split <;> rename_i hreceive <;> rw [h] at hreceive <;> cases hreceive
  rfl

/-- A request that fails on a message that does not decode leaves a stuck mailbox. -/
theorem stuck_of_settle {known : β} {notes : List Note}
    (htake : ∀ known a, take known a ≠ .error (.of .undecodable))
    (h : m.settle content sequence request take known
      = (.error (.of .undecodable), notes, after)) : after.Stuck content := by
  fun_induction Mailbox.settle content sequence request take known m generalizing notes with
  | case1 known m middle hreceive => simp at h
  | case2 known m failure middle hreceive =>
    simp only [Prod.mk.injEq, Except.error.injEq] at h
    obtain ⟨rfl, -, rfl⟩ := h
    exact stuck_of_receive hreceive
  | case3 known m message middle hreceive hdecrease hjudge => simp at h
  | case4 known m message middle hreceive hdecrease code hjudge => simp [Failure.of] at h
  | case5 known m message middle hreceive hdecrease stale hjudge result more last hrest ih =>
    simp only [Prod.mk.injEq] at h
    obtain ⟨rfl, -, rfl⟩ := h
    exact ih hrest
  | case6 known m message middle hreceive hdecrease a hjudge failure hrefused =>
    simp only [Prod.mk.injEq, Except.error.injEq] at h
    rw [h.1] at hrefused
    exact absurd hrefused (htake known a)
  | case7 known m message middle hreceive hdecrease a hjudge next hnext ih => exact ih h

end Mailbox

/-- How many messages the event loop receives in some waits: one for each that reports the socket
readable, up to the one that ends the loop. -/
def Poll.receipts : List Poll → Nat
  | [] => 0
  | .idle :: polls => receipts polls
  | .failed number :: polls => if number = Errno.interrupted then receipts polls else 0
  | .ready reported :: polls => if SystemCall.isHangUp reported then 0 else receipts polls + 1

namespace Connection

variable {c : Connection}

/-! ### The event socket -/

/-- A datagram that is one message by its length. -/
structure IsMessage (octets : Bytes) : Prop where
  header : 4 ≤ octets.length
  length : LittleEndian.decode (octets.take 4) = octets.length
  room : octets.length ≤ Mailbox.capacity

instance (octets : Bytes) : Decidable (IsMessage octets) :=
  decidable_of_iff (4 ≤ octets.length ∧ LittleEndian.decode (octets.take 4) = octets.length
      ∧ octets.length ≤ Mailbox.capacity)
    ⟨fun ⟨header, length, room⟩ => ⟨header, length, room⟩,
      fun ⟨header, length, room⟩ => ⟨header, length, room⟩⟩

/-- Reading a datagram that is one message which does not decode leaves a stuck mailbox. -/
theorem refill_of_undecodable {m : Mailbox} {octets : Bytes} {more : List Reading}
    (hrest : m.position = m.filled) (hreads : m.socket.script.reads = .data octets :: more)
    (hmessage : IsMessage octets) (hundecodable : decodes octets = false) :
    ∃ after, m.refill (α := GenericMessage) = (.ok (), after)
      ∧ after.Stuck GenericMessage.read? ∧ after.socket.script.reads = more := by
  have hne : octets ≠ [] := by
    rintro rfl
    have hheader := hmessage.header
    contradiction
  have hread : Message.read? GenericMessage.read? octets = none := by
    rw [decodes, Option.isSome_eq_false_iff, Option.isNone_iff_eq_none] at hundecodable
    exact hundecodable
  obtain ⟨after, hrefill, hholds, hmore⟩ :=
    Mailbox.refill_of_data (α := GenericMessage) hrest hreads hne hmessage.room
  exact ⟨after, hrefill, hholds.stuck hmessage.length hmessage.header hread, hmore⟩

/-- What `count` receipts hand on, one after the other. -/
def receiveEvents (c : Connection) : Nat → List Event
  | 0 => []
  | count + 1 => c.receiveEvent.1 ++ c.receiveEvent.2.2.receiveEvents count

theorem events_listen (h : Host) (polls : List Poll) :
    (c.listen h polls).2.1 = c.receiveEvents (Poll.receipts polls) := by
  induction polls generalizing c h with
  | nil => rfl
  | cons poll polls ih =>
    cases poll with
    | idle => exact ih _
    | failed number =>
      simp only [listen, Poll.receipts]
      split
      · exact ih _
      · rfl
    | ready reported =>
      simp only [listen, Poll.receipts]
      split
      · rfl
      · rw [ih, receiveEvents]

theorem receiveEvents_of_stuck (h : c.events.Stuck GenericMessage.read?) (count : Nat) :
    c.receiveEvents count = [] := by
  have hreceive : c.receiveEvent = ([], [.eventUndecodable], c) := by
    rw [receiveEvent, h.receive]
  induction count with
  | zero => rfl
  | succ count ih => rw [receiveEvents, hreceive, List.nil_append, ih]

/-- With one message in each datagram, events are handed on up to the first message that does not
decode. -/
theorem receiveEvents_eq_takeWhile {datagrams : List Bytes}
    (hrest : c.events.position = c.events.filled)
    (hreads : c.events.socket.script.reads = datagrams.map .data)
    (hmessages : ∀ octets ∈ datagrams, IsMessage octets) (count : Nat) :
    c.receiveEvents count = ((datagrams.take count).takeWhile decodes).flatMap eventsIn := by
  induction count generalizing c datagrams with
  | zero => rw [List.take_zero]; rfl
  | succ count ih =>
    cases datagrams with
    | nil =>
      have hreceive : c.receiveEvent = ([], [], c) := by
        rw [receiveEvent, Mailbox.receive_of_reads_eq_nil hrest hreads]
      rw [receiveEvents, hreceive, ih hrest hreads hmessages, List.take_nil, List.take_nil]
      rfl
    | cons octets datagrams =>
      have hmessage := hmessages octets List.mem_cons_self
      have hlater : ∀ octets ∈ datagrams, IsMessage octets :=
        fun octets ho => hmessages octets (List.mem_cons_of_mem _ ho)
      rw [receiveEvents, List.take_succ_cons]
      cases hdecodes : decodes octets with
      | true =>
        have hfirst : c.events.socket.script.reads
            = .data (octets ++ []) :: datagrams.map .data := by
          rw [List.append_nil]
          exact hreads
        have hroom : (octets ++ []).length ≤ Mailbox.capacity := by
          rw [List.append_nil]
          exact hmessage.room
        obtain ⟨notes, events, hreceive, hholds, hmore⟩ :=
          receiveEvent_of_data hrest hfirst hroom hdecodes
        rw [hreceive, List.takeWhile_cons_of_pos hdecodes, List.flatMap_cons]
        exact congrArg _ (ih hholds.filled.symm hmore hlater)
      | false =>
        obtain ⟨events, hrefill, hstuck, -⟩ :=
          refill_of_undecodable hrest hreads hmessage hdecodes
        have hreceive : c.receiveEvent = ([], [.eventUndecodable], { c with events }) := by
          rw [receiveEvent_of_refill hrefill, receiveEvent, hstuck.receive]
        rw [hreceive, List.takeWhile_cons_of_neg (by rw [hdecodes]; exact Bool.false_ne_true),
          receiveEvents_of_stuck hstuck]
        rfl

/-! ### The socket for requests -/

theorem replyOnly_of_toRecords {attributes : List Attribute} {failure : Failure}
    (h : Attribute.toRecords attributes = .error failure) :
    ∃ kind, failure = .of (.replyOnly kind) := by
  induction attributes with
  | nil => cases h
  | cons a attributes ih =>
    rw [Attribute.toRecords] at h
    cases hrecord : a.toRecord with
    | error found =>
      rw [hrecord] at h
      obtain rfl : found = failure := Except.error.inj h
      unfold Attribute.toRecord at hrecord
      split at hrecord
      · cases hrecord
      · exact ⟨_, (Except.error.inj hrecord).symm⟩
    | ok record =>
      cases hrecords : Attribute.toRecords attributes with
      | error found =>
        rw [hrecord, hrecords] at h
        obtain rfl : found = failure := Except.error.inj h
        exact ih hrecords
      | ok records =>
        rw [hrecord, hrecords] at h
        cases h

variable (h : Host) (command : Command) (attributes : List Attribute) (dump : Bool)
  (reply : Command)

theorem stuck_submit (hstuck : c.requests.Stuck GenericMessage.read?) :
    (c.submit h command attributes dump).2.1.Stuck GenericMessage.read? := by
  unfold submit
  split
  · exact hstuck
  · exact hstuck.of_send ..

theorem submit_ne_undecodable :
    (c.submit h command attributes dump).1 ≠ .error (.of .undecodable) := by
  intro hsubmit
  unfold submit at hsubmit
  split at hsubmit
  · rename_i failure hencode
    obtain rfl := Except.error.inj hsubmit
    unfold encode at hencode
    cases hrecords : Attribute.toRecords attributes with
    | error found =>
      rw [hrecords] at hencode
      obtain rfl : found = .of .undecodable := Except.error.inj hencode
      obtain ⟨kind, hkind⟩ := replyOnly_of_toRecords hrecords
      cases hkind
    | ok records =>
      rw [hrecords] at hencode
      cases hencode
  · simp only [Mailbox.send, Host.send, Host.outcome] at hsubmit
    split at hsubmit
    · cases hsubmit
    · cases hsubmit

theorem collect_ne_undecodable (version : UInt8) (rows : List (List Attribute))
    (m : GenericMessage) : collect version reply rows m ≠ .error (.of .undecodable) := by
  unfold collect
  split
  · exact fun hrefused => by cases hrefused
  · split
    · exact fun hrefused => by cases hrefused
    · exact fun hrefused => by cases hrefused

/-- A request that fails on a message that does not decode leaves the mailbox for requests stuck. -/
theorem stuck_of_execute
    (hexecute : (c.execute h command attributes dump reply).1 = .error (.of .undecodable)) :
    (c.execute h command attributes dump reply).2.1.requests.Stuck GenericMessage.read? := by
  rcases c.execute_cases h command attributes dump reply with
    ⟨failure, requests, after, hsubmit, hfailed⟩
      | ⟨requests, after, result, notes, left, hsubmit, hsettle, hsettled⟩
  · rw [hfailed] at hexecute
    obtain rfl : failure = .of .undecodable := Except.error.inj hexecute
    have hsent := c.submit_ne_undecodable h command attributes dump
    rw [hsubmit] at hsent
    exact absurd rfl hsent
  · rw [hsettled] at hexecute ⊢
    obtain rfl : result = .error (.of .undecodable) := hexecute
    exact Mailbox.stuck_of_settle (fun known m => collect_ne_undecodable reply _ known m) hsettle

/-- On a stuck mailbox every request fails, at the latest on the message that does not decode, and
the mailbox stays stuck. -/
theorem execute_of_stuck (hstuck : c.requests.Stuck GenericMessage.read?) :
    (c.execute h command attributes dump reply).1
        = ((c.submit h command attributes dump).1.bind fun _ => .error (.of .undecodable))
      ∧ (c.execute h command attributes dump reply).2.1.requests.Stuck GenericMessage.read? := by
  have hsent := c.stuck_submit h command attributes dump hstuck
  rcases c.execute_cases h command attributes dump reply with
    ⟨failure, requests, after, hsubmit, hfailed⟩
      | ⟨requests, after, result, notes, left, hsubmit, hsettle, hsettled⟩
  · rw [hsubmit] at hsent ⊢
    rw [hfailed]
    exact ⟨rfl, hsent⟩
  · rw [hsubmit] at hsent ⊢
    rw [Mailbox.settle_of_broken hsent.receive] at hsettle
    cases hsettle
    rw [hsettled]
    exact ⟨rfl, hsent⟩

/-! ### Later use -/

theorem requests_receiveEvent : c.receiveEvent.2.2.requests = c.requests := by
  unfold receiveEvent
  split <;> rfl

theorem requests_listen (polls : List Poll) : (c.listen h polls).2.2.1.requests = c.requests := by
  induction polls generalizing c h with
  | nil => rfl
  | cons poll polls ih =>
    rcases c.listen_cons h poll polls with
      ⟨failure, after, hlisten⟩ | ⟨-, after, hlisten⟩ | ⟨reported, -, -, after, hlisten⟩
    · rw [hlisten]
    · rw [hlisten, ih]
    · rw [hlisten]
      exact (ih _).trans requests_receiveEvent

theorem requests_subscribe :
    (c.subscribe h command attributes).2.1.requests = c.requests := by
  unfold subscribe
  split
  rename_i sequence numbered hnumber
  obtain ⟨-, rfl⟩ := Prod.mk.inj hnumber
  split
  · rfl
  · split
    · rfl
    · split
      rfl

theorem requests_bringUp (index : UInt32) : (c.bringUp h index).2.1.requests = c.requests := by
  unfold bringUp
  split
  · rfl
  · split
    rename_i sequence numbered hnumber
    obtain ⟨-, rfl⟩ := Prod.mk.inj hnumber
    extract_lets message
    split
    · rfl
    · split
      rfl

/-- A request that nobody waits for leaves a stuck mailbox stuck. -/
theorem stuck_send (hstuck : c.requests.Stuck GenericMessage.read?) :
    (c.send h command attributes).2.1.requests.Stuck GenericMessage.read? := by
  unfold Connection.send
  split
  rename_i sequence numbered hnumber
  obtain ⟨-, rfl⟩ := Prod.mk.inj hnumber
  split
  · exact hstuck
  · rename_i message hencode
    exact hstuck.of_send h false message

/-- What becomes of a connection by its use. -/
inductive Later (c : Connection) : Connection → Prop
  | refl : Later c c
  | execute {d : Connection} (h : Host) (command : Command) (attributes : List Attribute)
      (dump : Bool) (reply : Command) :
      Later c d → Later c (d.execute h command attributes dump reply).2.1
  | send {d : Connection} (h : Host) (command : Command) (attributes : List Attribute) :
      Later c d → Later c (d.send h command attributes).2.1
  | subscribe {d : Connection} (h : Host) (command : Command) (attributes : List Attribute) :
      Later c d → Later c (d.subscribe h command attributes).2.1
  | bringUp {d : Connection} (h : Host) (index : UInt32) :
      Later c d → Later c (d.bringUp h index).2.1
  | listen {d : Connection} (h : Host) (polls : List Poll) :
      Later c d → Later c (d.listen h polls).2.2.1

/-- Once stuck, the mailbox for requests stays stuck. -/
theorem Later.stuck {later : Connection} (hlater : Later c later)
    (hstuck : c.requests.Stuck GenericMessage.read?) :
    later.requests.Stuck GenericMessage.read? := by
  induction hlater with
  | refl => exact hstuck
  | execute h command attributes dump reply _ ih =>
    exact (execute_of_stuck h command attributes dump reply ih).2
  | send h command attributes _ ih => exact stuck_send h command attributes ih
  | subscribe h command attributes _ ih => rwa [requests_subscribe]
  | bringUp h index _ ih => rwa [requests_bringUp]
  | listen h polls _ ih => rwa [requests_listen]

/-- A message that does not decode stays where it is. With one message in each datagram, the event
loop hands on the events before the first such message, of the datagrams that it would receive, and
so all of their events exactly when none follow it. Once a request has failed on such a message,
every later request fails: if it can be sent at all, then on the same message, whatever its own
answers are. -/
theorem undecodable_message_stays (c : Connection) :
    (∀ (h : Host) (polls : List Poll) (datagrams : List Bytes),
      c.events.position = c.events.filled →
      c.events.socket.script.reads = datagrams.map .data →
      (∀ octets ∈ datagrams, IsMessage octets) →
      let received := datagrams.take (Poll.receipts polls)
      (c.listen h polls).2.1 = (received.takeWhile decodes).flatMap eventsIn
        ∧ ((c.listen h polls).2.1 = received.flatMap eventsIn
          ↔ ∀ octets ∈ received.dropWhile decodes, eventsIn octets = []))
    ∧ ∀ (h : Host) (command : Command) (attributes : List Attribute) (dump : Bool)
        (reply : Command),
      (c.execute h command attributes dump reply).1 = .error (.of .undecodable) →
      ∀ later, Later (c.execute h command attributes dump reply).2.1 later →
        ∀ (h : Host) (command : Command) (attributes : List Attribute) (dump : Bool)
          (reply : Command),
        (later.execute h command attributes dump reply).1
          = (later.submit h command attributes dump).1.bind fun _ =>
              .error (.of .undecodable) := by
  constructor
  · intro h polls datagrams hrest hreads hmessages received
    have hhanded : (c.listen h polls).2.1 = (received.takeWhile decodes).flatMap eventsIn := by
      rw [events_listen, receiveEvents_eq_takeWhile hrest hreads hmessages]
    have hall : received.flatMap eventsIn
        = (c.listen h polls).2.1 ++ (received.dropWhile decodes).flatMap eventsIn := by
      rw [hhanded, ← List.flatMap_append, List.takeWhile_append_dropWhile]
    refine ⟨hhanded, ?_⟩
    rw [hall, List.self_eq_append_right, List.flatMap_eq_nil_iff]
  · intro h command attributes dump reply hfailed later hlater h' command' attributes' dump' reply'
    have hstuck := stuck_of_execute h command attributes dump reply hfailed
    exact (execute_of_stuck h' command' attributes' dump' reply' (hlater.stuck hstuck)).1

/-- An announcement without a payload. -/
def truncated : Bytes :=
  Message.encode 28 0 0 []

/-- What the kernel answers to the second request for all radios: one of which nothing is said, and
the end of the dump. -/
def radioAnswer : List Bytes :=
  [Message.encode 28 2 2 (GenericMessage.encode ⟨Command.newRadio.code, 1, []⟩),
   Message.encode Message.finishedType 2 2 [0, 0, 0, 0]]

/-- A connection that receives a truncated announcement on both sockets, then an announcement on the
one and the answer to the second request on the other. -/
def disturbed : Connection where
  family := ⟨28, 1⟩
  requests := .ofSocket ⟨0, { SocketScript.idle with
    reads := .data truncated :: radioAnswer.map .data }⟩
  events := .ofSocket ⟨1, { SocketScript.idle with
    reads := [truncated, announcement].map .data }⟩
  nextSequence := 1
  deadline := 1000000

/-- The first request fails on the truncated announcement. The answer to the second one is still to
be read; taken alone it is complete, and the request can be sent. -/
theorem execute_disturbed :
    let failed := disturbed.execute (.start 0 []) .getRadio [] true .newRadio
    let after := failed.2.1
    failed.1 = .error (.of .undecodable)
      ∧ after.requests.socket.script.reads = radioAnswer.map .data
      ∧ Received.answer after.nextSequence Command.getRadio.name
          (collect after.family.version .newRadio) []
          (radioAnswer.filterMap fun octets =>
            (Message.read? GenericMessage.read? octets).map .message) = .ok [[]]
      ∧ (after.submit (.start 0 []) .getRadio [] true).1 = .ok () := by
  decide +kernel

/-- After a truncated announcement, neither is the announcement handed on, nor does the second
request get its answer. -/
theorem undecodable_message_stays_disturbed :
    let failed := disturbed.execute (.start 0 []) .getRadio [] true .newRadio
    disturbed.events.position = disturbed.events.filled
      ∧ disturbed.events.socket.script.reads = [truncated, announcement].map .data
      ∧ (∀ octets ∈ [truncated, announcement], IsMessage octets)
      ∧ (disturbed.listen (.start 0 []) [.ready 1, .ready 1]).2.1 = []
      ∧ failed.1 = .error (.of .undecodable)
      ∧ (failed.2.1.execute (.start 0 []) .getRadio [] true .newRadio).1
        = .error (.of .undecodable) := by
  intro failed
  obtain ⟨hfailed, -, -, hsent⟩ := execute_disturbed
  obtain ⟨hevents, hrequests⟩ := disturbed.undecodable_message_stays
  have hmessages : ∀ octets ∈ [truncated, announcement], IsMessage octets := by decide
  obtain ⟨hhanded, -⟩ := hevents (.start 0 []) [.ready 1, .ready 1] _ rfl rfl hmessages
  have hagain := hrequests _ _ _ _ _ hfailed failed.2.1 .refl (.start 0 []) .getRadio [] true
    .newRadio
  rw [hsent] at hagain
  exact ⟨rfl, rfl, hmessages, hhanded, hfailed, hagain⟩

/-- It is neither so that the loop hands on all events that it would receive, nor that a request is
answered after one before it failed on a message that does not decode. -/
theorem undecodable_message_costs_more :
    (¬ ∀ (c : Connection) (h : Host) (polls : List Poll) (datagrams : List Bytes),
      c.events.position = c.events.filled →
      c.events.socket.script.reads = datagrams.map .data →
      (∀ octets ∈ datagrams, IsMessage octets) →
      (c.listen h polls).2.1 = (datagrams.take (Poll.receipts polls)).flatMap eventsIn)
    ∧ ¬ ∀ (c : Connection) (h : Host) (command : Command) (attributes : List Attribute)
        (dump : Bool) (reply : Command) (answers : List Bytes) (rows : List (List Attribute)),
      let after := (c.execute h command attributes dump reply).2.1
      (c.execute h command attributes dump reply).1 = .error (.of .undecodable) →
      after.requests.socket.script.reads = answers.map .data →
      (∀ octets ∈ answers, IsMessage octets) →
      Received.answer after.nextSequence command.name (collect after.family.version reply) []
          (answers.filterMap fun octets =>
            (Message.read? GenericMessage.read? octets).map .message) = .ok rows →
      (after.submit h command attributes dump).1 = .ok () →
      (after.execute h command attributes dump reply).1 = .ok rows := by
  constructor
  · intro hall
    have hhanded := hall disturbed (.start 0 []) [.ready 1, .ready 1] [truncated, announcement]
      rfl rfl (by decide)
    revert hhanded
    decide +kernel
  · intro hall
    obtain ⟨hfailed, hreads, hanswer, hsent⟩ := execute_disturbed
    have hanswered := hall disturbed _ _ _ _ _ radioAnswer [[]] hfailed hreads (by decide) hanswer
      hsent
    revert hanswered
    decide +kernel

end Connection

end NeighborAwareness
