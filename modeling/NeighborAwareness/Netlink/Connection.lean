import NeighborAwareness.Netlink.Family
import NeighborAwareness.Nl80211.Event

/-!
# The connection to the radio interface

A connection has two mailboxes: requests go through one, and the other is subscribed to events.
Interfaces are brought up through a mailbox of their own each time.

## Main definitions

* `Connection`, `Connection.connect` : a connection.
* `Connection.execute`, `Connection.send`, `Connection.subscribe`, `Connection.bringUp` : requests.
* `Connection.listen` : the event loop, until it is told to stop.
* `Connection.Turn`, `Connection.Standing`, `Connection.attend` : the event loop turn by turn.

## Left out

The lock that keeps requests of several threads apart: a request holds it until it is settled.
-/

namespace NeighborAwareness

/-- The connection to the radio interface. -/
structure Connection where
  family : Family
  requests : Mailbox
  events : Mailbox
  /-- The number of the next request. -/
  nextSequence : UInt32
  /-- How long one wait for events may last, in microseconds. -/
  deadline : Nat
  deriving DecidableEq, Repr

/-- How a request is to be answered. -/
inductive Reply where
  /-- Not at all, unless it is rejected. -/
  | unawaited
  | acknowledged
  /-- With everything there is. -/
  | dump
  deriving DecidableEq, Repr

/-- The flags of a request. -/
def Reply.flags : Reply → UInt16
  | unawaited => MessageFlags.request
  | acknowledged => MessageFlags.request ||| MessageFlags.acknowledge
  | dump => MessageFlags.request ||| MessageFlags.dump

namespace Connection

/-! ### Connecting -/

/-- Looks the groups of events up and joins those that are found. -/
def followGroups (h : Host) (m : Mailbox) : Except Failure Mailbox × Host :=
  let (groups, m, h) := Family.lookUpGroups h m eventGroups
  match Family.joinGroups h m groups with
  | (.error failure, _, h) => (.error failure, h)
  | (.ok (), m, h) => (.ok m, h)

/-- Opens the mailbox for requests and looks the family up. -/
def openRequests (h : Host) : Except Failure (Family × Mailbox) × Host :=
  match Mailbox.connect h SystemCall.genericProtocol with
  | (.error failure, h) => (.error failure, h)
  | (.ok m, h) =>
    match Family.resolve h m with
    | (.error failure, _, h) => (.error failure, h)
    | (.ok family, m, h) => (.ok (family, m), h)

/-- Opens the mailbox for events. -/
def openEvents (h : Host) : Except Failure Mailbox × Host :=
  match Mailbox.connect h SystemCall.genericProtocol with
  | (.error failure, h) => (.error failure, h)
  | (.ok m, h) => followGroups h m

/-- Connects to the radio interface. -/
def connect (h : Host) (deadline : Nat) : Except Failure Connection × Host :=
  match openRequests h with
  | (.error failure, h) => (.error failure, h)
  | (.ok (family, requests), h) =>
    match openEvents h with
    | (.error failure, h) => (.error failure, h)
    | (.ok events, h) => (.ok ⟨family, requests, events, 1, deadline⟩, h)

/-! ### Requests -/

/-- Takes the number of a request. -/
def number (c : Connection) : UInt32 × Connection :=
  (c.nextSequence, { c with nextSequence := c.nextSequence + 1 })

/-- The octets of a request. -/
def encode (c : Connection) (command : Command) (attributes : List Attribute) (reply : Reply)
    (sequence : UInt32) : Except Failure Bytes :=
  (Attribute.toRecords attributes).map fun records =>
    Message.encode c.family.id reply.flags sequence
      (GenericMessage.encode ⟨command.code, c.family.version, records⟩)

/-- The replies after one more message, which must carry the command asked for and the version of
the family. -/
def collect (version : UInt8) (reply : Command) (rows : List (List Attribute))
    (m : GenericMessage) : Except Failure (List (List Attribute)) :=
  if m.command ≠ reply.code then .error (.of (.invalidResponse reply.code m.command))
  else if m.version ≠ version then .error (.of (.invalidFamilyVersion version m.version))
  else .ok (rows ++ [m.records.map Attribute.ofRecord])

/-- Passes over a message of an answer that matters only by its end. -/
def ignore {α : Type} (_ : Unit) (_ : α) : Except Failure Unit :=
  .ok ()

/-- A request whose replies are awaited. Its number is taken even if it cannot be sent. -/
def execute (c : Connection) (h : Host) (command : Command) (attributes : List Attribute)
    (dump : Bool) (reply : Command) :
    Except Failure (List (List Attribute)) × Connection × Host :=
  let (sequence, c) := c.number
  let kind := if dump then Reply.dump else Reply.acknowledged
  match c.encode command attributes kind sequence with
  | .error failure => (.error failure, c, h)
  | .ok message =>
    match c.requests.send h (kind == .acknowledged) message with
    | (.error failure, requests, h) => (.error failure, { c with requests }, h)
    | (.ok (), requests, h) =>
      let (result, notes, requests) := requests.settle GenericMessage.read? sequence command.name
        (collect c.family.version reply) []
      (result, { c with requests }, h.noted notes)

/-- A request that nobody waits for; its number. -/
def send (c : Connection) (h : Host) (command : Command) (attributes : List Attribute) :
    Except Failure UInt32 × Connection × Host :=
  let (sequence, c) := c.number
  match c.encode command attributes .unawaited sequence with
  | .error failure => (.error failure, c, h)
  | .ok message =>
    let (result, requests, h) := c.requests.send h false message
    (result.map fun () => sequence, { c with requests }, h)

/-- A request for events, through the mailbox that will receive them; its number. Events that come
before it is acknowledged are lost. -/
def subscribe (c : Connection) (h : Host) (command : Command) (attributes : List Attribute) :
    Except Failure UInt32 × Connection × Host :=
  let (sequence, c) := c.number
  match c.encode command attributes .acknowledged sequence with
  | .error failure => (.error failure, c, h)
  | .ok message =>
    match c.events.send h true message with
    | (.error failure, events, h) => (.error failure, { c with events }, h)
    | (.ok (), events, h) =>
      let (result, notes, events) :=
        events.settle GenericMessage.read? sequence command.name ignore ()
      (result.map fun () => sequence, { c with events }, h.noted notes)

/-- Brings an interface up, through a mailbox of its own. No number is taken if that cannot be
opened. -/
def bringUp (c : Connection) (h : Host) (index : UInt32) :
    Except Failure Unit × Connection × Host :=
  match Mailbox.connect h SystemCall.routeProtocol with
  | (.error failure, h) => (.error failure, c, h)
  | (.ok m, h) =>
    let (sequence, c) := c.number
    let message := Message.encode LinkInfo.requestType Reply.acknowledged.flags sequence
      (LinkInfo.bringUp index)
    match m.send h true message with
    | (.error failure, _, h) => (.error failure, c, h)
    | (.ok (), m, h) =>
      let request := s!"set link {index.toNat} up"
      let (result, notes, _) := m.settle LinkInfo.read? sequence request ignore ()
      (result, c, h.noted notes)

end Connection

/-! ### Events -/

/-- What waiting for events gives. -/
inductive Poll where
  /-- Nothing came in time. -/
  | idle
  /-- The socket reported something. -/
  | ready (reported : Nat)
  | failed (number : Nat)
  deriving DecidableEq, Repr

namespace Connection

/-- The longest and the shortest wait, in microseconds. -/
def waitLimits : Nat × Nat := (60000000, 100000)

/-- How long one wait may last, in milliseconds. -/
def wait (c : Connection) : Nat :=
  max waitLimits.2 (min waitLimits.1 c.deadline) / 1000

/-- What a message on the event mailbox is: an event, or something to note. -/
def eventOf (m : Message GenericMessage) : List Event × List Note :=
  match m.body with
  | .content g => ([⟨⟨g.command⟩, m.header.sequence, g.records.map Attribute.ofRecord⟩], [])
  | .rejected code sequence => ([], [.eventSocketError sequence code])
  | .acknowledged | .finished => ([], [])

/-- Receives one message on the event mailbox. -/
def receiveEvent (c : Connection) : List Event × List Note × Connection :=
  match c.events.receive GenericMessage.read? with
  | (.nothing, events) => ([], [], { c with events })
  | (.broken _, events) => ([], [.eventUndecodable], { c with events })
  | (.message m, events) =>
    let (received, notes) := eventOf m
    (received, notes, { c with events })

/-- Waits for events and receives them. `polls` is what the waits give; the one after them gives
nothing and is the last. The answer is the failure that ended the loop, if any, and the events. -/
def listen (c : Connection) (h : Host) : List Poll →
    Option Failure × List Event × Connection × Host
  | [] => (none, [], c, h.asked (.poll c.events.socket.number SystemCall.readable c.wait))
  | poll :: polls =>
    let h := h.asked (.poll c.events.socket.number SystemCall.readable c.wait)
    match poll with
    | .idle => c.listen h polls
    | .failed number =>
      if number = Errno.interrupted then c.listen h polls
      else (some (.of (.system number)), [], c, h)
    | .ready reported =>
      if SystemCall.isHangUp reported then (some (.of .eventSocketHungUp), [], c, h)
      else
        let (received, notes, c) := c.receiveEvent
        let (failure, events, c, h) := c.listen (h.noted notes) polls
        (failure, received ++ events, c, h)

/-! ### Turn by turn -/

/-- One turn of the event loop: whether it is to go on, and what waiting then gives. -/
structure Turn where
  running : Bool
  poll : Poll
  deriving DecidableEq, Repr

/-- How the event loop stands after some turns. -/
inductive Standing where
  /-- It goes on. -/
  | waiting
  /-- It was told not to go on. -/
  | stopped
  | failed (failure : Failure)
  deriving DecidableEq, Repr

/-- The event loop in some turns: how it stands, and the events that it has handed on. -/
def attend (c : Connection) (h : Host) : List Turn → Standing × List Event × Connection × Host
  | [] => (.waiting, [], c, h)
  | turn :: turns =>
    if turn.running then
      let h := h.asked (.poll c.events.socket.number SystemCall.readable c.wait)
      match turn.poll with
      | .idle => c.attend h turns
      | .failed number =>
        if number = Errno.interrupted then c.attend h turns
        else (.failed (.of (.system number)), [], c, h)
      | .ready reported =>
        if SystemCall.isHangUp reported then (.failed (.of .eventSocketHungUp), [], c, h)
        else
          let (received, notes, c) := c.receiveEvent
          let (standing, events, c, h) := c.attend (h.noted notes) turns
          (standing, received ++ events, c, h)
    else (.stopped, [], c, h)

/-- The turns of a loop that is stopped after some waits, and one more that gives nothing. -/
def schedule (polls : List Poll) : List Turn :=
  polls.map (⟨true, ·⟩) ++ [⟨true, .idle⟩, ⟨false, .idle⟩]

/-- How a loop stands that ended with a failure, or without one. -/
def Standing.ofEnd : Option Failure → Standing
  | none => .stopped
  | some failure => .failed failure

end Connection

end NeighborAwareness
