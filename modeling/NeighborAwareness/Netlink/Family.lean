import NeighborAwareness.Netlink.Exchange
import NeighborAwareness.Nl80211.Code
import NeighborAwareness.Text.Utf8

/-!
# Families

The kernel numbers its generic netlink families when it starts. Their numbers, versions and groups
are looked up by name.

## Main definitions

* `Family`, `Family.resolve` : number and version of the radio interface.
* `Family.lookUpGroup` : the number of one of its groups.
-/

namespace NeighborAwareness

/-- A generic netlink family. -/
structure Family where
  id : UInt16
  version : UInt8
  deriving DecidableEq, Repr

namespace Family

/-- The family that answers lookups. -/
def controller : UInt16 := 16

/-- The command of a lookup, and the version of the controller. -/
def getFamily : GenericMessage where
  command := 3
  version := 2
  records := [⟨2, Utf8.encode familyName ++ [0]⟩]

/-- The sequence number of lookups. -/
def lookupSequence : UInt32 := 0

/-- The octets of a lookup. -/
def lookup : Bytes :=
  Message.encode controller (MessageFlags.request ||| MessageFlags.acknowledge) lookupSequence
    getFamily.encode

/-! ### Number and version -/

/-- What a lookup has found. -/
structure Found where
  id : Option UInt16
  version : Option UInt8
  deriving DecidableEq, Repr

/-- What a record of an answer adds. Records that are too short say nothing. -/
def Found.learn (f : Found) (r : Record) : Found :=
  if r.type = 1 ∧ 2 ≤ r.data.length then
    { f with id := some (UInt16.ofNat (LittleEndian.decode (r.data.take 2))) }
  else if r.type = 3 ∧ 4 ≤ r.data.length then
    { f with version := some (UInt8.ofNat (LittleEndian.decode (r.data.take 4))) }
  else f

/-- What a message of an answer adds. -/
def Found.take (f : Found) (m : GenericMessage) : Except Failure Found :=
  .ok (m.records.foldl learn f)

/-- A lookup that the controller rejects because there is nothing says that the family is not
there. -/
def lookupFailure (failure : Failure) : Failure :=
  match failure.cause with
  | .kernel code _ => if code = Errno.notFound then .of .familyUnavailable else failure
  | _ => failure

/-- Looks the radio interface up. -/
def resolve (h : Host) (m : Mailbox) : Except Failure Family × Mailbox × Host :=
  match m.send h true lookup with
  | (.error failure, m, h) => (.error failure, m, h)
  | (.ok (), m, h) =>
    let request := s!"lookup of family {familyName}"
    let (result, notes, m) :=
      m.settle GenericMessage.read? lookupSequence request Found.take ⟨none, none⟩
    let family := match result with
      | .error failure => .error (lookupFailure failure)
      | .ok ⟨some id, some version⟩ => .ok ⟨id, version⟩
      | .ok _ => .error (.of .familyUnavailable)
    (family, m, h.noted notes)

/-! ### Groups -/

/-- The data of the first record of a type. -/
def find? (type : UInt16) (records : List Record) : Option Bytes :=
  (records.find? fun r => r.type == type).map Record.data

/-- The number of a group, if `entry` is about the group called `name`. The last octet of a name in
an entry is a NUL. -/
def groupOf? (name : String) (entry : Record) : Option UInt32 := do
  let records ← Record.readAll? entry.data
  let called ← find? 1 records
  let number ← find? 2 records
  if called ≠ [] ∧ called.dropLast = Utf8.encode name ∧ 4 ≤ number.length then
    some (UInt32.ofNat (LittleEndian.decode (number.take 4)))
  else none

/-- The entries about groups in a message, which must have them. -/
def groups? (m : GenericMessage) : Option (List Record) :=
  (find? 7 m.records).bind Record.readAll?

/-- What messages say about a group: nothing when one of them has no groups, and else what the last
that knows the group says, `known` when none does. -/
def groupIn? (name : String) (known : Option UInt32) : List GenericMessage → Option UInt32
  | [] => known
  | m :: rest =>
    match groups? m with
    | none => none
    | some entries => groupIn? name ((entries.findSome? (groupOf? name)).or known) rest

/-- Reads the whole answer to a lookup: it ends with an acknowledgement, or where nothing is left to
read, or, when no acknowledgement is to come, with a message that says no more follow. There is no
answer when a message is a rejection or cannot be received; what follows it stays unread. -/
def readAnswer (m : Mailbox) : Option (List GenericMessage) × Mailbox :=
  match h : m.receive GenericMessage.read? with
  | (.nothing, m) => (some [], m)
  | (.broken _, m) => (none, m)
  | (.message message, after) =>
    have := Mailbox.backlog_receive h
    match message.body with
    | .rejected _ _ => (none, after)
    | .acknowledged => (some [], after)
    | .finished => if after.expectsAck then readAnswer after else (some [], after)
    | .content g =>
      if message.header.flags &&& MessageFlags.multi = 0 ∧ after.expectsAck = false then
        (some [g], after)
      else
        let (more, m) := readAnswer after
        (more.map (g :: ·), m)
termination_by m.backlog

/-- Looks one of the groups up. -/
def lookUpGroup (h : Host) (m : Mailbox) (name : String) : Option UInt32 × Mailbox × Host :=
  match m.send h true lookup with
  | (.error _, m, h) => (none, m, h)
  | (.ok (), m, h) =>
    let (answer, m) := readAnswer m
    (answer.bind (groupIn? name none), m, h)

/-- Looks groups up, one after the other, and leaves out those that are not found. -/
def lookUpGroups (h : Host) (m : Mailbox) : List String → List UInt32 × Mailbox × Host
  | [] => ([], m, h)
  | name :: names =>
    let (group, m, h) := lookUpGroup h m name
    let (groups, m, h) := lookUpGroups h m names
    (group.toList ++ groups, m, h)

/-- Joins groups, up to the first that is refused. -/
def joinGroups (h : Host) (m : Mailbox) : List UInt32 → Except Failure Unit × Mailbox × Host
  | [] => (.ok (), m, h)
  | group :: groups =>
    match m.join h group with
    | (.error failure, m, h) => (.error failure, m, h)
    | (.ok (), m, h) => joinGroups h m groups

end Family

end NeighborAwareness
