import NeighborAwareness.Netlink.Record

/-!
# Generic netlink messages

The payload of a generic message is a command, a version, two reserved octets and records.
-/

namespace NeighborAwareness

/-- The payload of a generic netlink message. -/
structure GenericMessage where
  command : UInt8
  version : UInt8
  records : List Record
  deriving DecidableEq, Repr

namespace GenericMessage

/-- The octets of a payload. -/
def encode (m : GenericMessage) : Bytes :=
  [m.command, m.version, 0, 0] ++ m.records.flatMap Record.encode

/-- The payload that octets are. -/
def read? : Bytes → Option GenericMessage
  | command :: version :: _ :: _ :: rest =>
    (Record.readAll? rest).map fun records => ⟨command, version, records⟩
  | _ => none

end GenericMessage

end NeighborAwareness
