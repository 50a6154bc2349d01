import NeighborAwareness.Bytes.Basic
import NeighborAwareness.Capture.PacketFilter

/-!
# System calls

What the program asks of the operating system, apart from reading sockets. Sockets are named by the
order in which they were opened.

## Main definitions

* `SocketAddress` : what a socket is bound to.
* `SystemCall` : one request to the operating system.
-/

namespace NeighborAwareness

/-- What a socket is bound to. -/
inductive SocketAddress where
  /-- All frames of `protocol` on one interface. -/
  | packet (protocol : UInt16) (index : Int32)
  /-- A netlink identity, zero for one that the kernel picks, and the groups to listen to. -/
  | netlink (identity groups : UInt32)
  deriving DecidableEq, Repr

/-- One request to the operating system. -/
inductive SystemCall where
  /-- Asks for the index of an interface. -/
  | interfaceIndex (name : String)
  | openSocket (domain type protocol : Nat)
  | attachFilter (socket : Nat) (program : List FilterWords)
  | bind (socket : Nat) (address : SocketAddress)
  /-- Joins a netlink group. -/
  | join (socket : Nat) (group : UInt32)
  | send (socket : Nat) (data : Bytes)
  /-- Waits for one of `events`, at most so many milliseconds. -/
  | poll (socket : Nat) (events timeout : Nat)
  deriving DecidableEq, Repr

namespace SystemCall

/-- The address family of packet sockets. -/
def packetFamily : Nat := 17

/-- The address family of netlink sockets. -/
def netlinkFamily : Nat := 16

/-- Sockets that hand over what arrives as it came. -/
def rawType : Nat := 3

/-- All link layer protocols, in network order. -/
def allProtocols : UInt16 := 0x0300

/-- Octets of the address of a packet socket. -/
def packetAddressLength : Nat := 20

/-- The protocol of routing messages. -/
def routeProtocol : Nat := 0

/-- The protocol of generic messages. -/
def genericProtocol : Nat := 16

/-- Something can be read. -/
def readable : Nat := 1

/-- A poll reported an error (8) or a hang-up (16). -/
def isHangUp (reported : Nat) : Bool :=
  reported &&& 24 != 0

end SystemCall

end NeighborAwareness
