import NeighborAwareness.Errno

/-!
# Failures

An operation fails for a cause, and a cause may rest on further ones: creating an interface failed
because the kernel rejected the request. A failure lists its causes, outermost first.

## Main definitions

* `Cause` : one reason, with what identifies it.
* `Cause.message` : its text.
* `Failure` : a cause and those beneath it.
* `Failure.chain` : all the texts in one line.
-/

namespace NeighborAwareness

/-- One reason why an operation failed. -/
inductive Cause where
  /-- The kernel does not offer the radio interface. -/
  | familyUnavailable
  /-- A reply carried another command than the one asked for. -/
  | invalidResponse (expected got : UInt8)
  /-- A reply was written for another version of the radio interface. -/
  | invalidFamilyVersion (expected got : UInt8)
  /-- The kernel answered a request with an error number. -/
  | kernel (code : Int32) (request : String)
  | createFailed (name : String) (phy : UInt32)
  | filterRejected (ifname reason : String)
  /-- An element declares more octets than follow its header. -/
  | truncatedElement (id : UInt8) (declared remaining : Nat)
  /-- Fewer octets than an element header are left. -/
  | shortElement (remaining : Nat)
  | unknownInterface (index : UInt32)
  | payloadTooLarge (length limit : Nat)
  | captureClosed (ifname : String)
  /-- A nested attribute declares fewer octets than its header or more than are left. -/
  | nestedOverrun (id : UInt16) (declared remaining : Nat)
  /-- An attribute that only the kernel writes was to be sent. -/
  | replyOnly (kind : String)
  /-- A creation was answered without an interface. -/
  | noInterfaceInReply
  | eventSocketHungUp
  | nameHoldsNul
  /-- Where the NUL octet stands. -/
  | nulOctet (position : Nat)
  | unresolvedInterface (ifname : String)
  | creatingPacketSocket
  | bindingPacketSocket (ifname : String)
  /-- The operating system refused a call. -/
  | system (number : Nat)
  /-- A netlink message does not decode. -/
  | undecodable
  /-- A netlink message declares more octets than the receive buffer holds. -/
  | incompletePacket
  | unexpectedAck
  /-- A reason known by its text only. -/
  | other (text : String)
  deriving DecidableEq, Repr

/-- The text of a cause. -/
def Cause.message : Cause → String
  | familyUnavailable => "nl80211 generic netlink family is not available"
  | invalidResponse expected got =>
    s!"unexpected nl80211 response command {got.toNat}, expected {expected.toNat}"
  | invalidFamilyVersion expected got =>
    s!"unexpected nl80211 family version {got.toNat}, expected {expected.toNat}"
  | kernel code request =>
    s!"kernel rejected {request}: {Errno.name code} ({code.toInt})"
  | createFailed name phy => s!"failed to create interface {name} on phy {phy.toNat}"
  | filterRejected ifname reason => s!"monitor filter rejected on {ifname}: {reason}"
  | truncatedElement id declared remaining =>
    s!"information element {id.toNat} declares {declared} bytes, {remaining} left"
  | shortElement remaining =>
    s!"{remaining} trailing bytes are too short for an information element"
  | unknownInterface index => s!"no interface with index {index.toNat}"
  | payloadTooLarge length limit =>
    s!"payload of {length} bytes exceeds the {limit} bytes available"
  | captureClosed ifname => s!"capture on {ifname} closed"
  | nestedOverrun id declared remaining =>
    s!"nested attribute {id.toNat} declares {declared} bytes, {remaining} left"
  | replyOnly kind => s!"attribute {kind} is reply only and cannot be encoded"
  | noInterfaceInReply => "no interface in the reply"
  | eventSocketHungUp => "nl80211 event socket hung up"
  | nameHoldsNul => "interface name contains null byte"
  | nulOctet position => s!"nul byte found in provided data at position: {position}"
  | unresolvedInterface ifname => s!"failed to resolve ifindex for {ifname}"
  | creatingPacketSocket => "creating packet socket"
  | bindingPacketSocket ifname => s!"binding packet socket to {ifname}"
  | system number => Errno.describe number
  | undecodable => "netlink message does not decode"
  | incompletePacket => "Incomplete packet received from socket"
  | unexpectedAck => "Socket did not expect an ACK but one was received"
  | other text => text

/-- A cause and the causes beneath it, outermost first. -/
structure Failure where
  cause : Cause
  beneath : List Cause
  deriving DecidableEq, Repr

namespace Failure

/-- A failure for one reason. -/
def of (cause : Cause) : Failure :=
  ⟨cause, []⟩

/-- The same failure, seen as the reason for `outer`. -/
def under (outer : Cause) (inner : Failure) : Failure :=
  ⟨outer, inner.cause :: inner.beneath⟩

/-- The text of the outermost cause. -/
def message (f : Failure) : String :=
  f.cause.message

/-- The texts of all causes in one line, outermost first. -/
def chain (f : Failure) : String :=
  ": ".intercalate ((f.cause :: f.beneath).map Cause.message)

end Failure

end NeighborAwareness
