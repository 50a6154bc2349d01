import NeighborAwareness.Nl80211.Attribute

/-!
# Events of the radio interface

The kernel announces what happens to radios, interfaces and frames as messages that nobody asked
for.
-/

namespace NeighborAwareness

/-- An announcement of the kernel. -/
structure Event where
  command : Command
  sequence : UInt32
  attributes : List Attribute
  deriving DecidableEq, Repr

namespace Attribute

/-- The interface index in an attribute. -/
def ifindex? : Attribute → Option UInt32
  | ifindex index => some index
  | _ => none

/-- The radio in an attribute. -/
def wiphy? : Attribute → Option UInt32
  | wiphy id => some id
  | _ => none

/-- The cookie in an attribute. -/
def cookie? : Attribute → Option UInt64
  | cookie n => some n
  | _ => none

/-- The frame in an attribute. -/
def frame? : Attribute → Option Bytes
  | frame octets => some octets
  | _ => none

end Attribute

/-- The interface an event is about: the first index it carries. -/
def Event.ifindex? (e : Event) : Option UInt32 :=
  e.attributes.findSome? Attribute.ifindex?

end NeighborAwareness
