import NeighborAwareness.Address
import NeighborAwareness.Nl80211.StationEntry
import NeighborAwareness.Text.Utf8

/-!
# Attributes of the radio interface

Requests, replies and events of the radio interface are lists of attributes. Types that matter
here have typed values; all others, and values of an unexpected size, are kept as they came.

## Main definitions

* `Attribute` : the values.
* `Attribute.type` : the number an attribute travels under.
* `Attribute.ofRecord` : the value of a record.
* `Attribute.toRecord` : the record of a value that can be sent.
-/

namespace NeighborAwareness

/-- An attribute of the radio interface. -/
inductive Attribute where
  | wiphy (id : UInt32)
  | wiphyName (name : String)
  | ifindex (index : UInt32)
  | ifname (name : String)
  | iftype (type : InterfaceType)
  | mac (address : Address)
  | wdev (id : UInt64)
  | wiphyFreq (mhz : UInt32)
  | generation (n : UInt32)
  | frame (octets : Bytes)
  | frameType (control : UInt16)
  | frameMatch (octets : Bytes)
  | duration (ms : UInt32)
  | cookie (n : UInt64)
  | rxSignalDbm (level : Int32)
  | ack
  | offchannelTxOk
  | dontWaitForAck
  /-- Asks for the description of a radio in several messages. -/
  | splitWiphyDump
  | supportedIftypes (types : List InterfaceType)
  /-- How many bands a message describes. -/
  | wiphyBands (count : Nat)
  | stationInfo (entries : List StationEntry)
  /-- An attribute of another type or of an unexpected size, as it came. -/
  | unknown (type : UInt16) (data : Bytes)
  deriving DecidableEq, Repr

namespace Attribute

/-- The number an attribute travels under. -/
def type : Attribute → UInt16
  | wiphy _ => AttributeType.wiphy
  | wiphyName _ => AttributeType.wiphyName
  | ifindex _ => AttributeType.ifindex
  | ifname _ => AttributeType.ifname
  | iftype _ => AttributeType.iftype
  | mac _ => AttributeType.mac
  | wdev _ => AttributeType.wdev
  | wiphyFreq _ => AttributeType.wiphyFreq
  | generation _ => AttributeType.generation
  | frame _ => AttributeType.frame
  | frameType _ => AttributeType.frameType
  | frameMatch _ => AttributeType.frameMatch
  | duration _ => AttributeType.duration
  | cookie _ => AttributeType.cookie
  | rxSignalDbm _ => AttributeType.rxSignal
  | ack => AttributeType.ack
  | offchannelTxOk => AttributeType.offchannelTxOk
  | dontWaitForAck => AttributeType.dontWaitForAck
  | splitWiphyDump => AttributeType.splitWiphyDump
  | supportedIftypes _ => AttributeType.supportedIftypes
  | wiphyBands _ => AttributeType.wiphyBands
  | stationInfo _ => AttributeType.stationInfo
  | unknown type _ => type

/-! ### Reading -/

/-- The name in an attribute: read leniently, without the NUL characters at its end. -/
def nameOf (data : Bytes) : String :=
  let cs := (Utf8.decodeLenient data).toList
  String.ofList (cs.reverse.dropWhile fun c => c == '\x00').reverse

/-- The records inside an attribute, if they are well formed. -/
def nested? (data : Bytes) : Option (List Record) :=
  (Record.nested data).toOption

/-- The typed value of data of a type that has one, if the size is right. An interface type is sent
in 32 bits, of which the lower 16 count. -/
def typed? (type : UInt16) (data : Bytes) : Option Attribute :=
  let half := (LittleEndian.read? 2 data).map UInt16.ofNat
  let word := (LittleEndian.read? 4 data).map UInt32.ofNat
  let long := (LittleEndian.read? 8 data).map UInt64.ofNat
  match type with
  | AttributeType.wiphy => word.map wiphy
  | AttributeType.wiphyName => some (wiphyName (nameOf data))
  | AttributeType.ifindex => word.map ifindex
  | AttributeType.ifname => some (ifname (nameOf data))
  | AttributeType.iftype => word.map fun n => iftype ⟨n.toUInt16⟩
  | AttributeType.mac =>
    if data.length = 6 then (Address.ofBytes? data).map mac else none
  | AttributeType.wdev => long.map wdev
  | AttributeType.wiphyFreq => word.map wiphyFreq
  | AttributeType.generation => word.map generation
  | AttributeType.frame => some (frame data)
  | AttributeType.frameType => half.map frameType
  | AttributeType.frameMatch => some (frameMatch data)
  | AttributeType.duration => word.map duration
  | AttributeType.cookie => long.map cookie
  | AttributeType.rxSignal => word.map fun n => rxSignalDbm n.toInt32
  | AttributeType.ack => some ack
  | AttributeType.offchannelTxOk => some offchannelTxOk
  | AttributeType.dontWaitForAck => some dontWaitForAck
  | AttributeType.splitWiphyDump => some splitWiphyDump
  | AttributeType.supportedIftypes =>
    (nested? data).map fun records => supportedIftypes (records.map fun r => ⟨r.type⟩)
  | AttributeType.wiphyBands => (nested? data).map fun records => wiphyBands records.length
  | AttributeType.stationInfo =>
    (nested? data).map fun records => stationInfo (records.map StationEntry.ofRecord)
  | _ => none

/-- The value of data of a type. -/
def decode (type : UInt16) (data : Bytes) : Attribute :=
  (typed? type data).getD (unknown type data)

/-- The value of a record. -/
def ofRecord (r : Record) : Attribute :=
  decode r.type r.data

/-! ### Writing -/

/-- The data of a value, nothing for values that only the kernel sends. Names end with a NUL. -/
def data? : Attribute → Option Bytes
  | wiphy n | ifindex n | wiphyFreq n | generation n | duration n =>
    some (LittleEndian.encode 4 n.toNat)
  | iftype type => some (LittleEndian.encode 4 type.code.toNat)
  | rxSignalDbm level => some (LittleEndian.encode 4 level.toUInt32.toNat)
  | wdev n | cookie n => some (LittleEndian.encode 8 n.toNat)
  | frameType control => some (LittleEndian.encode 2 control.toNat)
  | wiphyName name | ifname name => some (Utf8.encode name ++ [0])
  | mac address => some address.octets
  | frame octets | frameMatch octets => some octets
  | unknown _ data => some data
  | ack | offchannelTxOk | dontWaitForAck | splitWiphyDump => some []
  | supportedIftypes _ | wiphyBands _ | stationInfo _ => none

/-- The record of a value, or the failure for values that only the kernel sends. -/
def toRecord (a : Attribute) : Except Failure Record :=
  match a.data? with
  | some data => .ok ⟨a.type, data⟩
  | none => .error (.of (.replyOnly (AttributeType.name a.type)))

/-- The records of a list of values, or the failure of the first that cannot be sent. -/
def toRecords : List Attribute → Except Failure (List Record)
  | [] => .ok []
  | a :: rest => do
    let record ← a.toRecord
    let more ← toRecords rest
    return record :: more

end Attribute

end NeighborAwareness
