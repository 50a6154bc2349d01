/-!
# Numbers of the radio interface

The kernel's radio interface, nl80211, numbers its commands, attributes, interface types and
station entries. The enumerations are open: the kernel may send numbers that have no name here.

## Main definitions

* `Command`, `InterfaceType` : numbers that are values of their own.
* `AttributeType`, `StationEntryType` : the numbers of attributes and of station entries.
* `Code.name` : the name of a number in a table.
-/

namespace NeighborAwareness

namespace Code

/-- The name of a number in `table`; a number without one names itself. -/
def name (table : List (Nat × String)) (number : Nat) : String :=
  (table.lookup number).getD s!"UnrecognizedConst({number})"

/-- Whether a number has a name in `table`. -/
def isNamed (table : List (Nat × String)) (number : Nat) : Bool :=
  (table.lookup number).isSome

end Code

/-- A command of the radio interface. -/
structure Command where
  code : UInt8
  deriving DecidableEq, Repr

namespace Command

/-- The commands that have a name. -/
def table : List (Nat × String) :=
  [(0, "Unspecified"), (1, "GetWiPhy"), (2, "SetWiPhy"), (3, "NewWiPhy"), (4, "DelWiPhy"),
   (5, "GetInterface"), (6, "SetInterface"), (7, "NewInterface"), (8, "DelInterface"),
   (17, "GetStation"), (18, "SetStation"), (19, "NewStation"), (20, "DelStation"),
   (33, "TriggerScan"), (34, "NewScanResults"), (55, "RemainOnChannel"),
   (56, "CancelRemainOnChannel"), (58, "RegisterFrame"), (59, "Frame"), (60, "FrameTxStatus"),
   (64, "NotifyCqm"), (67, "FrameWaitCancel")]

/-- The name of a command. -/
def name (c : Command) : String :=
  Code.name table c.code.toNat

/-- Asks for the radios. -/
def getRadio : Command := ⟨1⟩
/-- Answers `getRadio`. -/
def newRadio : Command := ⟨3⟩
/-- Asks for the interfaces. -/
def getInterface : Command := ⟨5⟩
/-- Creates an interface, and answers `getInterface`. -/
def newInterface : Command := ⟨7⟩
def deleteInterface : Command := ⟨8⟩
/-- Asks for the stations that an interface knows. -/
def getStation : Command := ⟨17⟩
/-- Answers `getStation`. -/
def newStation : Command := ⟨19⟩
/-- Asks for an excursion to a channel, and announces its start. -/
def remainOnChannel : Command := ⟨55⟩
/-- Announces the end of an excursion. -/
def cancelRemainOnChannel : Command := ⟨56⟩
/-- Asks for received frames to be delivered. -/
def registerFrame : Command := ⟨58⟩
/-- Sends a frame, and delivers a received one. -/
def frame : Command := ⟨59⟩
/-- Announces what became of a frame sent. -/
def frameStatus : Command := ⟨60⟩
/-- Announces that waiting for an answer to a frame ended. -/
def frameWaitCancel : Command := ⟨67⟩

end Command

/-- The type of an interface. -/
structure InterfaceType where
  code : UInt16
  deriving DecidableEq, Repr

namespace InterfaceType

/-- The interface types that have a name. -/
def table : List (Nat × String) :=
  [(0, "IftypeUnspecified"), (1, "IftypeAdhoc"), (2, "IftypeStation"), (3, "IftypeAp"),
   (4, "IftypeApVlan"), (5, "IftypeWds"), (6, "IftypeMonitor"), (7, "IftypeMeshPoint"),
   (8, "IftypeP2pClient"), (9, "IftypeP2pGo"), (10, "IftypeP2pDevice"), (11, "IftypeOcb"),
   (12, "IftypeNan")]

def unspecified : InterfaceType := ⟨0⟩
def monitor : InterfaceType := ⟨6⟩

end InterfaceType

namespace AttributeType

/-- The attributes that have a name. -/
def table : List (Nat × String) :=
  [(0, "Unspecified"), (1, "Wiphy"), (2, "WiphyName"), (3, "Ifindex"), (4, "Ifname"),
   (5, "Iftype"), (6, "Mac"), (21, "StaInfo"), (22, "WiphyBands"), (32, "SupportedIftypes"),
   (38, "WiphyFreq"), (39, "WiphyChannelType"), (46, "Generation"), (51, "Frame"),
   (87, "Duration"), (88, "Cookie"), (91, "FrameMatch"), (92, "Ack"), (98, "WiphyTxPowerLevel"),
   (99, "TxFrameTypes"), (100, "RxFrameTypes"), (101, "FrameType"), (108, "OffchannelTxOk"),
   (120, "InterfaceCombinations"), (121, "SoftwareIftypes"), (142, "DontWaitForAck"),
   (151, "RxSignalDbm"), (153, "Wdev"), (174, "SplitWiphyDump")]

@[match_pattern] def wiphy : UInt16 := 1
@[match_pattern] def wiphyName : UInt16 := 2
@[match_pattern] def ifindex : UInt16 := 3
@[match_pattern] def ifname : UInt16 := 4
@[match_pattern] def iftype : UInt16 := 5
@[match_pattern] def mac : UInt16 := 6
@[match_pattern] def stationInfo : UInt16 := 21
@[match_pattern] def wiphyBands : UInt16 := 22
@[match_pattern] def supportedIftypes : UInt16 := 32
@[match_pattern] def wiphyFreq : UInt16 := 38
@[match_pattern] def generation : UInt16 := 46
@[match_pattern] def frame : UInt16 := 51
@[match_pattern] def duration : UInt16 := 87
@[match_pattern] def cookie : UInt16 := 88
@[match_pattern] def frameMatch : UInt16 := 91
@[match_pattern] def ack : UInt16 := 92
@[match_pattern] def frameType : UInt16 := 101
@[match_pattern] def offchannelTxOk : UInt16 := 108
@[match_pattern] def dontWaitForAck : UInt16 := 142
@[match_pattern] def rxSignal : UInt16 := 151
@[match_pattern] def wdev : UInt16 := 153
@[match_pattern] def splitWiphyDump : UInt16 := 174

/-- The name of an attribute. -/
def name (type : UInt16) : String :=
  Code.name table type.toNat

end AttributeType

namespace StationEntryType

/-- The station entries that have a name. -/
def table : List (Nat × String) :=
  [(0, "Invalid"), (1, "InactiveTime"), (2, "RxBytes"), (3, "TxBytes"), (7, "Signal"),
   (9, "RxPackets"), (10, "TxPackets"), (11, "TxRetries"), (12, "TxFailed"),
   (16, "ConnectedTime"), (18, "BeaconLoss"), (23, "RxBytes64"), (24, "TxBytes64")]

@[match_pattern] def inactiveTime : UInt16 := 1
@[match_pattern] def rxBytes : UInt16 := 2
@[match_pattern] def txBytes : UInt16 := 3
@[match_pattern] def signal : UInt16 := 7
@[match_pattern] def rxPackets : UInt16 := 9
@[match_pattern] def txPackets : UInt16 := 10
@[match_pattern] def txRetries : UInt16 := 11
@[match_pattern] def txFailed : UInt16 := 12
@[match_pattern] def connectedTime : UInt16 := 16
@[match_pattern] def beaconLoss : UInt16 := 18
@[match_pattern] def rxBytes64 : UInt16 := 23
@[match_pattern] def txBytes64 : UInt16 := 24

end StationEntryType

/-- Frame control of the action frames that delivery is asked for. -/
def actionFrameType : UInt16 := 0x00D0

/-- The name of the radio interface among the kernel's generic netlink families. -/
def familyName : String := "nl80211"

/-- The groups of events that are listened to. -/
def eventGroups : List String :=
  ["config", "scan", "regulatory", "mlme", "vendor", "nan"]

end NeighborAwareness
