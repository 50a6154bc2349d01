import NeighborAwareness.Address
import NeighborAwareness.Bytes.Basic
import NeighborAwareness.Bytes.Hex
import NeighborAwareness.Bytes.LittleEndian
import NeighborAwareness.Capture.Collector
import NeighborAwareness.Capture.Event
import NeighborAwareness.Capture.Monitor
import NeighborAwareness.Capture.PacketFilter
import NeighborAwareness.Capture.Pipeline
import NeighborAwareness.Capture.Radiotap
import NeighborAwareness.Capture.Sighting
import NeighborAwareness.Config
import NeighborAwareness.Directory.Basic
import NeighborAwareness.Directory.Excursion
import NeighborAwareness.Directory.Interface
import NeighborAwareness.Directory.Keyed
import NeighborAwareness.Directory.Monitors
import NeighborAwareness.Directory.Radio
import NeighborAwareness.Directory.Station
import NeighborAwareness.Element
import NeighborAwareness.Errno
import NeighborAwareness.Failure
import NeighborAwareness.Frame.Beacon
import NeighborAwareness.Frame.Discovery
import NeighborAwareness.Frame.FollowUp
import NeighborAwareness.Frame.Header
import NeighborAwareness.Frame.Layout
import NeighborAwareness.Host.Basic
import NeighborAwareness.Host.SystemCall
import NeighborAwareness.Link
import NeighborAwareness.Netlink.Connection
import NeighborAwareness.Netlink.Exchange
import NeighborAwareness.Netlink.Family
import NeighborAwareness.Netlink.Generic
import NeighborAwareness.Netlink.Mailbox
import NeighborAwareness.Netlink.Message
import NeighborAwareness.Netlink.Record
import NeighborAwareness.Nl80211.Attribute
import NeighborAwareness.Nl80211.Code
import NeighborAwareness.Nl80211.Event
import NeighborAwareness.Nl80211.StationEntry
import NeighborAwareness.Note
import NeighborAwareness.Session.Basic
import NeighborAwareness.Session.Beaconing
import NeighborAwareness.Session.Registry
import NeighborAwareness.Text.Blank
import NeighborAwareness.Text.Decimal
import NeighborAwareness.Text.Json
import NeighborAwareness.Text.Utf8
import NeighborAwareness.Proofs.Elements
import NeighborAwareness.Proofs.FilterVerdict
import NeighborAwareness.Proofs.Reception
import NeighborAwareness.Proofs.Delivery
import NeighborAwareness.Proofs.OwnAnswers
import NeighborAwareness.Proofs.Datagrams
import NeighborAwareness.Proofs.Listening
import NeighborAwareness.Proofs.Undecodable
import NeighborAwareness.Proofs.FirstSightings
import NeighborAwareness.Proofs.SendRuns
import NeighborAwareness.Proofs.Suppression
import NeighborAwareness.Proofs.StatusAttribution
import NeighborAwareness.Proofs.ExcursionHistory
import NeighborAwareness.Proofs.ElementCodec
import NeighborAwareness.Proofs.ExcursionEnds
import NeighborAwareness.Proofs.ExcursionAnswers
import NeighborAwareness.Proofs.RequestCodec
import NeighborAwareness.Proofs.SendBookkeeping
import NeighborAwareness.Proofs.SharedRegistry
import NeighborAwareness.Proofs.QueuedSightings
import NeighborAwareness.Proofs.ReceivingEnd
import NeighborAwareness.Proofs.SightingTimes
import NeighborAwareness.Proofs.Enumerations
import NeighborAwareness.Proofs.EventEffects
import NeighborAwareness.Proofs.RadioDumps
import NeighborAwareness.Proofs.EventDelivery
import NeighborAwareness.Proofs.Classification
import NeighborAwareness.Proofs.FilterAgreement
import NeighborAwareness.Proofs.NestedRecords
import NeighborAwareness.Proofs.MonitorSupply
import NeighborAwareness.Proofs.FrameReuse
import NeighborAwareness.Proofs.FramesOnAir
import NeighborAwareness.Proofs.SendPauses
import NeighborAwareness.Proofs.FixedWidth
import NeighborAwareness.Proofs.ForeignAttributes
import NeighborAwareness.Proofs.FamilyLookup
import NeighborAwareness.Proofs.StationCounters
import NeighborAwareness.Proofs.BeaconContents
import NeighborAwareness.Proofs.ConfigOverlay
import NeighborAwareness.Proofs.MonitorNames
import NeighborAwareness.Proofs.CaptureLoop
import NeighborAwareness.Proofs.Acknowledgements
import NeighborAwareness.Proofs.BeaconTicks
