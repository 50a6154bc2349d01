import NeighborAwareness.Address
import NeighborAwareness.Failure

/-!
# Notes

Some of what happens shows only in what is logged. A note is one such entry, kept as the facts it
reports; those that are printed as a warning or an error also have a text.

## Main definitions

* `StatusFate` : what became of a transmit status.
* `Note` : one entry.
* `Note.printed?` : severity and text of a warning or an error.

## Left out

Entries that only say what the program is about to do, what it has just done without anything
depending on it, or what it received, have no note. Of a slow status the durations are left out, and
of any status whether the peer acknowledged the frame: the program only prints them.
-/

namespace NeighborAwareness

/-- What became of a transmit status. -/
inductive StatusFate where
  /-- It answered a send within the time limits. -/
  | onTime
  /-- It answered a send, and the send or the status took longer than the limits. -/
  | slow
  /-- No send was waiting for one. -/
  | unmatched
  /-- Its interface has no session. -/
  | noSession
  deriving DecidableEq, Repr

/-- One logged entry. -/
inductive Note where
  | txStatus (fate : StatusFate)
  /-- A send was dropped because the previous one was too recent. -/
  | suppressed
  | newSession
  /-- The record of an excursion on this frequency made way for another. -/
  | excursionReplaced (frequency : UInt32)
  | excursionEnded (frequency : UInt32)
  | excursionEndedUnrecorded
  /-- A frame wait was cancelled on an interface that has a session, or on another. -/
  | waitCancelled (hasSession : Bool)
  | frameReceived (index : UInt32) (frame : Bytes)
  | unhandledEvent
  /-- A radio message named no radio. -/
  | skippedRadio
  /-- An interface message had no index. -/
  | skippedDevice
  | noMonitorSupport (radio : String)
  | queueFull
  | queueClosed
  | sendFailed (ifname : String) (failure : Failure)
  /-- An interface could not be brought up; `created` when it had just been created. -/
  | bringUpFailed (created : Bool) (ifname : String) (failure : Failure)
  | creationFailed (failure : Failure)
  | frameDropped (transmitter : Address) (failure : Failure)
  | stayIgnored (text : String)
  | beaconFailed (ifname : String) (failure : Failure)
  /-- The kernel rejected a request that nobody waits for any more. -/
  | lateError (sequence : UInt32) (code : Int32)
  | requestFailed (request : String) (code : Int32)
  | eventSocketError (sequence : UInt32) (code : Int32)
  | eventUndecodable
  deriving DecidableEq, Repr

/-- How a note is printed. -/
inductive Severity where
  | warning
  | error
  deriving DecidableEq, Repr

/-- Severity and text of the notes that are printed as warnings or errors. -/
def Note.printed? : Note → Option (Severity × String)
  | sendFailed ifname failure =>
    some (.error, s!"Failed to send frame on {ifname}: {failure.chain}")
  | bringUpFailed created ifname failure =>
    some (if created then .error else .warning, s!"Failed to bring {ifname} up: {failure.chain}")
  | creationFailed failure => some (.error, failure.chain)
  | frameDropped transmitter failure =>
    some (.warning, s!"Dropping NAN frame from {transmitter.text}: {failure.message}")
  | stayIgnored text => some (.warning, s!"Ignoring NAN_STAY={text}, not a number")
  | beaconFailed ifname failure => some (.warning, s!"Beacon on {ifname} failed: {failure.chain}")
  | lateError sequence code =>
    some (.warning, s!"Late netlink error for seq {sequence.toNat}: {Errno.name code}")
  | requestFailed request code => some (.error, s!"{request} failed: {Errno.name code}")
  | eventSocketError sequence code =>
    some (.error, s!"nl80211 error on event socket, seq {sequence.toNat}: {Errno.name code}")
  | eventUndecodable => some (.warning, "Failed to decode nl80211 event")
  | _ => none

end NeighborAwareness
