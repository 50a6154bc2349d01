import NeighborAwareness.Directory.Keyed
import NeighborAwareness.Nl80211.Event
import NeighborAwareness.Note

/-!
# Radios

The kernel may describe one radio in several messages. They are put together by the number of the
radio.

## Main definitions

* `Radio` : a radio.
* `Radio.merge` : what a message adds to the description of a radio.
* `Radio.ofRows` : the radios that messages describe.
-/

namespace NeighborAwareness

/-- A radio. -/
structure Radio where
  id : UInt32
  name : String
  types : List InterfaceType
  /-- How many bands the messages counted. Each takes at least four octets of one, so their number
  fits the word of any machine that can hold the messages. -/
  bands : Nat
  /-- Whether frames may be sent on other channels than the operating one. -/
  offchannel : Bool
  deriving DecidableEq, Repr

namespace Radio

/-- A radio of which nothing is known. -/
def blank : Radio :=
  ⟨0, "", [], 0, false⟩

/-- Whether the radio can have a monitor interface. -/
def supportsMonitor (r : Radio) : Bool :=
  r.types.contains .monitor

/-- What one attribute says about a radio. Bands add up over the messages. -/
def learn (r : Radio) : Attribute → Radio
  | .wiphy id => { r with id }
  | .wiphyName name => { r with name }
  | .supportedIftypes types => { r with types }
  | .wiphyBands count => { r with bands := r.bands + count }
  | .offchannelTxOk => { r with offchannel := true }
  | _ => r

/-- The radio after a message about it. -/
def merge (r : Radio) (row : List Attribute) : Radio :=
  row.foldl learn r

/-- The radio a message is about. -/
def idOf? (row : List Attribute) : Option UInt32 :=
  row.findSome? Attribute.wiphy?

/-- The table after one more message; messages about no radio are noted. -/
def addRow (found : Keyed Radio × List Note) (row : List Attribute) : Keyed Radio × List Note :=
  match idOf? row with
  | none => (found.1, found.2 ++ [.skippedRadio])
  | some id => (found.1.alter id fun known => (known.getD blank).merge row, found.2)

/-- The radios that messages describe, in ascending order. -/
def ofRows (rows : List (List Attribute)) : List Radio × List Note :=
  let (table, notes) := rows.foldl addRow ([], [])
  (table.values, notes)

end Radio

end NeighborAwareness
