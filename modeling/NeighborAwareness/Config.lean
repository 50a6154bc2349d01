import NeighborAwareness.Note
import NeighborAwareness.Text.Blank
import NeighborAwareness.Text.Json
import NeighborAwareness.Text.Utf8

/-!
# Configuration

Every setting has a default. A configuration file overlays the defaults, and an environment
variable overlays one setting of the file.

## Main definitions

* `Setting` : what can be configured.
* `Config` : a value for every setting, with `Config.standard` the defaults.
* `Config.ofText?`, `Config.text` : reading a file and writing one.
* `Config.load` : file and environment together.

## Left out

Where the file is: the directory for configurations of the user, and no file if there is none.
-/

namespace NeighborAwareness

/-- What can be configured. -/
inductive Setting where
  /-- The channel of beacons and discovery frames, in MHz. -/
  | frequency
  /-- How long the radio stays on the channel after a beacon, in milliseconds. -/
  | beaconDwell
  | discoveryDwell
  | followUpDwell
  /-- The time between beacons, in microseconds. -/
  | beaconPeriod
  /-- The base of the names of monitor interfaces. -/
  | monitorName
  /-- How long a wait for events may last, in seconds. -/
  | eventDeadline
  /-- How many events may wait for the program. -/
  | queueLength
  deriving DecidableEq, Repr

namespace Setting

/-- All settings, in the order of a file. -/
def all : List Setting :=
  [frequency, beaconDwell, discoveryDwell, followUpDwell, beaconPeriod, monitorName, eventDeadline,
   queueLength]

/-- The key of a setting in a file. -/
def key : Setting → String
  | frequency => "frequency_mhz"
  | beaconDwell => "beacon_dwell_ms"
  | discoveryDwell => "discovery_dwell_ms"
  | followUpDwell => "followup_dwell_ms"
  | beaconPeriod => "beacon_period_us"
  | monitorName => "monitor_name"
  | eventDeadline => "event_deadline_secs"
  | queueLength => "event_queue_len"

/-- The setting with a key. -/
def ofKey? (key : List Char) : Option Setting :=
  all.find? fun s => s.key.toList == key

end Setting

/-- A value for every setting. -/
structure Config where
  frequency : UInt32
  beaconDwell : UInt32
  discoveryDwell : UInt32
  followUpDwell : UInt32
  beaconPeriod : UInt64
  monitorName : String
  eventDeadline : UInt64
  queueLength : UInt64
  deriving DecidableEq, Repr

/-- Why there is no configuration. -/
inductive ConfigError where
  /-- The file is not text. -/
  | unreadable
  /-- The file is no configuration. -/
  | invalid
  deriving DecidableEq, Repr

namespace Config

/-- The name of the configuration file. -/
def fileName : String := "nan-link.json"

/-- The environment variable that overlays the dwell time of follow-ups. -/
def stayVariable : String := "NAN_STAY"

/-- The defaults: channel 6, a beacon every 512 time units. -/
def standard : Config where
  frequency := 2437
  beaconDwell := 20
  discoveryDwell := 20
  followUpDwell := 30
  beaconPeriod := 512 * 1024
  monitorName := "nanmon0"
  eventDeadline := 5
  queueLength := 256

/-! ### Reading -/

/-- How many numbers have 32 bits. -/
def wordLimit : Nat := 0x100000000

/-- How many numbers have 64 bits. -/
def longLimit : Nat := 0x10000000000000000

/-- A number of 32 bits. -/
def word? (value : JsonValue) : Option UInt32 :=
  (value.natural? wordLimit).map UInt32.ofNat

/-- A number of 64 bits. -/
def long? (value : JsonValue) : Option UInt64 :=
  (value.natural? longLimit).map UInt64.ofNat

/-- The configuration with one setting changed, if the value suits it. -/
def assign? (c : Config) (value : JsonValue) : Setting → Option Config
  | .frequency => (word? value).map fun n => { c with frequency := n }
  | .beaconDwell => (word? value).map fun n => { c with beaconDwell := n }
  | .discoveryDwell => (word? value).map fun n => { c with discoveryDwell := n }
  | .followUpDwell => (word? value).map fun n => { c with followUpDwell := n }
  | .beaconPeriod => (long? value).map fun n => { c with beaconPeriod := n }
  | .monitorName => value.text?.map fun name => { c with monitorName := name }
  | .eventDeadline => (long? value).map fun n => { c with eventDeadline := n }
  | .queueLength => (long? value).map fun n => { c with queueLength := n }

/-- The configuration with the members of an object assigned. Keys of no setting are passed over,
whatever their value; each setting may be given once, `given` being those that were. -/
def assignMembers? (c : Config) (given : List Setting) :
    List (List StringPart × JsonValue) → Option Config
  | [] => some c
  | (parts, value) :: rest =>
    match JsonValue.characters? parts with
    | none => none
    | some key =>
      match Setting.ofKey? key with
      | none => c.assignMembers? given rest
      | some setting =>
        if setting ∈ given then none
        else
          match c.assign? value setting with
          | none => none
          | some c => c.assignMembers? (setting :: given) rest

/-- The configuration with settings assigned in their order. Fewer values leave the last settings
as they are, more are refused. -/
def assignItems? (c : Config) : List Setting → List JsonValue → Option Config
  | _, [] => some c
  | [], _ :: _ => none
  | setting :: settings, value :: values =>
    match c.assign? value setting with
    | none => none
    | some c => c.assignItems? settings values

/-- The defaults overlaid by a document: an object, or a list in the order of the settings. -/
def ofJson? : JsonValue → Option Config
  | .object members => standard.assignMembers? [] members
  | .list items => standard.assignItems? Setting.all items
  | _ => none

/-- The configuration of a file's text. -/
def ofText? (text : String) : Option Config :=
  (JsonValue.parse? text.toList).bind ofJson?

/-! ### Writing -/

/-- The value of a setting in a file. -/
def valueText (c : Config) : Setting → String
  | .frequency => toString c.frequency.toNat
  | .beaconDwell => toString c.beaconDwell.toNat
  | .discoveryDwell => toString c.discoveryDwell.toNat
  | .followUpDwell => toString c.followUpDwell.toNat
  | .beaconPeriod => toString c.beaconPeriod.toNat
  | .monitorName => JsonValue.quote c.monitorName
  | .eventDeadline => toString c.eventDeadline.toNat
  | .queueLength => toString c.queueLength.toNat

/-- The text of a file that gives every setting, without space. -/
def text (c : Config) : String :=
  let members := Setting.all.map fun s => JsonValue.quote s.key ++ ":" ++ c.valueText s
  "\x7b" ++ ",".intercalate members ++ "\x7d"

/-! ### The environment -/

/-- The dwell time that a text gives: a number of 32 bits, possibly with a plus sign, between
blanks. -/
def stay? (text : String) : Option UInt32 :=
  let digits := match Text.trim text.toList with
    | '+' :: rest => rest
    | rest => rest
  ((Decimal.read? digits).filter (· < wordLimit)).map UInt32.ofNat

/-- The configuration overlaid by the environment variable; a text that gives no dwell time is
noted. -/
def overlayStay (c : Config) : Option String → Config × List Note
  | none => (c, [])
  | some text =>
    match stay? text with
    | some ms => ({ c with followUpDwell := ms }, [])
    | none => (c, [.stayIgnored text])

/-- The configuration of a file, if there is one, and of the environment variable, if it is
set. -/
def load (file : Option Bytes) (stay : Option String) : Except ConfigError (Config × List Note) :=
  match file with
  | none => .ok (standard.overlayStay stay)
  | some bytes =>
    match Utf8.decode? bytes with
    | none => .error .unreadable
    | some text =>
      match ofText? text with
      | none => .error .invalid
      | some c => .ok (c.overlayStay stay)

end Config

end NeighborAwareness
