import NeighborAwareness.Bytes.LittleEndian

/-!
# The packet filter

Monitor sockets carry a classic packet filter, a program that the kernel runs on every captured
packet. The one used here accepts frames whose network identifier begins with `50:6f:9a:01`. The
frame stands behind a radiotap header whose length is in its octets 2 and 3.

## Main definitions

* `FilterInstruction` : the instructions needed, with `FilterInstruction.words` as the kernel
  takes them.
* `PacketFilter.run` : what a program returns for a packet.
* `PacketFilter.networkFilter` : the program.
-/

namespace NeighborAwareness

/-- An instruction of a classic packet filter. The machine has an accumulator and an index. -/
inductive FilterInstruction where
  /-- The octet at a fixed offset goes to the accumulator. -/
  | loadOctet (offset : UInt32)
  /-- The big-endian word at an offset from the index goes to the accumulator. -/
  | loadWordFromIndex (offset : UInt32)
  | shiftLeft (bits : UInt32)
  /-- The accumulator goes to the index. -/
  | copyToIndex
  /-- The index is or-ed into the accumulator. -/
  | orIndex
  /-- Skips instructions, as the accumulator equals `value` or not. -/
  | jumpIfEqual (value : UInt32) (whenEqual whenNot : UInt8)
  /-- Ends with a verdict. -/
  | answer (value : UInt32)
  deriving DecidableEq, Repr

/-- An instruction in the form that the kernel takes. -/
structure FilterWords where
  code : UInt16
  whenEqual : UInt8
  whenNot : UInt8
  operand : UInt32
  deriving DecidableEq, Repr

/-- The form that the kernel takes. -/
def FilterInstruction.words : FilterInstruction → FilterWords
  | loadOctet offset => ⟨0x30, 0, 0, offset⟩
  | loadWordFromIndex offset => ⟨0x40, 0, 0, offset⟩
  | shiftLeft bits => ⟨0x64, 0, 0, bits⟩
  | copyToIndex => ⟨0x07, 0, 0, 0⟩
  | orIndex => ⟨0x4C, 0, 0, 0⟩
  | jumpIfEqual value whenEqual whenNot => ⟨0x15, whenEqual, whenNot, value⟩
  | answer value => ⟨0x06, 0, 0, value⟩

namespace PacketFilter

/-- The big-endian word at an offset, nothing when it reaches past the end. -/
def wordAt? (packet : Bytes) (offset : Nat) : Option UInt32 :=
  match packet.drop offset with
  | a :: b :: c :: d :: _ => some (UInt32.ofNat (LittleEndian.decode [d, c, b, a]))
  | _ => none

/-- Runs `program` after skipping its first `skip` instructions, from the given accumulator and
index. A load past the end of the packet, and the end of the program, answer zero. -/
def runFrom (packet : Bytes) (skip : Nat) (accumulator index : UInt32) :
    List FilterInstruction → UInt32
  | [] => 0
  | instruction :: rest =>
    match skip with
    | skip + 1 => runFrom packet skip accumulator index rest
    | 0 =>
      match instruction with
      | .loadOctet offset =>
        match packet[offset.toNat]? with
        | some b => runFrom packet 0 b.toUInt32 index rest
        | none => 0
      | .loadWordFromIndex offset =>
        match wordAt? packet (index + offset).toNat with
        | some word => runFrom packet 0 word index rest
        | none => 0
      | .shiftLeft bits => runFrom packet 0 (accumulator <<< bits) index rest
      | .copyToIndex => runFrom packet 0 accumulator accumulator rest
      | .orIndex => runFrom packet 0 (accumulator ||| index) index rest
      | .jumpIfEqual value whenEqual whenNot =>
        let jump := if accumulator = value then whenEqual else whenNot
        runFrom packet jump.toNat accumulator index rest
      | .answer value => value

/-- What a program answers for a packet; accumulator and index start at zero. -/
def run (program : List FilterInstruction) (packet : Bytes) : UInt32 :=
  runFrom packet 0 0 0 program

/-- The first four octets of the network identifier, as a big-endian word. -/
def networkWord : UInt32 := 0x506F9A01

/-- The answer for accepted frames: how many octets are kept, more than any capture has. -/
def accepted : UInt32 := 0x00040000

/-- Accepts packets whose frame carries the network identifier. -/
def networkFilter : List FilterInstruction :=
  [.loadOctet 3,
   .shiftLeft 8,
   .copyToIndex,
   .loadOctet 2,
   .orIndex,
   .copyToIndex,
   .loadWordFromIndex 16,
   .jumpIfEqual networkWord 0 1,
   .answer accepted,
   .answer 0]

end PacketFilter

end NeighborAwareness
