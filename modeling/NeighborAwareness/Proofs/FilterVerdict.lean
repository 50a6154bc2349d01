import NeighborAwareness.Capture.PacketFilter
import NeighborAwareness.Frame.Layout

/-!
# Verdicts of the packet filter

The filter puts the radiotap length together from octets 2 and 3 of a packet, then compares one
word of the frame behind the header. Whatever the header, the verdict depends on these octets only.

## Main results

* `PacketFilter.run_networkFilter` : the verdict on a packet that has octets 2 and 3.
* `PacketFilter.run_networkFilter_of_network` : packets of the network are accepted.
-/

namespace NeighborAwareness.PacketFilter

/-- Two octets that the filter shifts and joins are the number they spell. -/
theorem toNat_join (low high : UInt8) :
    (low.toUInt32 ||| high.toUInt32 <<< 8).toNat = LittleEndian.decode [low, high] := by
  have hlow := low.toNat_lt
  have hhigh := high.toNat_lt
  have hshift : (high.toUInt32 <<< 8).toNat = high.toNat <<< 8 := by
    rw [UInt32.toNat_shiftLeft, UInt8.toNat_toUInt32]
    apply Nat.mod_eq_of_lt
    rw [show (8 : UInt32).toNat % 32 = 8 from rfl, Nat.shiftLeft_eq]
    omega
  rw [UInt32.toNat_or, hshift, UInt8.toNat_toUInt32, Nat.or_comm,
    ← Nat.shiftLeft_add_eq_or_of_lt hlow, Nat.shiftLeft_eq]
  simp only [LittleEndian.decode]
  omega

/-- The offset at which the filter looks for the network, behind the radiotap header. -/
theorem toNat_offset (low high : UInt8) :
    ((low.toUInt32 ||| high.toUInt32 <<< 8) + 16).toNat = LittleEndian.decode [low, high] + 16 := by
  have hlt := LittleEndian.decode_lt [low, high]
  simp only [List.length_cons, List.length_nil, LittleEndian.limit] at hlt
  rw [UInt32.toNat_add, toNat_join]
  apply Nat.mod_eq_of_lt
  change LittleEndian.decode [low, high] + 16 < 4294967296
  omega

theorem runFrom_loadOctet {packet : Bytes} {offset : UInt32} {octet : UInt8}
    (h : packet[offset.toNat]? = some octet) (accumulator index : UInt32)
    (rest : List FilterInstruction) :
    runFrom packet 0 accumulator index (.loadOctet offset :: rest)
      = runFrom packet 0 octet.toUInt32 index rest := by
  simp only [runFrom, h]

/-- The end of the filter accepts one word and refuses all others. -/
theorem runFrom_compare (packet : Bytes) (word index : UInt32) :
    runFrom packet 0 word index [.jumpIfEqual networkWord 0 1, .answer accepted, .answer 0]
      = if word = networkWord then accepted else 0 := by
  by_cases h : word = networkWord
  · simp [runFrom, h]
  · simp [runFrom, h]

/-- A word that is loaded and compared is accepted if it is the one looked for; a packet that has no
such word is refused. -/
theorem runFrom_loadWord (packet : Bytes) (accumulator index offset : UInt32) :
    runFrom packet 0 accumulator index
        [.loadWordFromIndex offset, .jumpIfEqual networkWord 0 1, .answer accepted, .answer 0]
      = if wordAt? packet (index + offset).toNat = some networkWord then accepted else 0 := by
  rw [runFrom]
  split <;> rename_i h
  · simp only [runFrom_compare, h, Option.some.injEq]
  · rw [h, if_neg (Option.some_ne_none networkWord).symm]

/-- The verdict on a packet that has octets 2 and 3: it is accepted if the word at the place of the
network identifier is the one looked for. -/
theorem run_networkFilter {packet : Bytes} {low high : UInt8} (hlow : packet[2]? = some low)
    (hhigh : packet[3]? = some high) :
    run networkFilter packet =
      if wordAt? packet (LittleEndian.decode [low, high] + Frame.networkOffset) = some networkWord
      then accepted else 0 := by
  rw [Frame.networkOffset, ← toNat_offset]
  calc run networkFilter packet
      = runFrom packet 0 high.toUInt32 0 (networkFilter.drop 1) := runFrom_loadOctet hhigh 0 0 _
    _ = runFrom packet 0 (high.toUInt32 <<< 8) (high.toUInt32 <<< 8) (networkFilter.drop 3) := rfl
    _ = runFrom packet 0 low.toUInt32 (high.toUInt32 <<< 8) (networkFilter.drop 4) :=
      runFrom_loadOctet hlow _ _ _
    _ = runFrom packet 0 (low.toUInt32 ||| high.toUInt32 <<< 8)
          (low.toUInt32 ||| high.toUInt32 <<< 8) (networkFilter.drop 6) := rfl
    _ = _ := runFrom_loadWord packet _ _ 16

/-- Packets in which the network identifier stands at its place are accepted. -/
theorem run_networkFilter_of_network {packet rest : Bytes} {low high : UInt8}
    (hlow : packet[2]? = some low) (hhigh : packet[3]? = some high)
    (hnetwork : packet.drop (LittleEndian.decode [low, high] + Frame.networkOffset)
      = Frame.networkId.octets ++ rest) :
    run networkFilter packet = accepted := by
  have hword : wordAt? packet (LittleEndian.decode [low, high] + Frame.networkOffset)
      = some networkWord := by
    simp only [wordAt?, hnetwork, Frame.networkId, List.cons_append]
    rfl
  rw [run_networkFilter hlow hhigh, if_pos hword]

end NeighborAwareness.PacketFilter
