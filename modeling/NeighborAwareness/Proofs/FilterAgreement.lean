import NeighborAwareness.Capture.Monitor
import NeighborAwareness.Proofs.Classification

/-!
# The packet filter and the decoder read the same network

The kernel runs the packet filter on every packet before a pipeline sees it. The filter goes by the
length in octets 2 and 3 alone, whatever fields the radiotap header has and whether a checksum ends
the frame. All the same its verdict on a packet with a management header depends only on the network
that the pipeline decodes from it. A packet that is too short for the network is refused.

## Main results

* `PacketFilter.wordAt?_eq_some_iff` : a word is the four octets that spell it.
* `PacketFilter.run_networkFilter_eq_ite` : the verdict on a packet, by four of its octets.
* `PacketFilter.network_of_run_ne_zero` : what a packet that is not refused has.
* `Pipeline.decodes_iff` : which packets have a management header.
* `Pipeline.network_of_decoded` : where the octets of the decoded network stand in the packet.
* `PacketFilter.verdict_follows_decoded_network` : the verdict and the decoded network.
-/

namespace NeighborAwareness

theorem LittleEndian.decode_inj {s t : Bytes} (h : s.length = t.length) :
    decode s = decode t ↔ s = t := by
  refine ⟨fun hdecode => ?_, congrArg decode⟩
  rw [← encode_decode s, ← encode_decode t, h, hdecode]

namespace PacketFilter

variable {packet : Bytes}

/-! ### Verdicts by octets -/

/-- A word is found where its octets stand, the highest first. -/
theorem wordAt?_eq_some_iff (packet : Bytes) (offset : Nat) (a b c d : UInt8) :
    wordAt? packet offset = some (UInt32.ofNat (LittleEndian.decode [d, c, b, a]))
      ↔ (packet.drop offset).take 4 = [a, b, c, d] := by
  have hlt (s : Bytes) (hs : s.length = 4) : LittleEndian.decode s < UInt32.size := by
    have h := LittleEndian.decode_lt s
    rwa [hs] at h
  rw [wordAt?]
  split
  · next w x y z rest heq =>
    have htake : (w :: x :: y :: z :: rest).take 4 = [w, x, y, z] := rfl
    have hspell := LittleEndian.decode_inj (s := [z, y, x, w]) (t := [d, c, b, a]) rfl
    rw [heq, htake, Option.some.injEq, ← UInt32.toNat_inj,
      UInt32.toNat_ofNat_of_lt' (hlt [z, y, x, w] rfl),
      UInt32.toNat_ofNat_of_lt' (hlt [d, c, b, a] rfl), hspell]
    simp only [List.cons.injEq, and_true]
    constructor <;> rintro ⟨rfl, rfl, rfl, rfl⟩ <;> exact ⟨rfl, rfl, rfl, rfl⟩
  · next hshort =>
    refine iff_of_false (Option.some_ne_none _).symm fun htake => ?_
    obtain ⟨rest, hrest⟩ : [a, b, c, d] <+: packet.drop offset := htake ▸ List.take_prefix 4 _
    exact hshort a b c d rest hrest.symm

theorem wordAt?_eq_networkWord_iff (packet : Bytes) (offset : Nat) :
    wordAt? packet offset = some networkWord
      ↔ (packet.drop offset).take 4 = [0x50, 0x6F, 0x9A, 0x01] :=
  wordAt?_eq_some_iff packet offset 0x50 0x6F 0x9A 0x01

/-- The verdict on a packet that has octets 2 and 3, by the octets at the place of the network
identifier. -/
theorem run_networkFilter_eq_ite {low high : UInt8} (hlow : packet[2]? = some low)
    (hhigh : packet[3]? = some high) :
    run networkFilter packet =
      if (packet.drop (LittleEndian.decode [low, high] + 16)).take 4 = [0x50, 0x6F, 0x9A, 0x01]
      then accepted else 0 := by
  rw [run_networkFilter hlow hhigh]
  exact if_congr (wordAt?_eq_networkWord_iff packet _) rfl rfl

theorem run_networkFilter_of_short (h : packet[3]? = none) : run networkFilter packet = 0 := by
  rw [run, networkFilter, runFrom]
  simp only [UInt32.reduceToNat, h]

/-- A packet of which something is kept has the network identifier at its place. -/
theorem network_of_run_ne_zero (h : run networkFilter packet ≠ 0) :
    ∃ low high, packet[2]? = some low ∧ packet[3]? = some high
      ∧ (packet.drop (LittleEndian.decode [low, high] + 16)).take 4 = [0x50, 0x6F, 0x9A, 0x01] := by
  cases hhigh : packet[3]? with
  | none => exact absurd (run_networkFilter_of_short hhigh) h
  | some high =>
    obtain ⟨hlength, -⟩ := List.getElem?_eq_some_iff.1 hhigh
    have hlow : packet[2]? = some packet[2] := List.getElem?_eq_getElem (by omega)
    refine ⟨packet[2], high, hlow, rfl, ?_⟩
    rw [run_networkFilter_eq_ite hlow hhigh] at h
    exact of_not_not fun hnot => h (if_neg hnot)

end PacketFilter

/-! ### Decoded networks -/

namespace Pipeline

variable {packet frame : Bytes}

/-- The frame of a packet is what is left of it behind the radiotap header. -/
theorem frame?_eq_some_iff :
    frame? packet = some frame ↔ ∃ radiotap, RadiotapHeader.ofBytes? packet = some radiotap
      ∧ frame = (packet.drop radiotap.length).take (radiotap.left packet) := by
  rw [frame?]
  cases hradiotap : RadiotapHeader.ofBytes? packet with
  | none => simp
  | some radiotap =>
    simp only [Option.some.injEq, exists_eq_left', RadiotapHeader.left, checksumLength]
    cases radiotap.checksum with
    | true => simp [eq_comm]
    | false =>
      have hall : (packet.drop radiotap.length).take (packet.length - radiotap.length)
          = packet.drop radiotap.length :=
        List.take_of_length_le (Nat.le_of_eq (List.length_drop ..))
      simp [hall, eq_comm]

theorem length_frame {radiotap : RadiotapHeader} :
    ((packet.drop radiotap.length).take (radiotap.left packet)).length = radiotap.left packet := by
  have hle : radiotap.left packet ≤ packet.length - radiotap.length := Nat.sub_le ..
  rw [List.length_take, List.length_drop, Nat.min_eq_left hle]

end Pipeline

/-- A management header decodes from a frame that is long enough, and its network is the octets 16
to 21. -/
theorem FrameHeader.network_of_ofBytes? {frame : Bytes} {header : FrameHeader}
    (h : ofBytes? frame = some header) :
    24 ≤ frame.length ∧ header.network.octets = (frame.drop 16).take 6 := by
  rw [ofBytes?] at h
  split at h
  · cases h
  · next hlength =>
    simp only [Option.bind_eq_bind, Option.bind_eq_some_iff, Option.pure_def,
      Option.some.injEq] at h
    obtain ⟨control, -, receiver, -, transmitter, -, network, hnetwork, rfl⟩ := h
    refine ⟨Nat.le_of_not_lt hlength, ?_⟩
    rw [Address.ofBytes?, Option.dite_none_right_eq_some] at hnetwork
    obtain ⟨hsix, hoctets⟩ := hnetwork
    rw [← Option.some.inj hoctets]
    rfl

namespace Pipeline

variable {packet frame : Bytes} {header : FrameHeader}

/-- A packet has a management header just if its radiotap header decodes and enough octets are left
of it. -/
theorem decodes_iff :
    (∃ frame header, frame? packet = some frame ∧ FrameHeader.ofBytes? frame = some header)
      ↔ ∃ radiotap, RadiotapHeader.ofBytes? packet = some radiotap
        ∧ 24 ≤ radiotap.left packet := by
  constructor
  · rintro ⟨frame, header, hframe, hheader⟩
    obtain ⟨radiotap, hradiotap, rfl⟩ := frame?_eq_some_iff.1 hframe
    exact ⟨radiotap, hradiotap, length_frame ▸ (FrameHeader.network_of_ofBytes? hheader).1⟩
  · rintro ⟨radiotap, hradiotap, hleft⟩
    obtain ⟨control, transmitter, body, hparts⟩ :=
      IsFrame.exists_of_length (length_frame.symm ▸ hleft)
    obtain ⟨receiver, network, hheader⟩ := hparts.ofBytes?
    exact ⟨_, _, frame?_eq_some_iff.2 ⟨radiotap, hradiotap, rfl⟩, hheader⟩

/-- The decoded network begins with the octets that the filter looks at. -/
theorem network_of_decoded (hframe : frame? packet = some frame)
    (hheader : FrameHeader.ofBytes? frame = some header) :
    ∃ low high, packet[2]? = some low ∧ packet[3]? = some high
      ∧ header.network.octets.take 4
        = (packet.drop (LittleEndian.decode [low, high] + 16)).take 4 := by
  obtain ⟨radiotap, hradiotap, rfl⟩ := frame?_eq_some_iff.1 hframe
  obtain ⟨hlength, hnetwork⟩ := FrameHeader.network_of_ofBytes? hheader
  obtain ⟨low, high, hlow, hhigh, hdecode⟩ := RadiotapHeader.length_of_ofBytes? hradiotap
  refine ⟨low, high, hlow, hhigh, ?_⟩
  -- The checksum is cut off behind the network.
  have hbehind : 4 ≤ radiotap.left packet - 16 := by
    rw [length_frame] at hlength
    omega
  rw [hnetwork, ← hdecode, List.take_take, show min 4 6 = 4 from rfl, List.drop_take,
    List.drop_drop, List.take_take, Nat.min_eq_left hbehind]

end Pipeline

/-- A packet that a monitor captures is cut to the largest size. -/
theorem Monitor.length_le_of_receive {m after : Monitor} {packet : Bytes}
    (h : m.receive = (.ok packet, after)) : packet.length ≤ maxPacket := by
  simp only [receive, Prod.mk.injEq] at h
  obtain ⟨hpacket, -⟩ := h
  split at hpacket
  · rw [← Except.ok.inj hpacket]
    exact List.length_take_le ..
  · cases hpacket

namespace PacketFilter

/-- The verdict on a packet follows the network that is decoded from it. A packet has a management
header just if its radiotap header decodes and at least 24 octets are left behind that and in front
of an announced checksum; then it is accepted if the network begins with the octets that are looked
for, and refused otherwise. Whatever the packet, it is accepted only if it has 20 octets behind the
length in its octets 2 and 3. What is kept of an accepted packet is more than any monitor
captures. -/
theorem verdict_follows_decoded_network (packet : Bytes) :
    ((∃ frame header, Pipeline.frame? packet = some frame
        ∧ FrameHeader.ofBytes? frame = some header)
      ↔ ∃ radiotap, RadiotapHeader.ofBytes? packet = some radiotap
        ∧ 24 ≤ packet.length - radiotap.length - if radiotap.checksum then 4 else 0)
    ∧ (∀ frame header, Pipeline.frame? packet = some frame →
      FrameHeader.ofBytes? frame = some header →
      (run networkFilter packet = accepted
          ↔ header.network.octets.take 4 = [0x50, 0x6F, 0x9A, 0x01])
        ∧ (run networkFilter packet ≠ accepted → run networkFilter packet = 0))
    ∧ (run networkFilter packet = accepted →
      ∃ low high, packet[2]? = some low ∧ packet[3]? = some high
        ∧ LittleEndian.decode [low, high] + 20 ≤ packet.length)
    ∧ ∀ m after : Monitor, m.receive = (.ok packet, after) → packet.length < accepted.toNat := by
  refine ⟨Pipeline.decodes_iff, fun frame header hframe hheader => ?_, fun haccepted => ?_,
    fun m after hreceive => ?_⟩
  · obtain ⟨low, high, hlow, hhigh, hnetwork⟩ := Pipeline.network_of_decoded hframe hheader
    rw [run_networkFilter_eq_ite hlow hhigh, ← hnetwork]
    split <;> rename_i h
    · exact ⟨iff_of_true rfl h, fun hne => absurd rfl hne⟩
    · exact ⟨iff_of_false (by decide) h, fun _ => rfl⟩
  · have hkept : run networkFilter packet ≠ 0 := by rw [haccepted]; decide
    obtain ⟨low, high, hlow, hhigh, hnetwork⟩ := network_of_run_ne_zero hkept
    have hlength := congrArg List.length hnetwork
    rw [List.length_take, List.length_drop] at hlength
    refine ⟨low, high, hlow, hhigh, ?_⟩
    simp only [List.length_cons, List.length_nil] at hlength
    omega
  · exact Nat.lt_of_le_of_lt (Monitor.length_le_of_receive hreceive) (by decide)

end PacketFilter

end NeighborAwareness
