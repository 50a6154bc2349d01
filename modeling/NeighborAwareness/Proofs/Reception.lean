import NeighborAwareness.Capture.Pipeline
import NeighborAwareness.Proofs.Elements
import NeighborAwareness.Proofs.FilterVerdict

/-!
# Captured frames

A monitor hands a frame over behind a radiotap header, and with a checksum behind it if the header
says so. The packet filter and the pipelines find the frame again, whatever the header, and the
header of a frame that was laid out decodes to what it was laid out from.

## Main definitions

* `Captured` : a packet in which a monitor captured a frame.
* `Surfaces` : every capture of a frame yields given elements from a given transmitter.

## Main results

* `FrameHeader.ofBytes?_managementHeader` : a management header decodes.
* `Pipeline.frame?_of_captured` : a pipeline finds the captured frame.
* `PacketFilter.run_networkFilter_of_header`, `Captured.run_networkFilter` : frames of the network are
  accepted behind any header.
* `surfaces_actionHead` : an action frame with elements behind its head surfaces them.
-/

namespace NeighborAwareness

/-! ### Management headers -/

theorem Address.drop_octets_append (a : Address) (rest : Bytes) :
    (a.octets ++ rest).drop 6 = rest := by
  rw [← a.length_octets, List.drop_left]

namespace Frame

variable (first second : UInt8) (receiver source : Address) (body : Bytes)

theorem drop_receiverOffset :
    (managementHeader [first, second] receiver source ++ body).drop receiverOffset
      = receiver.octets ++ (source.octets ++ (networkId.octets ++ ([0x00, 0x00] ++ body))) := by
  simp only [managementHeader, receiverOffset, List.append_assoc, List.cons_append,
    List.nil_append, List.drop_succ_cons, List.drop_zero]

theorem drop_sourceOffset :
    (managementHeader [first, second] receiver source ++ body).drop sourceOffset
      = source.octets ++ (networkId.octets ++ ([0x00, 0x00] ++ body)) := by
  rw [show sourceOffset = receiverOffset + 6 from rfl, ← List.drop_drop, drop_receiverOffset,
    Address.drop_octets_append]

theorem drop_networkOffset :
    (managementHeader [first, second] receiver source ++ body).drop networkOffset
      = networkId.octets ++ ([0x00, 0x00] ++ body) := by
  rw [show networkOffset = sourceOffset + 6 from rfl, ← List.drop_drop, drop_sourceOffset,
    Address.drop_octets_append]

theorem drop_headerLength :
    (managementHeader [first, second] receiver source ++ body).drop headerLength = body := by
  rw [show headerLength = networkOffset + 6 + 2 from rfl, ← List.drop_drop, ← List.drop_drop,
    drop_networkOffset, Address.drop_octets_append]
  rfl

theorem length_managementHeader :
    (managementHeader [first, second] receiver source).length = headerLength := by
  simp only [managementHeader, List.length_append, receiver.length_octets, source.length_octets,
    networkId.length_octets]
  rfl

end Frame

/-- A management header decodes to what it was laid out from. -/
theorem FrameHeader.ofBytes?_managementHeader (first second : UInt8) (receiver source : Address)
    (body : Bytes) :
    ofBytes? (Frame.managementHeader [first, second] receiver source ++ body)
      = some ⟨.ofControl first, receiver, source, Frame.networkId⟩ := by
  have hlength :
      ¬ (Frame.managementHeader [first, second] receiver source ++ body).length
        < Frame.headerLength := by
    rw [List.length_append, Frame.length_managementHeader]
    omega
  have hhead : (Frame.managementHeader [first, second] receiver source ++ body).head?
      = some first := rfl
  rw [ofBytes?, if_neg hlength, Frame.drop_receiverOffset, Frame.drop_sourceOffset,
    Frame.drop_networkOffset, hhead, Address.ofBytes?_append, Address.ofBytes?_append,
    Address.ofBytes?_append]
  rfl

/-! ### Packets -/

/-- The length in a radiotap header stands in octets 2 and 3 of the packet. -/
theorem RadiotapHeader.length_of_ofBytes? {packet : Bytes} {header : RadiotapHeader}
    (h : ofBytes? packet = some header) :
    ∃ low high, packet[2]? = some low ∧ packet[3]? = some high ∧
      header.length = LittleEndian.decode [low, high] := by
  unfold ofBytes? at h
  split at h
  · rename_i low high rest
    refine ⟨low, high, rfl, rfl, ?_⟩
    dsimp only at h
    split at h
    · simp at h
    · simp only [Option.bind_eq_bind, Option.bind_eq_some_iff, Option.pure_def,
        Option.some.injEq] at h
      obtain ⟨_, _, _, _, rfl⟩ := h
      rfl
  · simp at h

/-- A packet in which a monitor captured `frame`: in front of it a radiotap header that is just as
long as it says of itself, and behind it a checksum exactly if the header announces one. -/
inductive Captured (frame : Bytes) : Bytes → Prop
  | intro (front checksum : Bytes) (header : RadiotapHeader)
      (hheader : RadiotapHeader.ofBytes? (front ++ frame ++ checksum) = some header)
      (hlength : header.length = front.length)
      (hchecksum : checksum.length = if header.checksum then Pipeline.checksumLength else 0) :
      Captured frame (front ++ frame ++ checksum)

/-- A pipeline finds the captured frame. -/
theorem Pipeline.frame?_of_captured {frame packet : Bytes} (h : Captured frame packet) :
    frame? packet = some frame := by
  obtain ⟨front, checksum, header, hheader, hlength, hchecksum⟩ := h
  have hdrop : (front ++ frame ++ checksum).drop header.length = frame ++ checksum := by
    rw [hlength, List.append_assoc, List.drop_left]
  simp only [frame?, hheader, hdrop]
  cases hflag : header.checksum with
  | false =>
    have hnil : checksum = [] := by simpa [hflag] using hchecksum
    simp [hnil]
  | true =>
    have hfour : checksum.length = checksumLength := by simpa [hflag] using hchecksum
    simp [List.length_append, ← hfour]

/-- The filter accepts frames that carry the network identifier behind any radiotap header that is
just as long as it says of itself, whatever follows the frame. -/
theorem PacketFilter.run_networkFilter_of_header {front trailer : Bytes} {header : RadiotapHeader}
    {first second : UInt8} {receiver source : Address} {body : Bytes}
    (hheader : RadiotapHeader.ofBytes? (front
      ++ (Frame.managementHeader [first, second] receiver source ++ body) ++ trailer) = some header)
    (hlength : header.length = front.length) :
    run networkFilter
      (front ++ (Frame.managementHeader [first, second] receiver source ++ body) ++ trailer)
      = accepted := by
  obtain ⟨low, high, hlow, hhigh, hdecode⟩ := RadiotapHeader.length_of_ofBytes? hheader
  have hnetwork : (front ++ (Frame.managementHeader [first, second] receiver source ++ body)
      ++ trailer).drop (LittleEndian.decode [low, high] + Frame.networkOffset)
      = Frame.networkId.octets ++ ([0x00, 0x00] ++ body ++ trailer) := by
    rw [← hdecode, hlength, ← List.drop_drop, List.append_assoc, List.drop_left, List.append_assoc,
      Frame.drop_networkOffset]
    simp only [List.append_assoc]
  exact run_networkFilter_of_network hlow hhigh hnetwork

/-- The filter accepts captured frames that carry the network identifier. -/
theorem Captured.run_networkFilter {packet : Bytes} {first second : UInt8}
    {receiver source : Address} {body : Bytes}
    (h : Captured (Frame.managementHeader [first, second] receiver source ++ body) packet) :
    PacketFilter.run PacketFilter.networkFilter packet = PacketFilter.accepted := by
  obtain ⟨front, checksum, header, hheader, hlength, -⟩ := h
  exact PacketFilter.run_networkFilter_of_header hheader hlength

/-! ### Action frames -/

namespace Pipeline

variable (p : Pipeline) (sightings : Sightings) (time : Nat)

/-- An action frame of another node is surfaced from behind its head. -/
theorem process_actionHead {packet attributes : Bytes} {receiver source : Address}
    (hframe : frame? packet = some (Frame.actionHead receiver source ++ attributes))
    (hown : source ∉ p.own) :
    p.process sightings packet time = (p.surface source attributes time, sightings) := by
  have hsplit : Frame.actionHead receiver source ++ attributes
      = Frame.managementHeader [0xD0, 0x00] receiver source
          ++ (Frame.actionBody ++ attributes) := by
    simp only [Frame.actionHead, Frame.actionControl, List.append_assoc]
  rw [hsplit] at hframe
  have hkind : FrameKind.ofControl 0xD0 = .action := by decide
  have haction : Frame.isNeighborAction (Frame.actionBody ++ attributes) = true := by
    simp [Frame.isNeighborAction]
  simp only [process, hframe, FrameHeader.ofBytes?_managementHeader, hown, if_false, hkind,
    Frame.drop_headerLength, haction, if_true, List.drop_left]

theorem surface_of_encodeAll {elements : List Element} {attributes : Bytes}
    (h : Element.encodeAll elements = .ok attributes) (transmitter : Address) :
    p.surface transmitter attributes time =
      { outcome := .attributes elements.length
        events := elements.map fun e => .attribute transmitter e.id e.data p.radio time
        notes := [] } := by
  simp only [surface, ElementList.ofBytes_of_encodeAll h, ElementList.toList,
    ElementList.elements_of_encodeAll h, List.length_map]

end Pipeline

/-- Wherever `frame` is captured, the filter accepts it, and a pipeline that does not take
`transmitter` for an address of its own surfaces just `elements`, in order, and touches nothing
else. -/
def Surfaces (frame : Bytes) (transmitter : Address) (elements : List Element) : Prop :=
  ∀ packet, Captured frame packet →
    PacketFilter.run PacketFilter.networkFilter packet = PacketFilter.accepted ∧
    ∀ (p : Pipeline) (sightings : Sightings) (time : Nat), transmitter ∉ p.own →
      p.process sightings packet time =
        ({ outcome := .attributes elements.length
           events := elements.map fun e => .attribute transmitter e.id e.data p.radio time
           notes := [] }, sightings)

/-- An action frame with encoded elements behind its head surfaces them. -/
theorem surfaces_actionHead {elements : List Element} {attributes : Bytes}
    (h : Element.encodeAll elements = .ok attributes) (receiver source : Address) :
    Surfaces (Frame.actionHead receiver source ++ attributes) source elements := by
  intro packet hcaptured
  constructor
  · rw [Frame.actionHead, Frame.actionControl, List.append_assoc] at hcaptured
    exact hcaptured.run_networkFilter
  · intro p sightings time hown
    rw [p.process_actionHead sightings time (Pipeline.frame?_of_captured hcaptured) hown,
      p.surface_of_encodeAll time h]

end NeighborAwareness
