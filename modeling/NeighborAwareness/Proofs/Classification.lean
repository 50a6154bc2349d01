import NeighborAwareness.Proofs.ElementCodec
import NeighborAwareness.Proofs.Reception

/-!
# Every captured frame is classified

What a packet is found to be depends on four things: whether it carries a frame at all, the first
octet of the frame, its transmitter, and its body. Each packet comes under one of six descriptions
in these terms, and the pipeline finds just what its description says. The attributes of an action
frame are surfaced all or none, and together they are the whole rest of its body.

The pipeline cuts packet, frame, body and elements into parts. None of these is cut beyond its end.

## Main definitions

* `IsFrame`, `Carries` : a packet that carries a frame with some first octet, transmitter and body.
* `Pipeline.Classified` : the six descriptions of a packet.

## Main results

* `Pipeline.process?_eq` : no part is out of range.
* `carries_or_short` : a packet carries a frame, or too little is left of it.
* `Pipeline.process_of_carries` : what comes of a packet that carries a frame.
* `Pipeline.classified_iff` : the descriptions tell exactly what the pipeline finds.
* `Pipeline.captured_frame_classified` : what comes of any packet.
-/

namespace NeighborAwareness

/-! ### Elements in parts -/

/-- The walk meets the elements that are handed out, and the failure that is found. -/
theorem ElementList.walk?_eq (bytes : Bytes) :
    walk? bytes = some (elements bytes, check bytes) := by
  induction bytes using check.induct with
  | case1 bytes hempty =>
    rw [walk?, elements, check, if_pos hempty, if_pos hempty, if_pos hempty]
  | case2 bytes hempty failure hsplit =>
    have hbytes : bytes ≠ [] := by simpa using hempty
    rw [walk?, if_neg hempty, elements_of_error hsplit, check_of_error hbytes hsplit]
    split <;> rename_i hparts <;> rw [Element.split?_eq, hsplit] at hparts <;> cases hparts
    rfl
  | case3 bytes hempty e rest hsplit _ ih =>
    have hbytes : bytes ≠ [] := by simpa using hempty
    rw [walk?, if_neg hempty, elements_of_split hbytes hsplit, check_of_split hbytes hsplit]
    split <;> rename_i hparts <;> rw [Element.split?_eq, hsplit] at hparts <;> cases hparts
    rw [ih]
    rfl

/-! ### Frames in parts -/

theorem Address.ofBytes?_take (bytes : Bytes) : ofBytes? (bytes.take 6) = ofBytes? bytes := by
  simp only [ofBytes?, List.take_take, Nat.min_self]

theorem Address.ext {a b : Address} (h : a.octets = b.octets) : a = b := by
  cases a
  cases b
  cases h
  rfl

theorem Address.exists_ofBytes? {bytes : Bytes} (h : 6 ≤ bytes.length) :
    ∃ a, ofBytes? bytes = some a ∧ a.octets = bytes.take 6 := by
  have hsix : (bytes.take 6).length = 6 := by rw [List.length_take]; omega
  exact ⟨⟨bytes.take 6, hsix⟩, dif_pos hsix, rfl⟩

theorem FrameHeader.read?_eq (frame : Bytes) : read? frame = some (ofBytes? frame) := by
  rw [read?, ofBytes?]
  by_cases hshort : frame.length < Frame.headerLength
  · rw [if_pos hshort, if_pos hshort]
  · have hlength : 24 ≤ frame.length := Nat.le_of_not_lt hshort
    have hslice : ∀ offset ≤ 18, Bytes.slice? frame offset (offset + 6)
        = some ((frame.drop offset).take 6) := by
      intro offset hoffset
      rw [Bytes.slice?_eq (Nat.le_add_right ..) (by omega), List.drop_take, Nat.add_sub_cancel_left]
    rw [if_neg hshort, if_neg hshort, hslice _ (by decide), hslice _ (by decide),
      hslice _ (by decide)]
    cases frame with
    | nil => contradiction
    | cons control others =>
      simp only [List.getElem?_cons_zero, Option.bind_eq_bind, Option.bind_some,
        Address.ofBytes?_take, List.head?_cons]
      rfl

theorem RadiotapHeader.length_le {packet : Bytes} {header : RadiotapHeader}
    (h : ofBytes? packet = some header) : header.length ≤ packet.length := by
  unfold ofBytes? at h
  split at h
  · dsimp only at h
    split at h
    · cases h
    · rename_i low high rest hfits
      simp only [Option.bind_eq_bind, Option.bind_eq_some_iff, Option.pure_def,
        Option.some.injEq] at h
      obtain ⟨_, _, _, _, rfl⟩ := h
      exact Nat.le_of_not_lt fun hlt => hfits (.inr hlt)
  · cases h

namespace Pipeline

variable (p : Pipeline) (sightings : Sightings) (time : Nat)

theorem surface?_eq (transmitter : Address) (attributes : Bytes) :
    p.surface? time transmitter attributes = some (p.surface transmitter attributes time) := by
  rw [surface?, surface, ElementList.ofBytes, ElementList.walk?_eq]
  cases ElementList.check attributes <;> rfl

theorem classify?_eq {packet frame : Bytes} (h : frame? packet = some frame) :
    p.classify? sightings time frame = some (p.process sightings packet time) := by
  simp only [classify?, process, h, FrameHeader.read?_eq, Option.bind_eq_bind, Option.bind_some]
  cases hheader : FrameHeader.ofBytes? frame with
  | none => rfl
  | some header =>
    have hlength : Frame.headerLength ≤ frame.length := by
      refine Nat.le_of_not_lt fun hshort => ?_
      rw [FrameHeader.ofBytes?, if_pos hshort] at hheader
      cases hheader
    by_cases hown : header.transmitter ∈ p.own
    · simp only [if_pos hown]
      rfl
    · simp only [if_neg hown, Bytes.slice?_back hlength, Option.bind_some]
      cases header.kind with
      | beacon => rfl
      | other type subtype => rfl
      | action =>
        by_cases haction : Frame.isNeighborAction (frame.drop Frame.headerLength) = true
        · have hprefix : Frame.actionBody <+: frame.drop Frame.headerLength :=
            List.isPrefixOf_iff_prefix.1 haction
          simp only [if_pos haction, Bytes.slice?_back hprefix.length_le, surface?_eq,
            Option.bind_some]
          rfl
        · simp only [if_neg haction]
          rfl

/-- No part of a packet is out of range. -/
theorem process?_eq (packet : Bytes) :
    p.process? sightings time packet = some (p.process sightings packet time) := by
  cases hheader : RadiotapHeader.ofBytes? packet with
  | none =>
    have hframe : frame? packet = none := by rw [frame?, hheader]
    simp only [process?, process, hheader, hframe]
  | some header =>
    have hlength := RadiotapHeader.length_le hheader
    simp only [process?, hheader, Bytes.slice?_back hlength]
    cases hchecksum : header.checksum with
    | true =>
      rw [if_pos rfl, Bytes.slice?_front (Nat.sub_le ..)]
      refine p.classify?_eq sightings time ?_
      simp only [frame?, hheader, hchecksum, if_true]
    | false =>
      refine p.classify?_eq sightings time ?_
      simp only [frame?, hheader, hchecksum, Bool.false_eq_true, if_false]

end Pipeline

/-! ### What a packet carries -/

/-- The parts of a frame that decide what it is: the first octet, the transmitter, which is the
second of its addresses, and all that is behind the management header. -/
structure IsFrame (frame : Bytes) (control : UInt8) (transmitter : Address) (body : Bytes) :
    Prop where
  length : 24 ≤ frame.length
  control : frame.head? = some control
  transmitter : (frame.drop 10).take 6 = transmitter.octets
  body : frame.drop 24 = body

namespace IsFrame

variable {frame body : Bytes} {control : UInt8} {transmitter : Address}

theorem exists_of_length (h : 24 ≤ frame.length) :
    ∃ control transmitter body, IsFrame frame control transmitter body := by
  cases frame with
  | nil => contradiction
  | cons control others =>
    have hsix : (((control :: others).drop 10).take 6).length = 6 := by
      rw [List.length_take, List.length_drop]
      omega
    exact ⟨control, ⟨_, hsix⟩, _, h, rfl, rfl, rfl⟩

theorem ofBytes? (h : IsFrame frame control transmitter body) :
    ∃ receiver network, FrameHeader.ofBytes? frame
      = some ⟨.ofControl control, receiver, transmitter, network⟩ := by
  have hlength := h.length
  have haddress : ∀ offset ≤ 18, ∃ a, Address.ofBytes? (frame.drop offset) = some a
      ∧ a.octets = (frame.drop offset).take 6 := by
    intro offset hoffset
    refine Address.exists_ofBytes? ?_
    rw [List.length_drop]
    omega
  obtain ⟨receiver, hreceiver, -⟩ := haddress Frame.receiverOffset (by decide)
  obtain ⟨source, hsource, hoctets⟩ := haddress Frame.sourceOffset (by decide)
  obtain ⟨network, hnetwork, -⟩ := haddress Frame.networkOffset (by decide)
  obtain rfl : source = transmitter := Address.ext (hoctets.trans h.transmitter)
  have hlong : ¬ frame.length < Frame.headerLength := Nat.not_lt.2 hlength
  refine ⟨receiver, network, ?_⟩
  rw [FrameHeader.ofBytes?, if_neg hlong, h.control, hreceiver, hsource, hnetwork]
  rfl

end IsFrame

/-- A packet that carries a frame with some first octet, transmitter and body: a radiotap header is
in front of the frame and, if that says so, a checksum behind it. -/
def Carries (packet : Bytes) (control : UInt8) (transmitter : Address) (body : Bytes) : Prop :=
  ∃ frame, Captured frame packet ∧ IsFrame frame control transmitter body

/-- How many octets of a packet are left between its radiotap header and its checksum. -/
def RadiotapHeader.left (header : RadiotapHeader) (packet : Bytes) : Nat :=
  packet.length - header.length - if header.checksum then 4 else 0

/-- What is left of a packet was captured in it, unless it is too short for its checksum. -/
theorem RadiotapHeader.captured_of_left {packet : Bytes} {header : RadiotapHeader}
    (h : ofBytes? packet = some header) (hleft : 0 < header.left packet) :
    Captured ((packet.drop header.length).take (header.left packet)) packet := by
  have hsize : header.left packet
      = packet.length - header.length - if header.checksum then 4 else 0 := rfl
  generalize header.left packet = size at hleft hsize ⊢
  have hpacket : packet.take header.length ++ (packet.drop header.length).take size
      ++ (packet.drop header.length).drop size = packet := by
    rw [List.append_assoc, List.take_append_drop, List.take_append_drop]
  have hfront : header.length = (packet.take header.length).length := by
    rw [List.length_take]
    omega
  have hchecksum : ((packet.drop header.length).drop size).length
      = if header.checksum then 4 else 0 := by
    rw [List.length_drop, List.length_drop]
    omega
  rw [← hpacket] at h
  have hcaptured := Captured.intro _ _ header h hfront hchecksum
  rwa [hpacket] at hcaptured

/-- A packet carries a frame, or its radiotap header does not decode, or too little is left for the
management header. -/
theorem carries_or_short (packet : Bytes) :
    (∃ control transmitter body, Carries packet control transmitter body)
    ∨ ∀ header, RadiotapHeader.ofBytes? packet = some header → header.left packet < 24 := by
  cases hheader : RadiotapHeader.ofBytes? packet with
  | none => exact .inr fun header h => by cases h
  | some header =>
    by_cases hshort : header.left packet < 24
    · exact .inr fun other h => Option.some.inj h ▸ hshort
    · have hlength : 24 ≤ ((packet.drop header.length).take (header.left packet)).length := by
        have hle : header.left packet ≤ packet.length - header.length := Nat.sub_le ..
        rw [List.length_take, List.length_drop]
        omega
      obtain ⟨control, transmitter, body, hframe⟩ := IsFrame.exists_of_length hlength
      exact .inl ⟨control, transmitter, body, _,
        RadiotapHeader.captured_of_left hheader (by omega), hframe⟩

/-! ### Classification -/

/-- Frames of two kinds are told by their first octet: management in bits 2 and 3, and the subtype
in bits 4 to 7. The version in bits 0 and 1 does not matter. -/
theorem FrameKind.ofControl_eq_iff (control : UInt8) :
    (ofControl control = .action ↔ control &&& 0xFC = 0xD0)
      ∧ (ofControl control = .beacon ↔ control &&& 0xFC = 0x80) := by
  have hall : ∀ n < 256, (ofControl (UInt8.ofNat n) = .action ↔ UInt8.ofNat n &&& 0xFC = 0xD0)
      ∧ (ofControl (UInt8.ofNat n) = .beacon ↔ UInt8.ofNat n &&& 0xFC = 0x80) := by
    decide +kernel
  have hcontrol := hall control.toNat control.toNat_lt
  rwa [UInt8.ofNat_toNat] at hcontrol

namespace Pipeline

variable (p : Pipeline) (sightings : Sightings) (time : Nat) {packet body : Bytes} {control : UInt8}
  {transmitter : Address}

theorem process_of_short
    (h : ∀ header, RadiotapHeader.ofBytes? packet = some header → header.left packet < 24) :
    p.process sightings packet time = (silent .undecodable, sightings) := by
  cases hheader : RadiotapHeader.ofBytes? packet with
  | none =>
    have hframe : frame? packet = none := by rw [frame?, hheader]
    simp only [process, hframe]
  | some header =>
    obtain ⟨frame, hframe, hlength⟩ :
        ∃ frame, frame? packet = some frame ∧ frame.length = header.left packet := by
      simp only [frame?, hheader, RadiotapHeader.left]
      refine ⟨_, rfl, ?_⟩
      split
      · rw [List.length_take, List.length_drop, Nat.min_eq_left (Nat.sub_le ..)]
        rfl
      · rw [List.length_drop, Nat.sub_zero]
    have hnone : FrameHeader.ofBytes? frame = none := by
      rw [FrameHeader.ofBytes?, hlength]
      exact if_pos (h header hheader)
    simp only [process, hframe, hnone]

/-- A packet that carries a frame is classified by the first octet, the transmitter and the body of
the frame. -/
theorem process_of_carries (h : Carries packet control transmitter body) :
    p.process sightings packet time
      = if transmitter ∈ p.own then (silent .echo, sightings)
        else match FrameKind.ofControl control with
          | .action =>
            if Frame.isNeighborAction body then
              (p.surface transmitter (body.drop Frame.actionBody.length) time, sightings)
            else (silent .ignored, sightings)
          | .beacon =>
            ({ outcome := .beacon (sightings.get? transmitter).isNone
               events :=
                 if (sightings.get? transmitter).isNone then [.beaconSighted transmitter time]
                 else []
               notes := [] }, (sightings.observe transmitter time).2)
          | .other _ _ => (silent .ignored, sightings) := by
  obtain ⟨frame, hcaptured, hparts⟩ := h
  obtain ⟨receiver, network, hheader⟩ := hparts.ofBytes?
  have hbody : frame.drop Frame.headerLength = body := hparts.body
  simp only [process, frame?_of_captured hcaptured, hheader, hbody]
  rfl

/-- What a packet is found to be, with the events and the table that come of it, in terms of what it
carries. -/
inductive Classified (packet : Bytes) : FrameOutcome → List CaptureEvent → Sightings → Prop
  | undecodable
      (hshort : ∀ header, RadiotapHeader.ofBytes? packet = some header → header.left packet < 24) :
      Classified packet .undecodable [] sightings
  | echo {control : UInt8} {transmitter : Address} {body : Bytes}
      (hcarries : Carries packet control transmitter body) (hown : transmitter ∈ p.own) :
      Classified packet .echo [] sightings
  | attributes {control : UInt8} {transmitter : Address} {rest : Bytes} (elements : List Element)
      (hcarries : Carries packet control transmitter (Frame.actionBody ++ rest))
      (hother : transmitter ∉ p.own) (haction : control &&& 0xFC = 0xD0)
      (hencoded : Element.encodeAll elements = .ok rest) :
      Classified packet (.attributes elements.length)
        (elements.map fun e => .attribute transmitter e.id e.data p.radio time) sightings
  | malformed {control : UInt8} {transmitter : Address} {rest : Bytes}
      (hcarries : Carries packet control transmitter (Frame.actionBody ++ rest))
      (hother : transmitter ∉ p.own) (haction : control &&& 0xFC = 0xD0)
      (hnone : ¬ ∃ elements, Element.encodeAll elements = .ok rest) :
      Classified packet .malformed [] sightings
  | beacon {control : UInt8} {transmitter : Address} {body : Bytes}
      (hcarries : Carries packet control transmitter body) (hother : transmitter ∉ p.own)
      (hbeacon : control &&& 0xFC = 0x80) :
      Classified packet (.beacon (sightings.get? transmitter).isNone)
        (if (sightings.get? transmitter).isNone then [.beaconSighted transmitter time] else [])
        (sightings.observe transmitter time).2
  | ignored {control : UInt8} {transmitter : Address} {body : Bytes}
      (hcarries : Carries packet control transmitter body) (hother : transmitter ∉ p.own)
      (haction : ¬ (control &&& 0xFC = 0xD0 ∧ Frame.actionBody <+: body))
      (hbeacon : control &&& 0xFC ≠ 0x80) :
      Classified packet .ignored [] sightings

variable {p sightings time}

theorem Classified.eq_process {outcome : FrameOutcome} {events : List CaptureEvent}
    {after : Sightings} (h : p.Classified sightings time packet outcome events after) :
    outcome = (p.process sightings packet time).1.outcome
      ∧ events = (p.process sightings packet time).1.events
      ∧ after = (p.process sightings packet time).2 := by
  have hneighbor (rest : Bytes) : Frame.isNeighborAction (Frame.actionBody ++ rest) = true :=
    List.isPrefixOf_iff_prefix.2 (List.prefix_append ..)
  -- Each description says what the packet carries, which leaves one branch of the pipeline.
  cases h with
  | undecodable hshort =>
    rw [p.process_of_short sightings time hshort]
    exact ⟨rfl, rfl, rfl⟩
  | echo hcarries hown =>
    rw [p.process_of_carries sightings time hcarries, if_pos hown]
    exact ⟨rfl, rfl, rfl⟩
  | attributes elements hcarries hother haction hencoded =>
    rw [p.process_of_carries sightings time hcarries, if_neg hother,
      (FrameKind.ofControl_eq_iff _).1.2 haction]
    simp only [hneighbor, if_true, List.drop_left, p.surface_of_encodeAll time hencoded]
    exact ⟨trivial, trivial, trivial⟩
  | @malformed control transmitter rest hcarries hother haction hnone =>
    rw [p.process_of_carries sightings time hcarries, if_neg hother,
      (FrameKind.ofControl_eq_iff _).1.2 haction]
    have herror : ∃ failure, ElementList.ofBytes rest = .error failure := by
      cases hlist : ElementList.ofBytes rest with
      | error failure => exact ⟨failure, rfl⟩
      | ok list => exact absurd ⟨_, (ElementList.ofBytes_eq_ok_iff.1 hlist).2⟩ hnone
    obtain ⟨failure, hfailure⟩ := herror
    simp only [hneighbor, if_true, List.drop_left, surface, hfailure]
    exact ⟨trivial, trivial, trivial⟩
  | beacon hcarries hother hbeacon =>
    rw [p.process_of_carries sightings time hcarries, if_neg hother,
      (FrameKind.ofControl_eq_iff _).2.2 hbeacon]
    exact ⟨rfl, rfl, rfl⟩
  | @ignored control transmitter body hcarries hother haction hbeacon =>
    rw [p.process_of_carries sightings time hcarries, if_neg hother]
    cases hkind : FrameKind.ofControl control with
    | beacon => exact absurd ((FrameKind.ofControl_eq_iff _).2.1 hkind) hbeacon
    | other type subtype => exact ⟨rfl, rfl, rfl⟩
    | action =>
      have hbody : ¬ Frame.isNeighborAction body = true := fun hneighbor =>
        haction ⟨(FrameKind.ofControl_eq_iff _).1.1 hkind, List.isPrefixOf_iff_prefix.1 hneighbor⟩
      dsimp only
      rw [if_neg hbody]
      exact ⟨rfl, rfl, rfl⟩

variable (p sightings time)

theorem exists_classified (packet : Bytes) :
    ∃ outcome events after, p.Classified sightings time packet outcome events after := by
  -- The conditions in the order in which the descriptions exclude one another.
  rcases carries_or_short packet with ⟨control, transmitter, body, hcarries⟩ | hshort
  · by_cases hown : transmitter ∈ p.own
    · exact ⟨_, _, _, .echo hcarries hown⟩
    · by_cases hbeacon : control &&& 0xFC = 0x80
      · exact ⟨_, _, _, .beacon hcarries hown hbeacon⟩
      · by_cases haction : control &&& 0xFC = 0xD0 ∧ Frame.actionBody <+: body
        · obtain ⟨hcontrol, rest, rfl⟩ := haction
          by_cases hencoded : ∃ elements, Element.encodeAll elements = .ok rest
          · obtain ⟨elements, hencoded⟩ := hencoded
            exact ⟨_, _, _, .attributes elements hcarries hown hcontrol hencoded⟩
          · exact ⟨_, _, _, .malformed hcarries hown hcontrol hencoded⟩
        · exact ⟨_, _, _, .ignored hcarries hown haction hbeacon⟩
  · exact ⟨_, _, _, .undecodable hshort⟩

/-- The descriptions tell exactly what the pipeline finds. -/
theorem classified_iff {outcome : FrameOutcome} {events : List CaptureEvent} {after : Sightings} :
    p.Classified sightings time packet outcome events after
      ↔ outcome = (p.process sightings packet time).1.outcome
        ∧ events = (p.process sightings packet time).1.events
        ∧ after = (p.process sightings packet time).2 := by
  refine ⟨Classified.eq_process, ?_⟩
  -- Some description applies, and it says what the pipeline finds, so it is this one.
  obtain ⟨outcome', events', after', h⟩ := p.exists_classified sightings time packet
  obtain ⟨rfl, rfl, rfl⟩ := h.eq_process
  rintro ⟨rfl, rfl, rfl⟩
  exact h

theorem outcome_eq_echo_iff (h : Carries packet control transmitter body) :
    (p.process sightings packet time).1.outcome = .echo ↔ transmitter ∈ p.own := by
  rw [p.process_of_carries sightings time h]
  by_cases hown : transmitter ∈ p.own
  · rw [if_pos hown]
    exact iff_of_true rfl hown
  · rw [if_neg hown]
    refine iff_of_false ?_ hown
    intro hecho
    cases hkind : FrameKind.ofControl control with
    | beacon =>
      rw [hkind] at hecho
      cases hecho
    | other type subtype =>
      rw [hkind] at hecho
      cases hecho
    | action =>
      simp only [hkind, surface] at hecho
      split at hecho
      · split at hecho
        · cases hecho
        · cases hecho
      · cases hecho

/-- Whether the attributes of an action frame of another node are surfaced, and how many, is told by
the rest of its body alone. -/
theorem outcome_of_action {rest : Bytes}
    (h : Carries packet control transmitter (Frame.actionBody ++ rest))
    (hother : transmitter ∉ p.own) (haction : control &&& 0xFC = 0xD0) :
    (∀ n, (p.process sightings packet time).1.outcome = .attributes n
      ↔ ∃ elements, elements.length = n ∧ Element.encodeAll elements = .ok rest)
    ∧ ((p.process sightings packet time).1.outcome = .malformed
      ↔ ¬ ∃ elements, Element.encodeAll elements = .ok rest) := by
  by_cases hencoded : ∃ elements, Element.encodeAll elements = .ok rest
  · obtain ⟨elements, hencoded⟩ := hencoded
    rw [← (Classified.attributes elements h hother haction hencoded).eq_process.1]
    refine ⟨fun n => ⟨fun hn => ⟨elements, FrameOutcome.attributes.inj hn, hencoded⟩, ?_⟩, ?_⟩
    · rintro ⟨others, rfl, hothers⟩
      rw [← ElementList.elements_of_encodeAll hencoded, ElementList.elements_of_encodeAll hothers]
    · exact iff_of_false nofun fun hnone => hnone ⟨elements, hencoded⟩
  · rw [← (Classified.malformed h hother haction hencoded).eq_process.1]
    refine ⟨fun n => iff_of_false nofun ?_, iff_of_true rfl hencoded⟩
    rintro ⟨elements, -, hothers⟩
    exact hencoded ⟨elements, hothers⟩

variable {p sightings time}

/-- Only attributes give events about attributes, only first beacons give events about beacons, and
only beacons change the table. -/
theorem Classified.traces {outcome : FrameOutcome} {events : List CaptureEvent} {after : Sightings}
    (h : p.Classified sightings time packet outcome events after) :
    (∀ transmitter id data radio time, .attribute transmitter id data radio time ∈ events →
      ∃ n, outcome = .attributes n)
    ∧ (∀ transmitter time, .beaconSighted transmitter time ∈ events → outcome = .beacon true)
    ∧ (after ≠ sightings → ∃ first, outcome = .beacon first) := by
  cases h with
  | attributes elements =>
    refine ⟨fun _ _ _ _ _ _ => ⟨_, rfl⟩, fun transmitter time hmem => ?_, fun hne => absurd rfl hne⟩
    obtain ⟨e, -, he⟩ := List.mem_map.1 hmem
    cases he
  | @beacon control transmitter =>
    cases (sightings.get? transmitter).isNone with
    | true =>
      refine ⟨fun other id data radio time hmem => ?_, fun _ _ _ => rfl, fun _ => ⟨_, rfl⟩⟩
      cases List.mem_singleton.1 hmem
    | false =>
      exact ⟨fun _ _ _ _ _ hmem => absurd hmem List.not_mem_nil,
        fun _ _ hmem => absurd hmem List.not_mem_nil, fun _ => ⟨_, rfl⟩⟩
  | undecodable | echo | malformed | ignored =>
    exact ⟨fun _ _ _ _ _ hmem => absurd hmem List.not_mem_nil,
      fun _ _ hmem => absurd hmem List.not_mem_nil, fun hne => absurd rfl hne⟩

variable (p sightings time)

/-- Every packet is classified, with no part of it out of range, and what comes of it is what its
description says. It does not decode just if the radiotap header does not, or fewer than 24 octets
are left of it; else it is an echo just if this host sent it. Of an action frame from another node
either all attributes are surfaced, which together are the rest of its body, or none. Only
attributes give events about attributes, only first beacons give events about beacons, and only
beacons change the table. -/
theorem captured_frame_classified (packet : Bytes) :
    let found := p.process sightings packet time
    p.process? sightings time packet = some found
      ∧ (∀ outcome events after, p.Classified sightings time packet outcome events after
        ↔ outcome = found.1.outcome ∧ events = found.1.events ∧ after = found.2)
      ∧ (found.1.outcome = .undecodable
        ↔ ∀ header, RadiotapHeader.ofBytes? packet = some header → header.left packet < 24)
      ∧ (∀ control transmitter body, Carries packet control transmitter body →
        (found.1.outcome = .echo ↔ transmitter ∈ p.own)
          ∧ ∀ rest, transmitter ∉ p.own → control &&& 0xFC = 0xD0 →
            body = Frame.actionBody ++ rest →
            (∀ n, found.1.outcome = .attributes n
              ↔ ∃ elements, elements.length = n ∧ Element.encodeAll elements = .ok rest)
            ∧ (found.1.outcome = .malformed
              ↔ ¬ ∃ elements, Element.encodeAll elements = .ok rest))
      ∧ (∀ transmitter id data radio time,
        .attribute transmitter id data radio time ∈ found.1.events →
        ∃ n, found.1.outcome = .attributes n)
      ∧ (∀ transmitter time, .beaconSighted transmitter time ∈ found.1.events →
        found.1.outcome = .beacon true)
      ∧ (found.2 ≠ sightings → ∃ first, found.1.outcome = .beacon first) := by
  intro found
  have hclassified : p.Classified sightings time packet found.1.outcome found.1.events found.2 :=
    (p.classified_iff sightings time).2 ⟨rfl, rfl, rfl⟩
  refine ⟨p.process?_eq sightings time packet, fun _ _ _ => p.classified_iff sightings time, ?_, ?_,
    hclassified.traces⟩
  · refine ⟨fun hundecodable => ?_, fun hshort =>
      (Classified.undecodable hshort).eq_process.1.symm⟩
    rw [hundecodable] at hclassified
    generalize found.1.events = events at hclassified
    generalize found.2 = after at hclassified
    cases hclassified with
    | undecodable hshort => exact hshort
  · intro control transmitter body hcarries
    refine ⟨p.outcome_eq_echo_iff sightings time hcarries, ?_⟩
    rintro rest hother haction rfl
    exact p.outcome_of_action sightings time hcarries hother haction

end Pipeline

end NeighborAwareness
