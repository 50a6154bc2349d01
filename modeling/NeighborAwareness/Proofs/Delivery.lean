import NeighborAwareness.Proofs.Reception
import NeighborAwareness.Session.Basic

/-!
# From one node to another

The frame that a session hands to the link is the frame that was laid out, for every payload that
fits, whatever the session sent before and however the link answers. Laid out, captured and read
again it yields the attributes it was made of.

## Main definitions

* `Frame.descriptorElement`, `Frame.discoveryElements` : the attributes of the frames that carry a
  payload.

## Main results

* `Session.calls_sendDiscovery`, `Session.calls_sendFollowUp` : the one call that a send makes.
* `Session.sent_payload_surfaces` : what one node sends, the captures of others surface.
-/

namespace NeighborAwareness

/-! ### Attributes of a frame -/

namespace Frame

/-- A service descriptor as an attribute: the service, the instances that send and ask, what the
frame is for, and the payload behind its length. -/
def descriptorElement (sender requestor control : UInt8) (payload : Bytes) : Element where
  id := 0x03
  data := serviceId ++ [sender, requestor, control, UInt8.ofNat payload.length] ++ payload

/-- The attributes of a discovery frame. -/
def discoveryElements (payload : Bytes) (publish : Bool) : List Element :=
  [⟨0x0F, deviceCapability.drop Element.headerLength⟩,
   ⟨0x12, availability.drop Element.headerLength⟩,
   ⟨0x0E, serviceExtension.drop Element.headerLength⟩,
   descriptorElement localInstance 0x00 (if publish then controlPublish else controlSubscribe)
     payload]

/-- A service descriptor is an encoded element, as long as its length field does not wrap. -/
theorem encode_descriptorElement (sender requestor control : UInt8) {payload : Bytes}
    (h : payload.length ≤ maxPayload) :
    (descriptorElement sender requestor control payload).encode
      = .ok (serviceDescriptor sender requestor control payload) := by
  have hlength : (descriptorElement sender requestor control payload).data.length
      = descriptorFixed - 3 + payload.length := by
    simp only [descriptorElement, serviceId, List.length_append, List.length_cons, List.length_nil,
      descriptorFixed]
  have hfits : descriptorFixed - 3 + payload.length ≤ Element.maxData := by
    simp only [descriptorFixed, Element.maxData, maxPayload] at h ⊢
    omega
  have hfield : (descriptorLength payload.length).toNat = descriptorFixed - 3 + payload.length := by
    rw [descriptorLength, UInt16.toNat_ofNat']
    apply Nat.mod_eq_of_lt
    simp only [Element.maxData] at hfits
    omega
  rw [Element.encode, hlength, if_pos hfits, serviceDescriptor, hfield]
  simp only [descriptorElement, List.append_assoc, List.cons_append, List.nil_append]

/-- Behind its head a discovery frame is its encoded attributes. -/
theorem encodeAll_discoveryElements {payload : Bytes} (publish : Bool)
    (h : payload.length ≤ maxPayload) :
    Element.encodeAll (discoveryElements payload publish)
      = .ok (deviceCapability ++ (availability ++ (serviceExtension ++
          serviceDescriptor localInstance 0x00
            (if publish then controlPublish else controlSubscribe) payload))) := by
  have hdevice : Element.encode ⟨0x0F, deviceCapability.drop Element.headerLength⟩
      = .ok deviceCapability := rfl
  have havailability : Element.encode ⟨0x12, availability.drop Element.headerLength⟩
      = .ok availability := rfl
  have hextension : Element.encode ⟨0x0E, serviceExtension.drop Element.headerLength⟩
      = .ok serviceExtension := rfl
  have hdescriptor := encode_descriptorElement localInstance 0x00
    (if publish then controlPublish else controlSubscribe) h
  simp only [discoveryElements, Element.encodeAll, hdevice, havailability, hextension, hdescriptor,
    bind, Except.bind, pure, Except.pure, List.append_nil]

theorem surfaces_discovery (source : Address) {payload : Bytes} (publish : Bool)
    (h : payload.length ≤ maxPayload) :
    Surfaces (discovery source payload publish) source (discoveryElements payload publish) := by
  have := surfaces_actionHead (encodeAll_discoveryElements publish h) groupAddress source
  simpa only [discovery, List.append_assoc] using this

theorem surfaces_followUp (source receiver : Address) (requestor : UInt8) {payload : Bytes}
    (h : payload.length ≤ maxPayload) :
    Surfaces (followUp source receiver requestor payload) source
      [descriptorElement followUpInstance requestor controlFollowUp payload] := by
  have hencode : Element.encodeAll [descriptorElement followUpInstance requestor controlFollowUp
      payload] = .ok (serviceDescriptor followUpInstance requestor controlFollowUp payload) := by
    simp only [Element.encodeAll, encode_descriptorElement _ _ _ h, bind, Except.bind, pure,
      Except.pure, List.append_nil]
  exact surfaces_actionHead hencode receiver source

end Frame

/-! ### What a session hands to the link -/

theorem Bytes.splice_self (front data back : Bytes) :
    splice (front ++ data ++ back) front.length data = front ++ data ++ back := by
  have htake : (front ++ data ++ back).take front.length = front := by
    rw [List.append_assoc, List.take_left]
  have hdrop : (front ++ data ++ back).drop front.length = data ++ back := by
    rw [List.append_assoc, List.drop_left]
  rw [splice, htake, hdrop, overlay, List.drop_left, List.append_assoc]

theorem Frame.checkPayload_of_le {payload : Bytes} {fixed : Nat}
    (h : payload.length ≤ maxPayload) (hfixed : maxPayload + fixed ≤ capacity) :
    checkPayload payload fixed = .ok () := by
  rw [checkPayload_eq payload hfixed, if_pos h]

namespace Session

variable (s : Session) (l : Link)

/-- An action frame laid out with the address of an interface leaves it as it is. -/
theorem addressed_actionHead (i : Interface) (receiver : Address) (rest : Bytes) :
    addressed i (Frame.actionHead receiver i.address ++ rest)
      = Frame.actionHead receiver i.address ++ rest := by
  have hreceiver := receiver.length_octets
  have hsource := i.address.length_octets
  let front := Frame.actionControl ++ [0x00, 0x00] ++ receiver.octets
  let back := Frame.networkId.octets ++ [0x00, 0x00] ++ Frame.actionBody ++ rest
  have hfront : front.length = Frame.sourceOffset := by
    simp only [front, List.length_append, hreceiver]
    rfl
  have hframe : Frame.actionHead receiver i.address ++ rest
      = front ++ i.address.octets ++ back := by
    simp only [front, back, Frame.actionHead, Frame.managementHeader, List.append_assoc]
  have hlong : Frame.sourceOffset + i.address.octets.length
      ≤ (front ++ i.address.octets ++ back).length := by
    simp only [List.length_append, hfront]
    omega
  rw [hframe, addressed, if_pos hlong, ← hfront, Bytes.splice_self]

theorem calls_transmit (frame : Bytes) (frequency dwell : UInt32) :
    (s.transmit l frame frequency dwell).2.2.calls
      = l.calls ++ [(l.clock, .send .frame (s.request frame frequency dwell))] := by
  simp only [transmit, Link.send, Link.number, Link.take]
  cases (l.answers.headD .granted).failure with
  | none => rfl
  | some failure => rfl

/-- What the scratch memory held before does not matter to a frame that is built and
transmitted. -/
theorem calls_transmitBuilt {frame : Bytes} (h : frame.length ≤ Frame.capacity)
    (frequency dwell : UInt32) :
    (s.transmitBuilt l (.ok (frame.length, s.scratch.write frame)) frequency dwell).2.2.calls
      = l.calls ++ [(l.clock, .send .frame (s.request frame frequency dwell))] := by
  have := calls_transmit { s with scratch := s.scratch.write frame } l frame frequency dwell
  rw [transmitBuilt, Scratch.frame_write _ h]
  exact this

/-- A discovery frame that is not suppressed is handed to the link as it was laid out. -/
theorem calls_sendDiscovery {payload : Bytes} (publish : Bool) (dwell : UInt32)
    (hfree : s.isSuppressed l.clock = false) (hpayload : payload.length ≤ Frame.maxPayload) :
    (s.sendDiscovery l payload publish dwell).2.2.calls
      = l.calls ++ [(l.clock, .send .frame
          [.ifindex s.interface.index, .wdev s.interface.device,
           .wiphyFreq s.settings.frequency, .offchannelTxOk, .duration dwell,
           .frame (Frame.discovery s.interface.address payload publish)])] := by
  have hcheck : Frame.checkPayload payload Frame.discoveryFixed = .ok () :=
    Frame.checkPayload_of_le hpayload (by decide)
  have hroom : (Frame.discovery s.interface.address payload publish).length ≤ Frame.capacity := by
    rw [Frame.length_discovery]
    simp only [Frame.maxPayload, Frame.discoveryFixed, Frame.capacity] at hpayload ⊢
    omega
  have haddressed : addressed s.interface (Frame.discovery s.interface.address payload publish)
      = Frame.discovery s.interface.address payload publish := by
    simp only [Frame.discovery, List.append_assoc, addressed_actionHead]
  have hsend : s.sendDiscovery l payload publish dwell
      = s.transmitDiscovery l payload publish dwell := by
    simp only [sendDiscovery, unlessSuppressed, hfree, Bool.false_eq_true, if_false]
  rw [hsend, transmitDiscovery]
  simp only [Scratch.putDiscovery, Scratch.composeDiscovery_eq, hcheck, Scratch.composed]
  rw [calls_transmitBuilt s l hroom, request, haddressed]

/-- A follow-up that is not suppressed is handed to the link as it was laid out. -/
theorem calls_sendFollowUp (receiver : Option Address) (requestor : UInt8) (frequency : UInt32)
    {payload : Bytes} (hfree : s.isSuppressed l.clock = false)
    (hpayload : payload.length ≤ Frame.maxPayload) :
    (s.sendFollowUp l receiver requestor frequency payload).2.2.calls
      = l.calls ++ [(l.clock, .send .frame
          [.ifindex s.interface.index, .wdev s.interface.device, .wiphyFreq frequency,
           .offchannelTxOk, .duration s.settings.followUpDwell,
           .frame (Frame.followUp s.interface.address (receiver.getD .broadcast) requestor
             payload)])] := by
  let destination := receiver.getD .broadcast
  have hcheck : Frame.checkPayload payload Frame.followUpFixed = .ok () :=
    Frame.checkPayload_of_le hpayload (by decide)
  have hroom : (Frame.followUp s.interface.address destination requestor payload).length
      ≤ Frame.capacity := by
    rw [Frame.length_followUp]
    simp only [Frame.maxPayload, Frame.followUpFixed, Frame.capacity] at hpayload ⊢
    omega
  have haddressed :
      addressed s.interface (Frame.followUp s.interface.address destination requestor payload)
        = Frame.followUp s.interface.address destination requestor payload := by
    simp only [Frame.followUp, addressed_actionHead]
  simp only [sendFollowUp, unlessSuppressed, hfree, Bool.false_eq_true, if_false,
    Scratch.putFollowUp, Scratch.composeFollowUp_eq, hcheck, Scratch.composed]
  rw [calls_transmitBuilt s l hroom, request, haddressed]

/-- What one node sends, the captures of others recover. A session that is not suppressed hands a
discovery frame or a follow-up with a payload of up to 255 octets to the link in one call. Wherever
that frame is captured, the filter accepts it, and every pipeline of another node surfaces exactly
its attributes, the last of which ends with the payload. -/
theorem sent_payload_surfaces (payload : Bytes) (hpayload : payload.length ≤ Frame.maxPayload)
    (hfree : s.isSuppressed l.clock = false) (publish : Bool) (receiver : Option Address)
    (requestor : UInt8) (frequency dwell : UInt32) :
    let source := s.interface.address
    let discovery := Frame.discovery source payload publish
    let followUp := Frame.followUp source (receiver.getD .broadcast) requestor payload
    ((s.sendDiscovery l payload publish dwell).2.2.calls
        = l.calls ++ [(l.clock, .send .frame
            [.ifindex s.interface.index, .wdev s.interface.device,
             .wiphyFreq s.settings.frequency, .offchannelTxOk, .duration dwell,
             .frame discovery])] ∧
      Surfaces discovery source
        [⟨0x0F, Frame.deviceCapability.drop Element.headerLength⟩,
         ⟨0x12, Frame.availability.drop Element.headerLength⟩,
         ⟨0x0E, Frame.serviceExtension.drop Element.headerLength⟩,
         ⟨0x03, Frame.serviceId ++ [Frame.localInstance, 0x00,
           if publish then Frame.controlPublish else Frame.controlSubscribe,
           UInt8.ofNat payload.length] ++ payload⟩]) ∧
    ((s.sendFollowUp l receiver requestor frequency payload).2.2.calls
        = l.calls ++ [(l.clock, .send .frame
            [.ifindex s.interface.index, .wdev s.interface.device, .wiphyFreq frequency,
             .offchannelTxOk, .duration s.settings.followUpDwell, .frame followUp])] ∧
      Surfaces followUp source
        [⟨0x03, Frame.serviceId ++ [Frame.followUpInstance, requestor, Frame.controlFollowUp,
           UInt8.ofNat payload.length] ++ payload⟩]) :=
  ⟨⟨s.calls_sendDiscovery l publish dwell hfree hpayload,
      Frame.surfaces_discovery s.interface.address publish hpayload⟩,
    ⟨s.calls_sendFollowUp l receiver requestor frequency hfree hpayload,
      Frame.surfaces_followUp s.interface.address _ requestor hpayload⟩⟩

/-- A follow-up of two octets, captured with a flags field and a checksum by a node whose own
address is another one. -/
theorem sent_payload_surfaces_greeting :
    let source : Address := { octets := [0x02, 0x00, 0x00, 0x00, 0x00, 0x01] }
    let other : Address := { octets := [0x02, 0x00, 0x00, 0x00, 0x00, 0x02] }
    let s := start ⟨3, "wlan0", source, 0, 1, ⟨2⟩, none⟩ ⟨2437, 20, 20, 30⟩
    let packet := [0x00, 0x00, 0x09, 0x00, 0x02, 0x00, 0x00, 0x00, 0x10]
      ++ Frame.followUp source .broadcast 5 [0x68, 0x69] ++ [0xDE, 0xAD, 0xBE, 0xEF]
    s.isSuppressed (Link.start 0 []).clock = false ∧
    ([0x68, 0x69] : Bytes).length ≤ Frame.maxPayload ∧
    Captured (Frame.followUp source .broadcast 5 [0x68, 0x69]) packet ∧
    PacketFilter.run PacketFilter.networkFilter packet = PacketFilter.accepted ∧
    Pipeline.process ⟨1, [other]⟩ .empty packet 7 =
      ({ outcome := .attributes 1
         events := [.attribute source 0x03
           (Frame.serviceId ++ [0x80, 5, 0x12, 2, 0x68, 0x69]) 1 7]
         notes := [] }, .empty) := by
  intro source other s packet
  have hcaptured : Captured (Frame.followUp source .broadcast 5 [0x68, 0x69]) packet :=
    .intro _ _ ⟨9, true⟩ (by decide) rfl rfl
  have hsent := s.sent_payload_surfaces (Link.start 0 []) [0x68, 0x69] (by decide) rfl true none 5
    2437 20
  obtain ⟨haccepted, hsurfaced⟩ := hsent.2.2 packet hcaptured
  exact ⟨rfl, by decide, hcaptured, haccepted, hsurfaced ⟨1, [other]⟩ .empty 7 (by decide)⟩

end Session

end NeighborAwareness
