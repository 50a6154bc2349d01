import Mathlib.Data.List.Forall2
import NeighborAwareness.Proofs.SendBookkeeping
import NeighborAwareness.Proofs.Suppression

/-!
# What a session puts on the air

Whatever a session is asked for, its transmissions come in blocks, one for each operation. An
operation that is dropped or refused has an empty block. Otherwise the block is one frame, and for a
beacon that the link accepts two, of which the second is the discovery frame that goes with it. Each
frame is sent as it was laid out or given, with the address of the interface in the place of the
transmitter if the frame is long enough to have one.

## Main definitions

* `Emission`, `Emission.Airs` : a frame to be sent, and its transmission by an interface.
* `Session.Operation.payload`, `Session.Operation.block` : the payload of an operation, and the
  frames that it puts on the air.
* `Session.traffic` : the calls that a link has on record after each step of a run.

## Main results

* `Emission.isSource_addressed` : how a frame is sent.
* `Session.forall₂_block` : the transmissions of an operation are those of its block.
* `Session.Dispatched.error_iff` : an operation fails with its last transmission.
* `Session.traffic_eq` : all calls are transmissions on record.
* `Session.sent_in_blocks` : all of it after any run.
-/

namespace NeighborAwareness

/-- Octets written inside others are found there, and all others stay. -/
theorem Bytes.getElem?_splice {bytes data : Bytes} {offset : Nat}
    (h : offset + data.length ≤ bytes.length) (k : Nat) :
    (bytes.splice offset data)[k]?
      = if offset ≤ k ∧ k < offset + data.length then data[k - offset]? else bytes[k]? := by
  have hfront : (bytes.take offset).length = offset := List.length_take_of_le (by omega)
  rw [splice_eq]
  by_cases hbefore : k < offset
  · rw [if_neg (by omega), List.getElem?_append_left (by omega), List.getElem?_take_of_lt hbefore]
  · rw [List.getElem?_append_right (by omega), hfront]
    by_cases hinside : k < offset + data.length
    · rw [if_pos (by omega), List.getElem?_append_left (by omega)]
    · rw [if_neg (by omega), List.getElem?_append_right (by omega), List.getElem?_drop]
      congr 1
      omega

/-- A frame that is to be sent on a frequency, with the dwell time. -/
structure Emission where
  frame : Bytes
  frequency : UInt32
  dwell : UInt32
  deriving DecidableEq, Repr

namespace Emission

/-- Octets are a frame as an interface sends it: as many, and the same, except that those from 10 to
15 are the address of the interface if the frame has at least 16. -/
structure IsSource (i : Interface) (frame octets : Bytes) : Prop where
  length_eq : octets.length = frame.length
  getElem?_eq : ∀ k, octets[k]?
    = if 16 ≤ frame.length ∧ 10 ≤ k ∧ k < 16 then i.address.octets[k - 10]? else frame[k]?

/-- A transmission sends a frame from an interface. -/
def Airs (i : Interface) (e : Emission) (t : Transmission) : Prop :=
  ∃ octets, IsSource i e.frame octets ∧ t.call = .send .frame
    [.ifindex i.index, .wdev i.device, .wiphyFreq e.frequency, .offchannelTxOk, .duration e.dwell,
      .frame octets]

/-- Frames are sent with the address of the interface. -/
theorem isSource_addressed (i : Interface) (frame : Bytes) :
    IsSource i frame (Session.addressed i frame) := by
  have haddress := i.address.length_octets
  rw [Session.addressed, haddress, Frame.sourceOffset]
  split
  · next hlong =>
    have hinside : 10 + i.address.octets.length ≤ frame.length := by rwa [haddress]
    refine ⟨Bytes.length_splice hinside, fun k => ?_⟩
    rw [Bytes.getElem?_splice hinside, haddress]
    simp only [hlong, true_and, Nat.reduceAdd]
  · next hshort => exact ⟨rfl, fun k => by rw [if_neg fun h => hshort h.1]⟩

end Emission

namespace Link

variable {l after : Link} {sent : List Transmission}

/-- The Unix second by the wall clock at a time. -/
def wallSecondsAt (l : Link) (time : Nat) : UInt64 :=
  { l with clock := time }.wallSeconds

theorem wallSeconds_eq_at (h : after.epoch = l.epoch) :
    after.wallSeconds = l.wallSecondsAt after.clock := by
  rw [wallSecondsAt, wallSeconds, wallSeconds, h]

theorem epoch_send (command : Command) (attributes : List Attribute) :
    (l.send command attributes).2.epoch = l.epoch := by
  simp only [send, number]
  split <;> rfl

theorem Carries.epoch_eq (h : l.Carries sent after) : after.epoch = l.epoch := by
  induction h with
  | done l notes => rfl
  | send command attributes _ ih => rw [ih, epoch_send]

end Link

namespace Session

variable {s : Session} {l : Link} {sent : List Transmission} {result : Except Failure Unit}

/-! ### Blocks -/

namespace Operation

/-- The payload of an operation; frames that are sent as they are, and beacons, have none. -/
def payload : Operation → Bytes
  | raw .. => []
  | beacon _ => []
  | discovery payload _ _ => payload
  | followUp _ _ _ payload => payload

/-- The frames of an operation at the Unix second `wall`, if it is neither dropped nor refused and
the first of them is `accepted` or not. -/
def block (i : Interface) (settings : SendSettings) (wall : UInt64) (accepted : Bool) :
    Operation → List Emission
  | raw frame frequency dwell => [⟨frame, frequency, dwell⟩]
  | beacon sync =>
    ⟨Frame.beacon i.address sync wall, settings.frequency, settings.beaconDwell⟩
      :: if accepted then
        [⟨Frame.discovery i.address [0x01] true, settings.frequency, settings.discoveryDwell⟩]
        else []
  | discovery payload publish dwell =>
    [⟨Frame.discovery i.address payload publish, settings.frequency, dwell⟩]
  | followUp receiver requestor frequency payload =>
    [⟨Frame.followUp i.address (receiver.getD .broadcast) requestor payload, frequency,
      settings.followUpDwell⟩]

/-- Just the operations with a payload of more than 255 octets are refused. -/
theorem check_eq (operation : Operation) :
    operation.check = if operation.payload.length ≤ Frame.maxPayload then .ok ()
      else .error (.of (.payloadTooLarge operation.payload.length Frame.maxPayload)) := by
  cases operation with
  | raw | beacon => rfl
  | discovery payload publish dwell => exact Frame.checkPayload_eq payload (by decide)
  | followUp receiver requestor frequency payload => exact Frame.checkPayload_eq payload (by decide)

theorem isRefused_iff (operation : Operation) :
    (∃ failure, operation.check = .error failure)
      ↔ Frame.maxPayload < operation.payload.length := by
  rw [check_eq]
  split
  · next hfits => exact iff_of_false (fun ⟨_, h⟩ => nomatch h) (Nat.not_lt.2 hfits)
  · next hlarge => exact iff_of_true ⟨_, rfl⟩ (Nat.lt_of_not_le hlarge)

end Operation

theorem airs_of_ask {d : Dispatch} {t : Transmission} (h : t.call = s.ask d) :
    Emission.Airs s.interface ⟨d.frame, d.frequency, d.dwell⟩ t :=
  ⟨_, Emission.isSource_addressed s.interface d.frame, h⟩

namespace Dispatched

variable {ask : Dispatch → Call} {frames : List Dispatch}

/-- Frames fail just if the last transmission of them does. -/
theorem error_iff (h : Dispatched ask frames sent result) :
    (∃ failure, result = .error failure)
      ↔ ∃ t, sent.getLast? = some t ∧ t.succeeded = false := by
  induction h with
  | done => simp
  | failed frames failure _ hfailed => simp [hfailed]
  | @sent d t frames sent result _ hsucceeded hrest ih =>
    cases sent with
    | nil =>
      cases hrest
      simp [hsucceeded]
    | cons u sent => rw [ih, List.getLast?_cons_cons]

end Dispatched

/-- The transmissions of a plan are those of the block. -/
theorem forall₂_block {operation : Operation} {wall : UInt64} {frames : List Dispatch}
    (hplan : operation.plan s wall = .ok frames) (h : Dispatched s.ask frames sent result) :
    List.Forall₂ (Emission.Airs s.interface)
      (operation.block s.interface s.settings wall (sent.head?.any Transmission.succeeded))
      sent := by
  cases operation with
  | raw frame frequency dwell =>
    obtain rfl := Except.ok.inj hplan
    obtain ⟨t, rfl, ht⟩ := h.of_singleton
    exact .cons (airs_of_ask ht) .nil
  | beacon sync =>
    obtain rfl := Except.ok.inj hplan
    obtain ⟨t, ht, ⟨hfailed, rfl⟩ | ⟨hsucceeded, u, hu, rfl⟩⟩ := h.of_pair
    · rw [List.head?_cons, Option.any_some, hfailed]
      exact .cons (airs_of_ask ht) .nil
    · rw [List.head?_cons, Option.any_some, hsucceeded]
      exact .cons (airs_of_ask ht) (.cons (airs_of_ask hu) .nil)
  | discovery payload publish dwell =>
    rw [Operation.plan] at hplan
    split at hplan
    · cases hplan
    · obtain rfl := Except.ok.inj hplan
      obtain ⟨t, rfl, ht⟩ := h.of_singleton
      exact .cons (airs_of_ask ht) .nil
  | followUp receiver requestor frequency payload =>
    rw [Operation.plan] at hplan
    split at hplan
    · cases hplan
    · obtain rfl := Except.ok.inj hplan
      obtain ⟨t, rfl, ht⟩ := h.of_singleton
      exact .cons (airs_of_ask ht) .nil

theorem Operation.sending_cases (operation : Operation) (s : Session) (l : Link) :
    let x := operation.sending s l
    (s.isSuppressed l.clock = true ∧ x.sent = [] ∧ x.result = .ok ())
      ∨ (s.isSuppressed l.clock = false ∧ Frame.maxPayload < operation.payload.length
        ∧ x.sent = [] ∧ ∃ failure, x.result = .error failure)
      ∨ (s.isSuppressed l.clock = false ∧ operation.payload.length ≤ Frame.maxPayload
        ∧ List.Forall₂ (Emission.Airs s.interface) (operation.block s.interface s.settings
          l.wallSeconds (x.sent.head?.any Transmission.succeeded)) x.sent
        ∧ ((∃ failure, x.result = .error failure)
          ↔ ∃ t, x.sent.getLast? = some t ∧ t.succeeded = false)) := by
  intro x
  rcases operation.perform_cases s l with
    ⟨hsuppressed, hperform, hsent⟩ | ⟨hfree, failure, hperform, hsent⟩
      | ⟨hfree, frames, scratch, hplan, -, hdispatched, -⟩
  · exact .inl ⟨hsuppressed, hsent, congrArg Prod.fst hperform⟩
  · have hresult : x.result = .error failure := congrArg Prod.fst hperform
    have hrefused : operation.check = .error failure :=
      s.check_of_perform_error l operation hresult hsent
    have hlarge := operation.isRefused_iff.1 ⟨failure, hrefused⟩
    exact .inr (.inl ⟨hfree, hlarge, hsent, failure, hresult⟩)
  · refine .inr (.inr ⟨hfree, ?_, forall₂_block hplan hdispatched, hdispatched.error_iff⟩)
    rw [← Nat.not_lt, ← operation.isRefused_iff]
    rintro ⟨failure, hrefused⟩
    rw [← operation.plan_eq_error_iff s l.wallSeconds, hplan] at hrefused
    cases hrefused

/-! ### Runs -/

/-- A session and a link later on: the session has the same interface and the same settings, and the
program began in the same second. -/
structure Continues (s : Session) (l : Link) (later : Session) (after : Link) : Prop where
  interface_eq : later.interface = s.interface
  settings_eq : later.settings = s.settings
  epoch_eq : after.epoch = l.epoch

namespace Continues

theorem step (s : Session) (l : Link) (x : Step) :
    Continues s l (s.step l x).2.1 (s.step l x).2.2 := by
  cases x with
  | send wait answers operation =>
    obtain ⟨_, hcarries, -⟩ := operation.perform_carries s (l.later wait answers)
    exact ⟨s.interface_perform _ operation, s.settings_perform _ operation, hcarries.epoch_eq⟩
  | status wait =>
    rw [step_status]
    exact ⟨s.interface_status _, s.settings_status _, rfl⟩

theorem run (s : Session) (l : Link) (steps : List Step) :
    Continues s l (s.run l steps).2.1 (s.run l steps).2.2 := by
  induction steps generalizing s l with
  | nil => exact ⟨rfl, rfl, rfl⟩
  | cons x rest ih =>
    have hfirst := step s l x
    have hrest := ih (s.step l x).2.1 (s.step l x).2.2
    rw [run_cons]
    exact ⟨hrest.interface_eq.trans hfirst.interface_eq, hrest.settings_eq.trans hfirst.settings_eq,
      hrest.epoch_eq.trans hfirst.epoch_eq⟩

end Continues

/-- The calls that the link has on record after each step of a run, step after step. -/
def traffic (s : Session) (l : Link) : List Step → List (Nat × Call)
  | [] => []
  | x :: rest => (s.step l x).2.2.calls ++ (s.step l x).2.1.traffic (s.step l x).2.2 rest

/-- After a step the link has the transmissions of that step on record. -/
theorem calls_step (s : Session) (l : Link) (x : Step) :
    (s.step l x).2.2.calls
      = (transmitted [(s.step l x).1]).map fun t => (t.began, t.call) := by
  cases x with
  | send wait answers operation =>
    obtain ⟨_, hcarries, -⟩ := operation.perform_carries s (l.later wait answers)
    exact hcarries.calls_eq.trans (congrArg (List.map _) (List.append_nil _).symm)
  | status wait =>
    rw [step_status]
    rfl

/-- All calls of a run are transmissions on record, in the order in which they were made. -/
theorem traffic_eq (s : Session) (l : Link) (steps : List Step) :
    s.traffic l steps = (transmitted (s.run l steps).1).map fun t => (t.began, t.call) := by
  induction steps generalizing s l with
  | nil => rfl
  | cons x rest ih =>
    rw [traffic, calls_step, ih, run_cons, ← List.map_append, ← transmitted_append]
    rfl

/-- What a new session puts on the air in any run is one block of transmissions for each operation,
one after the other. An operation is dropped if a transmission of an earlier one succeeded and began
less than 100 milliseconds before, and refused if it has a payload of more than 255 octets. Its
block is then empty. Otherwise the block is the frame that was given or laid out, and for a beacon
that is accepted also the publishing discovery frame with the payload 01. Each of them is one call
to send a frame, with just these six attributes, and the frame is as it was but for the address of
the interface. The operation fails just if it is refused without being dropped or if its last
transmission fails. -/
theorem sent_in_blocks (i : Interface) (settings : SendSettings) (first : Link)
    (steps : List Step) :
    let s := start i settings
    let records := (s.run first steps).1
    (s.traffic first steps).map Prod.snd
        = (sendings records).flatMap (fun x => x.sent.map Transmission.call)
      ∧ ∀ front x back, sendings records = front ++ x :: back →
        let dropped := ∃ t ∈ front.flatMap Sending.sent,
          t.succeeded = true ∧ x.asked < t.began + suppression
        let refused := Frame.maxPayload < x.operation.payload.length
        let accepted := x.sent.head?.any Transmission.succeeded
        (dropped ∨ refused → x.sent = [])
          ∧ (¬ dropped → ¬ refused → List.Forall₂ (Emission.Airs i)
            (x.operation.block i settings (first.wallSecondsAt x.asked) accepted) x.sent)
          ∧ ((∃ failure, x.result = .error failure)
            ↔ ¬ dropped ∧ refused ∨ ∃ t, x.sent.getLast? = some t ∧ t.succeeded = false) := by
  intro s records
  refine ⟨?_, fun front x back hrecords => ?_⟩
  · rw [traffic_eq, List.map_map, transmitted, List.map_flatMap]
    rfl
  intro dropped refused accepted
  obtain ⟨earlier, rest, wait, answers, operation, rfl, rfl, rfl⟩ :=
    exists_step_of_sendings s first hrecords
  set before := s.run first earlier with hbefore
  set l := before.2.2.later wait answers with hl
  have hdropped : before.2.1.isSuppressed l.clock = true ↔ dropped :=
    (Remembers.run (Remembers.start i settings) earlier).isSuppressed_iff l.clock
  have hcontinues : Continues s first before.2.1 before.2.2 := .run s first earlier
  have hwall : l.wallSeconds = first.wallSecondsAt l.clock :=
    Link.wallSeconds_eq_at hcontinues.epoch_eq
  rcases operation.sending_cases before.2.1 l with
    ⟨hsuppressed, hsent, hresult⟩ | ⟨hfree, hlarge, hsent, hfailed⟩
      | ⟨hfree, hfits, hblock, hresult⟩
  · have hyes : dropped := hdropped.1 hsuppressed
    refine ⟨fun _ => hsent, fun hno => absurd hyes hno, ?_⟩
    rw [hresult, hsent]
    simp [hyes]
  · have hno : ¬ dropped := fun h => by rw [hdropped.2 h] at hfree; cases hfree
    have hyes : refused := hlarge
    exact ⟨fun _ => hsent, fun _ hfits => absurd hyes hfits,
      iff_of_true hfailed (.inl ⟨hno, hyes⟩)⟩
  · have hno : ¬ dropped := fun h => by rw [hdropped.2 h] at hfree; cases hfree
    have hnot : ¬ refused := Nat.not_lt.2 hfits
    rw [hcontinues.interface_eq, hcontinues.settings_eq, hwall] at hblock
    refine ⟨fun h => absurd h (not_or.2 ⟨hno, hnot⟩), fun _ _ => hblock, hresult.trans ?_⟩
    simp [hnot]

end Session

end NeighborAwareness
