import NeighborAwareness.Session.Basic

/-!
# Runs of a session

Over time a session is asked to send this and that, and transmit statuses arrive. Each operation is a
plan, a list of frames that are handed to the link one after the other until one fails, unless it is
suppressed or its payload is too large. What a session then knows about its sends depends only on the
transmissions that it made.

## Main definitions

* `Link.Carries` : the transmissions that a link has carried.
* `Session.Operation.plan` : the frames of an operation.
* `Session.learn` : what a session knows after one more transmission.
* `Session.Step`, `Session.run` : a run of a session, and the record of it.

## Main results

* `Session.Operation.perform_eq` : an operation is its plan.
* `Link.Carries.transmissions_eq`, `Session.dispatchAll_carries` : the transmissions of a plan, and
  what the session learns from them.
-/

namespace NeighborAwareness

/-! ### What a link carries -/

namespace Link

/-- The link when some time has passed, with the answers that it will give from then on. -/
def later (l : Link) (wait : Nat) (answers : List Answer) : Link :=
  (l.waitUntil (l.clock + wait)).prepared answers

/-- A request that nobody waits for, as a transmission. -/
def transmission (l : Link) (command : Command) (attributes : List Attribute) : Transmission where
  began := l.clock
  took := (l.take (.send command attributes)).1.took
  call := .send command attributes
  outcome := (l.send command attributes).1

/-- `l.Carries sent after` says that the link is `after` when `l` has carried `sent`, but for
notes. -/
inductive Carries : Link → List Transmission → Link → Prop
  | done (l : Link) (notes : List Note) : Carries l [] (l.noted notes)
  | send {l after : Link} {sent : List Transmission} (command : Command)
      (attributes : List Attribute) : Carries (l.send command attributes).2 sent after →
      Carries l (l.transmission command attributes :: sent) after

variable {l after : Link} {sent : List Transmission}

@[simp] theorem clock_later (wait : Nat) (answers : List Answer) :
    (l.later wait answers).clock = l.clock + wait :=
  Nat.max_eq_right (Nat.le_add_right ..)

theorem clock_send (command : Command) (attributes : List Attribute) :
    (l.send command attributes).2.clock
      = l.clock + (l.transmission command attributes).took := by
  simp only [send, number]
  split <;> rfl

theorem calls_send (command : Command) (attributes : List Attribute) :
    (l.send command attributes).2.calls
      = l.calls ++ [(l.clock, .send command attributes)] := by
  simp only [send, number]
  split <;> rfl

namespace Carries

theorem nothing (l : Link) : l.Carries [] l := by
  have h := done l []
  rwa [noted, List.append_nil] at h

theorem exists_calls (h : l.Carries sent after) :
    ∃ calls, after.calls = l.calls ++ calls ∧ l.replay calls = sent := by
  induction h with
  | done l notes => exact ⟨[], (List.append_nil _).symm, rfl⟩
  | @send l after sent command attributes _ ih =>
    obtain ⟨calls, hcalls, hreplay⟩ := ih
    refine ⟨(l.clock, .send command attributes) :: calls, ?_, ?_⟩
    · rw [hcalls, calls_send, List.append_assoc, List.singleton_append]
    · rw [replay, ← hreplay]
      rfl

theorem calls_eq (h : l.Carries sent after) :
    after.calls = l.calls ++ sent.map fun t => (t.began, t.call) := by
  induction h with
  | done l notes => exact (List.append_nil _).symm
  | send command attributes _ ih =>
    rw [ih, calls_send, List.append_assoc]
    rfl

theorem transmissions_eq (h : l.Carries sent after) : l.transmissions after = sent := by
  obtain ⟨calls, hcalls, hreplay⟩ := h.exists_calls
  rw [transmissions, hcalls, List.drop_left, hreplay]

theorem transmissions_self (l : Link) : l.transmissions l = [] :=
  (nothing l).transmissions_eq

theorem transmissions_noted (l : Link) (notes : List Note) :
    l.transmissions (l.noted notes) = [] :=
  (done l notes).transmissions_eq

theorem eq_nil_of_calls_eq (h : l.Carries sent after) (hcalls : after.calls = l.calls) :
    sent = [] := by
  obtain ⟨calls, happend, hreplay⟩ := h.exists_calls
  rw [hcalls, List.self_eq_append_right] at happend
  rw [← hreplay, happend]
  rfl

theorem clock_le (h : l.Carries sent after) : l.clock ≤ after.clock := by
  induction h with
  | done l notes => exact Nat.le_refl _
  | send command attributes _ ih =>
    rw [clock_send] at ih
    omega

theorem began_le (h : l.Carries sent after) {t : Transmission} (ht : t ∈ sent) :
    l.clock ≤ t.began ∧ t.returned ≤ after.clock := by
  induction h with
  | done l notes => exact absurd ht List.not_mem_nil
  | @send l after sent command attributes hrest ih =>
    rcases List.mem_cons.1 ht with rfl | ht
    · have hlater := hrest.clock_le
      rw [clock_send] at hlater
      exact ⟨Nat.le_refl _, hlater⟩
    · have hlater := ih ht
      rw [clock_send] at hlater
      omega

theorem began_of_head? (h : l.Carries sent after) {t : Transmission} (ht : sent.head? = some t) :
    t.began = l.clock := by
  cases h with
  | done => cases ht
  | send command attributes _ =>
    obtain rfl := Option.some.inj ht
    rfl

end Carries

end Link

/-! ### Operations -/

namespace Session

/-- What a session knows after one more transmission. -/
def learn (s : Session) (t : Transmission) : Session :=
  match t.outcome with
  | .ok sequence =>
    { s with
      books := { s.books with
        lastSent := some t.began
        lastSubmit := some t.took
        lastSequence := some sequence }
      awaiting := true }
  | .error _ => { s with books := { s.books with failures := s.books.failures + 1 } }

/-- A frame to be handed to the link, with the scratch memory at that time. -/
structure Dispatch where
  scratch : Scratch
  frame : Bytes
  frequency : UInt32
  dwell : UInt32

/-- Hands frames to the link one after the other, until one fails. -/
def dispatchAll (s : Session) (l : Link) : List Dispatch → Except Failure Unit × Session × Link
  | [] => (.ok (), s, l)
  | d :: rest =>
    match { s with scratch := d.scratch }.transmit l d.frame d.frequency d.dwell with
    | (.ok (), s, l) => s.dispatchAll l rest
    | (.error failure, s, l) => (.error failure, s, l)

/-- The call that a frame makes. -/
def ask (s : Session) (d : Dispatch) : Call :=
  .send .frame (s.request d.frame d.frequency d.dwell)

/-- `Dispatched ask frames sent result` says that `sent` are the transmissions of `frames`, of which
all but the last succeeded, and that `result` is what became of the last. -/
inductive Dispatched (ask : Dispatch → Call) :
    List Dispatch → List Transmission → Except Failure Unit → Prop
  | done : Dispatched ask [] [] (.ok ())
  | failed {d : Dispatch} {t : Transmission} (frames : List Dispatch) (failure : Failure) :
      t.call = ask d → t.succeeded = false → Dispatched ask (d :: frames) [t] (.error failure)
  | sent {d : Dispatch} {t : Transmission} {frames : List Dispatch} {sent : List Transmission}
      {result : Except Failure Unit} :
      t.call = ask d → t.succeeded = true → Dispatched ask frames sent result →
      Dispatched ask (d :: frames) (t :: sent) result

namespace Operation

/-- The frames of an operation at the Unix second `wall`, or why there are none. -/
def plan (s : Session) (wall : UInt64) : Operation → Except Failure (List Dispatch)
  | raw frame frequency dwell => .ok [⟨s.scratch, frame, frequency, dwell⟩]
  | beacon sync =>
    let beacon := Frame.beacon s.interface.address sync wall
    let discovery := Frame.discovery s.interface.address beaconPayload true
    let scratch := s.scratch.write beacon
    .ok [⟨scratch, beacon, s.settings.frequency, s.settings.beaconDwell⟩,
      ⟨scratch.write discovery, discovery, s.settings.frequency, s.settings.discoveryDwell⟩]
  | discovery payload publish dwell =>
    match Frame.checkPayload payload Frame.discoveryFixed with
    | .error failure => .error failure
    | .ok () =>
      let frame := Frame.discovery s.interface.address payload publish
      .ok [⟨s.scratch.write frame, frame, s.settings.frequency, dwell⟩]
  | followUp receiver requestor frequency payload =>
    match Frame.checkPayload payload Frame.followUpFixed with
    | .error failure => .error failure
    | .ok () =>
      let frame :=
        Frame.followUp s.interface.address (receiver.getD .broadcast) requestor payload
      .ok [⟨s.scratch.write frame, frame, frequency, s.settings.followUpDwell⟩]

end Operation

variable (s : Session) (l : Link)

@[simp] theorem interface_learn (t : Transmission) : (s.learn t).interface = s.interface := by
  rw [learn]
  split <;> rfl

@[simp] theorem settings_learn (t : Transmission) : (s.learn t).settings = s.settings := by
  rw [learn]
  split <;> rfl

@[simp] theorem scratch_learn (t : Transmission) : (s.learn t).scratch = s.scratch := by
  rw [learn]
  split <;> rfl

/-- A frame is accepted or fails, and in either case the session learns of it. -/
theorem transmit_cases (frame : Bytes) (frequency dwell : UInt32) :
    let request := s.request frame frequency dwell
    let t := l.transmission .frame request
    (t.succeeded = true
        ∧ s.transmit l frame frequency dwell = (.ok (), s.learn t, (l.send .frame request).2))
      ∨ (t.succeeded = false ∧ ∃ failure notes, s.transmit l frame frequency dwell
        = (.error failure, s.learn t, (l.send .frame request).2.noted notes)) := by
  intro request t
  have hclock := Link.clock_send (l := l) .frame request
  rw [transmit, learn]
  cases hsend : l.send .frame request with
  | mk outcome after =>
    have houtcome : t.outcome = outcome := congrArg Prod.fst hsend
    rw [hsend] at hclock
    rw [Transmission.succeeded, houtcome]
    cases outcome with
    | ok sequence =>
      have htook : after.clock - l.clock = t.took := by
        rw [hclock]
        exact Nat.add_sub_cancel_left ..
      refine .inl ⟨rfl, ?_⟩
      dsimp only
      rw [htook]
      rfl
    | error failure => exact .inr ⟨rfl, failure, _, rfl⟩

theorem dispatchAll_singleton (d : Dispatch) :
    s.dispatchAll l [d]
      = { s with scratch := d.scratch }.transmit l d.frame d.frequency d.dwell := by
  rw [dispatchAll]
  split <;> rename_i htransmit <;> rw [htransmit]
  rfl

theorem transmitBuilt_write {frame : Bytes} (h : frame.length ≤ Frame.capacity)
    (frequency dwell : UInt32) :
    s.transmitBuilt l (.ok (frame.length, s.scratch.write frame)) frequency dwell
      = { s with scratch := s.scratch.write frame }.transmit l frame frequency dwell := by
  rw [transmitBuilt, Scratch.frame_write _ h]

/-- A discovery frame is laid out and transmitted unless its payload is refused. -/
theorem transmitDiscovery_eq (payload : Bytes) (publish : Bool) (dwell : UInt32) :
    s.transmitDiscovery l payload publish dwell
      = match Frame.checkPayload payload Frame.discoveryFixed with
        | .error failure => (.error failure, s, l)
        | .ok () =>
          let frame := Frame.discovery s.interface.address payload publish
          { s with scratch := s.scratch.write frame }.transmit l frame s.settings.frequency dwell := by
  rw [transmitDiscovery, Scratch.putDiscovery, Scratch.composeDiscovery_eq]
  cases hcheck : Frame.checkPayload payload Frame.discoveryFixed with
  | error failure => rfl
  | ok =>
    have hroom := Frame.add_length_le_of_checkPayload (by decide) hcheck
    rw [← Frame.length_discovery s.interface.address payload publish] at hroom
    exact s.transmitBuilt_write l hroom _ _

/-- A follow-up is laid out and transmitted unless its payload is refused. -/
theorem transmitFollowUp_eq (receiver : Address) (requestor : UInt8) (payload : Bytes)
    (frequency dwell : UInt32) :
    s.transmitBuilt l (s.scratch.putFollowUp s.interface.address receiver requestor payload)
        frequency dwell
      = match Frame.checkPayload payload Frame.followUpFixed with
        | .error failure => (.error failure, s, l)
        | .ok () =>
          let frame := Frame.followUp s.interface.address receiver requestor payload
          { s with scratch := s.scratch.write frame }.transmit l frame frequency dwell := by
  rw [Scratch.putFollowUp, Scratch.composeFollowUp_eq]
  cases hcheck : Frame.checkPayload payload Frame.followUpFixed with
  | error failure => rfl
  | ok =>
    have hroom := Frame.add_length_le_of_checkPayload (by decide) hcheck
    rw [← Frame.length_followUp s.interface.address receiver requestor payload] at hroom
    exact s.transmitBuilt_write l hroom _ _

theorem checkPayload_beaconPayload :
    Frame.checkPayload beaconPayload Frame.discoveryFixed = .ok () := by
  rfl

/-- An operation that is not suppressed hands the frames of its plan to the link, if it has one. -/
theorem Operation.perform_eq (operation : Operation) :
    operation.perform s l
      = if s.isSuppressed l.clock then (.ok (), s, l.noted [.suppressed])
        else match operation.plan s l.wallSeconds with
          | .error failure => (.error failure, s, l)
          | .ok frames => s.dispatchAll l frames := by
  cases operation with
  | raw frame frequency dwell =>
    rw [perform, sendRaw, unlessSuppressed, plan]
    dsimp only
    rw [dispatchAll_singleton]
  | beacon sync =>
    have hroom : (Frame.beacon s.interface.address sync l.wallSeconds).length ≤ Frame.capacity := by
      rw [Frame.length_beacon]
      decide
    have hbuilt := s.transmitBuilt_write l hroom s.settings.frequency s.settings.beaconDwell
    rw [Frame.length_beacon] at hbuilt
    rw [perform, sendBeacon, unlessSuppressed, plan]
    dsimp only
    rw [dispatchAll, Scratch.putBeacon_eq, hbuilt]
    dsimp only
    rcases transmit_cases { s with scratch := s.scratch.write _ } l _ _ _ with
      ⟨-, htransmit⟩ | ⟨-, failure, notes, htransmit⟩
    · -- The discovery frame is laid out over the beacon, for which only the scratch memory matters.
      rw [htransmit]
      dsimp only
      rw [transmitDiscovery_eq, checkPayload_beaconPayload, dispatchAll_singleton]
      simp only [interface_learn, settings_learn, scratch_learn]
    · rw [htransmit]
  | discovery payload publish dwell =>
    rw [perform, sendDiscovery, unlessSuppressed, plan, transmitDiscovery_eq]
    cases Frame.checkPayload payload Frame.discoveryFixed with
    | error failure => rfl
    | ok =>
      dsimp only
      rw [dispatchAll_singleton]
  | followUp receiver requestor frequency payload =>
    rw [perform, sendFollowUp, unlessSuppressed, plan, transmitFollowUp_eq]
    cases Frame.checkPayload payload Frame.followUpFixed with
    | error failure => rfl
    | ok =>
      dsimp only
      rw [dispatchAll_singleton]

theorem learn_scratch (scratch : Scratch) (t : Transmission) :
    { s with scratch }.learn t = { s.learn t with scratch } := by
  rw [learn, learn]
  split <;> rfl

theorem foldl_learn_scratch (scratch : Scratch) (sent : List Transmission) :
    sent.foldl learn { s with scratch } = { sent.foldl learn s with scratch } := by
  induction sent generalizing s with
  | nil => rfl
  | cons t sent ih => rw [List.foldl_cons, List.foldl_cons, learn_scratch, ih]

theorem ask_learn (t : Transmission) : (s.learn t).ask = s.ask := by
  funext d
  simp only [ask, request, interface_learn]

/-- The transmissions of some frames, and what the session learns from them. -/
theorem dispatchAll_carries (frames : List Dispatch) :
    ∃ sent scratch, l.Carries sent (s.dispatchAll l frames).2.2
      ∧ Dispatched s.ask frames sent (s.dispatchAll l frames).1
      ∧ (s.dispatchAll l frames).2.1 = { sent.foldl learn s with scratch } := by
  induction frames generalizing s l with
  | nil => exact ⟨[], s.scratch, .nothing l, .done, rfl⟩
  | cons d rest ih =>
    rw [dispatchAll]
    rcases transmit_cases { s with scratch := d.scratch } l d.frame d.frequency d.dwell with
      ⟨hsucceeded, htransmit⟩ | ⟨hfailed, failure, notes, htransmit⟩
    · rw [htransmit]
      dsimp only
      obtain ⟨sent, scratch, hcarries, hdispatched, hsession⟩ := ih
        ({ s with scratch := d.scratch }.learn _) (l.send .frame _).2
      rw [ask_learn] at hdispatched
      refine ⟨_ :: sent, scratch, .send _ _ hcarries, .sent rfl hsucceeded hdispatched, ?_⟩
      rw [hsession, learn_scratch, foldl_learn_scratch]
      rfl
    · rw [htransmit]
      refine ⟨[_], d.scratch, .send _ _ (.done _ notes), .failed rest failure rfl hfailed, ?_⟩
      exact s.learn_scratch d.scratch _

theorem Operation.length_plan {operation : Operation} {wall : UInt64} {frames : List Dispatch}
    (h : operation.plan s wall = .ok frames) :
    ((∃ sync, operation = .beacon sync) ∧ frames.length = 2)
      ∨ ((¬ ∃ sync, operation = .beacon sync) ∧ frames.length = 1) := by
  cases operation with
  | raw frame frequency dwell =>
    obtain rfl := Except.ok.inj h
    exact .inr ⟨by simp, rfl⟩
  | beacon sync =>
    obtain rfl := Except.ok.inj h
    exact .inl ⟨⟨sync, rfl⟩, rfl⟩
  | discovery payload publish dwell =>
    rw [plan] at h
    split at h
    · cases h
    · obtain rfl := Except.ok.inj h
      exact .inr ⟨by simp, rfl⟩
  | followUp receiver requestor frequency payload =>
    rw [plan] at h
    split at h
    · cases h
    · obtain rfl := Except.ok.inj h
      exact .inr ⟨by simp, rfl⟩

theorem Operation.plan_ne_nil {operation : Operation} {wall : UInt64} {frames : List Dispatch}
    (h : operation.plan s wall = .ok frames) : frames ≠ [] := by
  rintro rfl
  rcases operation.length_plan s h with ⟨-, htwo⟩ | ⟨-, hone⟩
  · cases htwo
  · cases hone

namespace Dispatched

variable {ask : Dispatch → Call} {d e : Dispatch} {frames : List Dispatch}
  {sent : List Transmission} {result : Except Failure Unit}

theorem ne_nil (h : Dispatched ask frames sent result) (hframes : frames ≠ []) : sent ≠ [] := by
  cases h with
  | done => exact absurd rfl hframes
  | failed => exact List.cons_ne_nil _ _
  | sent => exact List.cons_ne_nil _ _

theorem of_singleton (h : Dispatched ask [d] sent result) : ∃ t, sent = [t] ∧ t.call = ask d := by
  cases h with
  | failed _ _ hcall _ => exact ⟨_, rfl, hcall⟩
  | sent hcall _ hrest =>
    cases hrest
    exact ⟨_, rfl, hcall⟩

/-- Of two frames the second is transmitted if the first is accepted. -/
theorem of_pair (h : Dispatched ask [d, e] sent result) :
    ∃ t, t.call = ask d ∧ (t.succeeded = false ∧ sent = [t]
      ∨ t.succeeded = true ∧ ∃ u, u.call = ask e ∧ sent = [t, u]) := by
  cases h with
  | failed _ _ hcall hfailed => exact ⟨_, hcall, .inl ⟨hfailed, rfl⟩⟩
  | sent hcall hsucceeded hrest =>
    obtain ⟨u, rfl, hu⟩ := hrest.of_singleton
    exact ⟨_, hcall, .inr ⟨hsucceeded, u, hu, rfl⟩⟩

end Dispatched

/-- An operation is suppressed, or it has no plan, or the frames of its plan are transmitted. -/
theorem Operation.perform_cases (operation : Operation) :
    let after := operation.perform s l
    let sent := l.transmissions after.2.2
    (s.isSuppressed l.clock = true ∧ after = (.ok (), s, l.noted [.suppressed]) ∧ sent = [])
      ∨ (s.isSuppressed l.clock = false
        ∧ ∃ failure, after = (.error failure, s, l) ∧ sent = [])
      ∨ (s.isSuppressed l.clock = false ∧ ∃ frames scratch,
        operation.plan s l.wallSeconds = .ok frames ∧ l.Carries sent after.2.2
          ∧ Dispatched s.ask frames sent after.1
          ∧ after.2.1 = { sent.foldl learn s with scratch }) := by
  rw [perform_eq]
  cases hsuppressed : s.isSuppressed l.clock with
  | true => exact .inl ⟨rfl, rfl, Link.Carries.transmissions_noted ..⟩
  | false =>
    rw [if_neg Bool.false_ne_true]
    cases hplan : operation.plan s l.wallSeconds with
    | error failure => exact .inr (.inl ⟨rfl, failure, rfl, Link.Carries.transmissions_self l⟩)
    | ok frames =>
      obtain ⟨sent, scratch, hcarries, hdispatched, hsession⟩ := s.dispatchAll_carries l frames
      obtain rfl := hcarries.transmissions_eq
      exact .inr (.inr ⟨rfl, frames, scratch, rfl, hcarries, hdispatched, hsession⟩)

/-- Whatever becomes of an operation, the session learns just of the transmissions. -/
theorem Operation.perform_carries (operation : Operation) :
    let after := operation.perform s l
    let sent := l.transmissions after.2.2
    ∃ scratch, l.Carries sent after.2.2 ∧ after.2.1 = { sent.foldl learn s with scratch } := by
  intro after sent
  rcases operation.perform_cases s l with
    ⟨-, hafter, hsent⟩ | ⟨-, failure, hafter, hsent⟩ | ⟨-, -, scratch, -, hcarries, -, hsession⟩
  · rw [show sent = [] from hsent, show after = _ from hafter]
    exact ⟨s.scratch, .done l _, rfl⟩
  · rw [show sent = [] from hsent, show after = _ from hafter]
    exact ⟨s.scratch, .nothing l, rfl⟩
  · exact ⟨scratch, hcarries, hsession⟩

theorem interface_foldl_learn (sent : List Transmission) :
    (sent.foldl learn s).interface = s.interface := by
  induction sent generalizing s with
  | nil => rfl
  | cons t sent ih => rw [List.foldl_cons, ih, interface_learn]

theorem settings_foldl_learn (sent : List Transmission) :
    (sent.foldl learn s).settings = s.settings := by
  induction sent generalizing s with
  | nil => rfl
  | cons t sent ih => rw [List.foldl_cons, ih, settings_learn]

theorem interface_perform (operation : Operation) :
    (operation.perform s l).2.1.interface = s.interface := by
  obtain ⟨scratch, -, hsession⟩ := operation.perform_carries s l
  rw [hsession]
  exact s.interface_foldl_learn _

theorem settings_perform (operation : Operation) :
    (operation.perform s l).2.1.settings = s.settings := by
  obtain ⟨scratch, -, hsession⟩ := operation.perform_carries s l
  rw [hsession]
  exact s.settings_foldl_learn _

/-! ### Runs -/

/-- One step of a run: some time passes, and then an operation is asked for, to which the link gives
the `answers`, or a transmit status arrives. -/
inductive Step where
  | send (wait : Nat) (answers : List Answer) (operation : Operation)
  | status (wait : Nat)
  deriving DecidableEq, Repr

/-- What an operation came to. -/
structure Sending where
  asked : Nat
  operation : Operation
  result : Except Failure Unit
  sent : List Transmission

/-- What a step came to. -/
inductive Record where
  | sending (x : Sending)
  | status (arrived : Nat) (fate : StatusFate)

/-- Takes a step. -/
def step (s : Session) (l : Link) : Step → Record × Session × Link
  | .send wait answers operation =>
    let l := l.later wait answers
    let (result, s, after) := operation.perform s l
    (.sending ⟨l.clock, operation, result, l.transmissions after⟩, s, after)
  | .status wait =>
    let l := l.later wait []
    let (s, fate) := s.status l.clock
    (.status l.clock fate, s, l)

/-- Takes steps one after the other: the record of them, and session and link afterwards. -/
def run (s : Session) (l : Link) : List Step → List Record × Session × Link
  | [] => ([], s, l)
  | x :: rest =>
    let (record, s, l) := s.step l x
    let (records, s, l) := s.run l rest
    (record :: records, s, l)

/-- The operations on record. -/
def sendings (records : List Record) : List Sending :=
  records.filterMap fun
    | .sending x => some x
    | .status .. => none

/-- What became of the statuses on record. -/
def fates (records : List Record) : List StatusFate :=
  records.filterMap fun
    | .sending _ => none
    | .status _ fate => some fate

/-- All transmissions on record. -/
def transmitted (records : List Record) : List Transmission :=
  (sendings records).flatMap Sending.sent

theorem transmitted_append (front back : List Record) :
    transmitted (front ++ back) = transmitted front ++ transmitted back := by
  rw [transmitted, sendings, List.filterMap_append, List.flatMap_append]
  rfl

theorem interface_status (now : Nat) : (s.status now).1.interface = s.interface := by
  rw [status]
  split <;> rfl

theorem settings_status (now : Nat) : (s.status now).1.settings = s.settings := by
  rw [status]
  split <;> rfl

@[simp] theorem books_status (now : Nat) : (s.status now).1.books = s.books := by
  rw [status]
  split <;> rfl

theorem step_status (wait : Nat) :
    s.step l (.status wait)
      = (.status (l.clock + wait) (s.status (l.clock + wait)).2, (s.status (l.clock + wait)).1,
          l.later wait []) := by
  rw [step, Link.clock_later]

theorem run_cons (x : Step) (rest : List Step) :
    s.run l (x :: rest)
      = ((s.step l x).1 :: ((s.step l x).2.1.run (s.step l x).2.2 rest).1,
          ((s.step l x).2.1.run (s.step l x).2.2 rest).2) := rfl

/-- What an operation comes to that is asked for now. -/
def Operation.sending (operation : Operation) (s : Session) (l : Link) : Sending where
  asked := l.clock
  operation := operation
  result := (operation.perform s l).1
  sent := l.transmissions (operation.perform s l).2.2

/-- An operation on record was asked for in some step, after the session had taken those before. -/
theorem exists_step_of_sendings {steps : List Step} {front back : List Sending} {x : Sending}
    (h : sendings (s.run l steps).1 = front ++ x :: back) :
    ∃ (earlier rest : List Step) (wait : Nat) (answers : List Answer) (operation : Operation),
      steps = earlier ++ .send wait answers operation :: rest
        ∧ sendings (s.run l earlier).1 = front
        ∧ x = operation.sending (s.run l earlier).2.1
          ((s.run l earlier).2.2.later wait answers) := by
  induction steps generalizing s l front with
  | nil => exact absurd h (List.append_ne_nil_of_right_ne_nil front (List.cons_ne_nil x back)).symm
  | cons step rest ih =>
    rw [run_cons] at h
    cases step with
    | send wait answers operation =>
      cases front with
      | nil => exact ⟨[], rest, wait, answers, operation, rfl, rfl, (List.cons.inj h).1.symm⟩
      | cons y front =>
        obtain ⟨rfl, hrest⟩ := List.cons.inj h
        obtain ⟨earlier, later, _, _, _, rfl, hfront, hx⟩ := ih _ _ hrest
        exact ⟨_ :: earlier, later, _, _, _, rfl, congrArg (_ :: ·) hfront, hx⟩
    | status wait =>
      obtain ⟨earlier, later, _, _, _, rfl, hfront, hx⟩ := ih _ _ h
      exact ⟨_ :: earlier, later, _, _, _, rfl, hfront, hx⟩

end Session

end NeighborAwareness
