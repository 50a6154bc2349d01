import NeighborAwareness.Proofs.Undecodable

/-!
# Waiting to be acknowledged

A request for events, and one to bring an interface up, read their mailbox until the answer to them
ends. Whatever comes in between is passed over, be it an event, something about another request or a
part of the answer. The first end or failure of their own is what comes of them, and what follows it
is left for the next to receive. So no event is lost that comes behind the acknowledgement.

## Main definitions

* `Mailbox.receiveMany` : what some receipts in a row give.
* `Received.settles`, `Received.ending` : what ends the wait of a request, and how.
* `Mailbox.Hears` : what a waiting request reads.

## Main results

* `Received.ending_cases` : what settles a request is an end or a failure.
* `Mailbox.exists_hears` : what a waiting request reads, what comes of it and what it leaves.
* `Connection.receiveEvents_eq_flatMap` : the events that some receipts hand on.
* `Connection.requests_hear_their_own_end` : what ends the wait of a request, and what does not.
-/

namespace NeighborAwareness

/-! ### Receipts in a row -/

namespace Mailbox

variable {α : Type} (content : ContentReader α)

/-- What so many receipts in a row give, and the mailbox afterwards. -/
def receiveMany (m : Mailbox) : Nat → List (Received α) × Mailbox
  | 0 => ([], m)
  | count + 1 =>
    let first := m.receive content
    let rest := first.2.receiveMany count
    (first.1 :: rest.1, rest.2)

theorem receiveMany_add (m : Mailbox) (n k : Nat) :
    m.receiveMany content (n + k)
      = ((m.receiveMany content n).1 ++ ((m.receiveMany content n).2.receiveMany content k).1,
        ((m.receiveMany content n).2.receiveMany content k).2) := by
  induction n generalizing m with
  | zero => rw [Nat.zero_add]; rfl
  | succ n ih =>
    rw [Nat.add_right_comm]
    simp only [receiveMany, ih, List.cons_append]

end Mailbox

/-! ### What ends a wait -/

namespace Received

variable {α : Type} (sequence : UInt32) (request : String)

/-- Whether something received ends the wait of the request `sequence`: it is about the request, and
it is not a part of an answer. -/
def settles (r : Received α) : Bool :=
  r.concerns sequence && r.content?.isNone

/-- What comes of a request whose wait ends with something. -/
def ending (r : Received α) : Except Failure Unit :=
  match r.failure? request with
  | some failure => .error failure
  | none => .ok ()

/-- What is noted about something received while the request `sequence` waits: rejections, of other
requests too. -/
def notesFor : Received α → List Note
  | .message ⟨_, .rejected code rejected⟩ =>
    if rejected = sequence then [.requestFailed request code] else [.lateError rejected code]
  | _ => []

variable {sequence request}

/-- What settles a request is an end, and it succeeds, or a failure, and it fails with that. -/
theorem ending_cases (request : String) {r : Received α} (h : r.settles sequence = true) :
    (r.isEnd = true ∧ r.failure? request = none ∧ r.ending request = .ok ())
      ∨ ∃ failure, r.isEnd = false ∧ r.failure? request = some failure
        ∧ r.ending request = .error failure := by
  obtain ⟨-, hcontent⟩ := Bool.and_eq_true_iff.1 h
  rcases r with ⟨header, body⟩ | _ | failure
  · cases body with
    | content a => contradiction
    | acknowledged => exact .inl ⟨rfl, rfl, rfl⟩
    | finished => exact .inl ⟨rfl, rfl, rfl⟩
    | rejected code rejected => exact .inr ⟨_, rfl, rfl, rfl⟩
  · exact .inl ⟨rfl, rfl, rfl⟩
  · exact .inr ⟨failure, rfl, rfl, rfl⟩

theorem ending_eq_ok_iff {r : Received α} (h : r.settles sequence = true) :
    r.ending request = .ok () ↔ r.isEnd = true := by
  rcases ending_cases request h with ⟨hend, -, hok⟩ | ⟨failure, hend, -, herror⟩
  · exact iff_of_true hok hend
  · rw [herror, hend]
    exact iff_of_false nofun nofun

/-- A request fails when its wait ends with a failure, and with this failure. -/
theorem ending_eq_error_iff {r : Received α} (h : r.settles sequence = true) (failure : Failure) :
    r.ending request = .error failure ↔ r.failure? request = some failure := by
  rcases ending_cases request h with ⟨-, hnone, hok⟩ | ⟨found, -, hsome, herror⟩
  · rw [hok, hnone]
    exact iff_of_false nofun nofun
  · rw [herror, hsome, Except.error.injEq, Option.some.injEq]

/-- What a message means for a request says whether it settles the request, what comes of that and
what is noted. -/
theorem of_judge (request : String) {m : Message α} {judgement : Judgement α} :
    judge sequence m = judgement →
    let r := Received.message m
    match judgement with
    | .content _ => r.settles sequence = false ∧ r.notesFor sequence request = []
    | .stale notes => r.settles sequence = false ∧ r.notesFor sequence request = notes
    | .settled =>
      r.settles sequence = true ∧ r.ending request = .ok () ∧ r.notesFor sequence request = []
    | .rejected code =>
      r.settles sequence = true ∧ r.ending request = .error (.of (.kernel code request))
        ∧ r.notesFor sequence request = [.requestFailed request code] := by
  rintro rfl
  rcases m with ⟨header, body⟩
  cases body with
  | content a =>
    by_cases hown : header.sequence = sequence <;>
      simp [judge, settles, concerns, content?, notesFor, hown]
  | acknowledged =>
    by_cases hown : header.sequence = sequence <;>
      simp [judge, settles, concerns, content?, ending, failure?, notesFor, hown]
  | finished =>
    by_cases hown : header.sequence = sequence <;>
      simp [judge, settles, concerns, content?, ending, failure?, notesFor, hown]
  | rejected code rejected =>
    by_cases hown : rejected = sequence <;>
      simp [judge, settles, concerns, content?, ending, failure?, notesFor, hown]

/-- The events in something received on the event mailbox. -/
def events : Received GenericMessage → List Event
  | .message m => (Connection.eventOf m).1
  | .nothing | .broken _ => []

end Received

/-! ### What a wait reads -/

/-- What the request `sequence` reads from a mailbox while it waits: things that do not settle it,
`passed`, and then `last`, which does. What follows is still in the mailbox `left`. -/
structure Mailbox.Hears {α : Type} (content : ContentReader α) (sequence : UInt32) (m : Mailbox)
    (passed : List (Received α)) (last : Received α) (left : Mailbox) : Prop where
  received : m.receiveMany content (passed.length + 1) = (passed ++ [last], left)
  passed : ∀ r ∈ passed, r.settles sequence = false
  last : last.settles sequence = true

namespace Mailbox

variable {α : Type} {content : ContentReader α} {sequence : UInt32}

namespace Hears

variable {m after left : Mailbox} {passed : List (Received α)} {r last : Received α}

theorem of_receive (hreceive : m.receive content = (r, after))
    (hsettles : r.settles sequence = true) : Hears content sequence m [] r after where
  received := by
    rw [List.length_nil, receiveMany, hreceive]
    rfl
  passed _ hr := absurd hr List.not_mem_nil
  last := hsettles

theorem cons (hreceive : m.receive content = (r, after)) (hsettles : r.settles sequence = false)
    (h : Hears content sequence after passed last left) :
    Hears content sequence m (r :: passed) last left where
  received := by
    have hrest := h.received
    rw [List.length_cons, receiveMany, hreceive]
    simp only [hrest, List.cons_append]
  passed := List.forall_mem_cons.2 ⟨hsettles, h.passed⟩
  last := h.last

theorem receiveMany_add (h : Hears content sequence m passed last left) (count : Nat) :
    (m.receiveMany content (passed.length + 1 + count)).1
      = passed ++ last :: (left.receiveMany content count).1 := by
  rw [Mailbox.receiveMany_add, h.received, List.append_assoc, List.singleton_append]

end Hears

/-- A request that ignores the parts of its answer reads up to the first thing that settles it. What
comes of that comes of the request, and what it passes over matters only for what is noted. -/
theorem exists_hears (content : ContentReader α) (sequence : UInt32) (request : String)
    (m : Mailbox) :
    ∃ passed last left, Hears content sequence m passed last left
      ∧ m.settle content sequence request Connection.ignore ()
        = (last.ending request,
          (passed ++ [last]).flatMap (Received.notesFor sequence request), left) := by
  -- The recursion of the loop is the one of `Hears`: what settles the request ends both.
  generalize hknown : () = known
  fun_induction Mailbox.settle content sequence request Connection.ignore known m with
  | case1 known m after hreceive =>
    exact ⟨[], .nothing, after, .of_receive hreceive rfl, rfl⟩
  | case2 known m failure after hreceive =>
    exact ⟨[], .broken failure, after, .of_receive hreceive rfl, rfl⟩
  | case3 known m message after hreceive hdecrease hjudge =>
    obtain ⟨hsettles, hending, hnotes⟩ := Received.of_judge request hjudge
    refine ⟨[], .message message, after, .of_receive hreceive hsettles, ?_⟩
    rw [hending, List.nil_append, List.flatMap_singleton, hnotes]
  | case4 known m message after hreceive hdecrease code hjudge =>
    obtain ⟨hsettles, hending, hnotes⟩ := Received.of_judge request hjudge
    refine ⟨[], .message message, after, .of_receive hreceive hsettles, ?_⟩
    rw [hending, List.nil_append, List.flatMap_singleton, hnotes]
  | case5 known m message after hreceive hdecrease notes hjudge result more left hrest ih =>
    obtain ⟨hsettles, hnotes⟩ := Received.of_judge request hjudge
    obtain ⟨passed, last, left, hhears, hsettled⟩ := ih hknown
    rw [hrest] at hsettled
    cases hsettled
    refine ⟨.message message :: passed, last, left, hhears.cons hreceive hsettles, ?_⟩
    rw [List.cons_append, List.flatMap_cons, hnotes]
  | case6 known m message after hreceive hdecrease a hjudge failure htake => cases htake
  | case7 known m message after hreceive hdecrease a hjudge next htake ih =>
    obtain ⟨hsettles, hnotes⟩ := Received.of_judge request hjudge
    obtain ⟨passed, last, left, hhears, hsettled⟩ := ih rfl
    refine ⟨.message message :: passed, last, left, hhears.cons hreceive hsettles, ?_⟩
    rw [hsettled, List.cons_append, List.flatMap_cons, hnotes, List.nil_append]

end Mailbox

/-! ### Requests that wait -/

namespace Connection

variable (c : Connection) (h : Host)

/-- Some receipts hand on the events in what the mailbox gives. -/
theorem receiveEvents_eq_flatMap (count : Nat) :
    c.receiveEvents count
      = (c.events.receiveMany GenericMessage.read? count).1.flatMap Received.events := by
  induction count generalizing c with
  | zero => rfl
  | succ count ih =>
    rw [receiveEvents, ih, Mailbox.receiveMany, List.flatMap_cons, receiveEvent]
    split <;> rename_i hreceive <;> rw [hreceive] <;> rfl

/-- A request for events that was sent waits until something settles it. -/
theorem subscribe_hears {command : Command} {attributes : List Attribute} {message : Bytes}
    {m : Mailbox} {sent : Host}
    (hencode : c.encode command attributes .acknowledged c.nextSequence = .ok message)
    (hsend : c.events.send h true message = (.ok (), m, sent)) :
    ∃ passed last left, m.Hears GenericMessage.read? c.nextSequence passed last left
      ∧ c.subscribe h command attributes
        = ((last.ending command.name).map fun () => c.nextSequence,
          { c with events := left, nextSequence := c.nextSequence + 1 },
          sent.noted
            ((passed ++ [last]).flatMap (Received.notesFor c.nextSequence command.name))) := by
  obtain ⟨passed, last, left, hhears, hsettle⟩ :=
    m.exists_hears GenericMessage.read? c.nextSequence command.name
  refine ⟨passed, last, left, hhears, ?_⟩
  have hencode' : ({ c with nextSequence := c.nextSequence + 1 } : Connection).encode command
      attributes .acknowledged c.nextSequence = .ok message := hencode
  simp only [subscribe, number, hencode', hsend, hsettle]

/-- A request to bring an interface up that was sent waits likewise. -/
theorem bringUp_hears {index : UInt32} {opened m : Mailbox} {connected sent : Host}
    (hconnect : Mailbox.connect h SystemCall.routeProtocol = (.ok opened, connected))
    (hsend : opened.send connected true (Message.encode LinkInfo.requestType
      Reply.acknowledged.flags c.nextSequence (LinkInfo.bringUp index)) = (.ok (), m, sent)) :
    let request := s!"set link {index.toNat} up"
    ∃ passed last left, m.Hears LinkInfo.read? c.nextSequence passed last left
      ∧ c.bringUp h index
        = (last.ending request, { c with nextSequence := c.nextSequence + 1 },
          sent.noted ((passed ++ [last]).flatMap (Received.notesFor c.nextSequence request))) := by
  intro request
  obtain ⟨passed, last, left, hhears, hsettle⟩ :=
    m.exists_hears LinkInfo.read? c.nextSequence request
  refine ⟨passed, last, left, hhears, ?_⟩
  simp only [bringUp, number, hconnect, hsend]
  rw [hsettle]

/-- Requests that wait to be acknowledged hear nothing else. What one reads, once it was sent, is
things that do not settle it, `passed`, and one thing that does, `last`. It succeeds exactly when
this is an end, and fails exactly when it is a failure, with that failure; an acknowledgement that
nobody expects is a failure to receive. What was passed is noted at most. What follows stays in the
mailbox: after a request for events, the event loop hands on exactly the events behind `last`. A
request to bring an interface up leaves both mailboxes of the connection alone. -/
theorem requests_hear_their_own_end :
    (∀ (command : Command) (attributes : List Attribute) (message : Bytes) (m : Mailbox)
        (sent : Host),
      c.encode command attributes .acknowledged c.nextSequence = .ok message →
      c.events.send h true message = (.ok (), m, sent) →
      let called := c.subscribe h command attributes
      ∃ passed last left, m.Hears GenericMessage.read? c.nextSequence passed last left
        ∧ (called.1 = .ok c.nextSequence ↔ last.isEnd = true)
        ∧ (∀ failure, called.1 = .error failure ↔ last.failure? command.name = some failure)
        ∧ called.2.1 = { c with events := left, nextSequence := c.nextSequence + 1 }
        ∧ called.2.2 = sent.noted
          ((passed ++ [last]).flatMap (Received.notesFor c.nextSequence command.name))
        ∧ ∀ (later : Host) (polls : List Poll), ∃ behind,
          (m.receiveMany GenericMessage.read? (passed.length + 1 + Poll.receipts polls)).1
              = passed ++ last :: behind
            ∧ (called.2.1.listen later polls).2.1 = behind.flatMap Received.events)
    ∧ ∀ (index : UInt32) (opened m : Mailbox) (connected sent : Host),
      Mailbox.connect h SystemCall.routeProtocol = (.ok opened, connected) →
      opened.send connected true (Message.encode LinkInfo.requestType Reply.acknowledged.flags
        c.nextSequence (LinkInfo.bringUp index)) = (.ok (), m, sent) →
      let called := c.bringUp h index
      let request := s!"set link {index.toNat} up"
      ∃ passed last left, m.Hears LinkInfo.read? c.nextSequence passed last left
        ∧ (called.1 = .ok () ↔ last.isEnd = true)
        ∧ (∀ failure, called.1 = .error failure ↔ last.failure? request = some failure)
        ∧ called.2.1 = { c with nextSequence := c.nextSequence + 1 }
        ∧ called.2.2 = sent.noted
          ((passed ++ [last]).flatMap (Received.notesFor c.nextSequence request)) := by
  constructor
  · intro command attributes message m sent hencode hsend called
    obtain ⟨passed, last, left, hhears, hcalled⟩ := c.subscribe_hears h hencode hsend
    have hresult : called.1 = (last.ending command.name).map fun () => c.nextSequence :=
      congrArg (·.1) hcalled
    refine ⟨passed, last, left, hhears, ?_, fun failure => ?_, ?_, ?_, fun later polls =>
      ⟨_, hhears.receiveMany_add (Poll.receipts polls), ?_⟩⟩
    · rw [hresult, ← Received.ending_eq_ok_iff hhears.last]
      cases last.ending command.name with
      | ok => exact iff_of_true rfl rfl
      | error failure => exact iff_of_false nofun nofun
    · rw [hresult, ← Received.ending_eq_error_iff hhears.last]
      cases last.ending command.name with
      | ok => exact iff_of_false nofun nofun
      | error found => rw [Except.map, Except.error.injEq, Except.error.injEq]
    · exact congrArg (·.2.1) hcalled
    · exact congrArg (·.2.2) hcalled
    · rw [congrArg (·.2.1) hcalled, events_listen, receiveEvents_eq_flatMap]
  · intro index opened m connected sent hconnect hsend called request
    obtain ⟨passed, last, left, hhears, hcalled⟩ := c.bringUp_hears h hconnect hsend
    have hresult : called.1 = last.ending request := congrArg (·.1) hcalled
    refine ⟨passed, last, left, hhears, ?_, fun failure => ?_, ?_, ?_⟩
    · rw [hresult, Received.ending_eq_ok_iff hhears.last]
    · rw [hresult, Received.ending_eq_error_iff hhears.last]
    · exact congrArg (·.2.1) hcalled
    · exact congrArg (·.2.2) hcalled

/-- How the kernel answers the request `sequence`: with a code, zero if it is carried out, and the
request again. -/
def answerTo (sequence : UInt32) (code : Nat) (payload : Bytes) : Bytes :=
  Message.encode Message.answerType 0 sequence
    (LittleEndian.encode 4 code ++ MessageHeader.encode ⟨16, 28, 0, sequence, 0⟩ ++ payload)

/-- A connection that receives an announcement, the late rejection of another request, the
acknowledgement of the first request, and another announcement. -/
def announcedAround : Connection :=
  receiving [.data announcement,
    .data (answerTo 7 0xFFFFFFFE [58, 0, 0, 0] ++ answerTo 1 0 [] ++ announcement)]

/-- A host on which the next socket reads the acknowledgement of the first request. -/
def acknowledging : Host :=
  .start 0 [{ SocketScript.idle with reads := [.data (answerTo 1 0 [])] }]

/-- The request for events succeeds, and the announcement behind the acknowledgement is handed on.
Bringing an interface up succeeds too. -/
theorem results_announcedAround :
    let called := announcedAround.subscribe (.start 0 []) .registerFrame []
    called.1 = .ok 1
      ∧ (called.2.1.listen (.start 0 []) [.ready 1]).2.1 = [⟨.newRadio, 0, []⟩]
      ∧ (announcedAround.bringUp acknowledging 3).1 = .ok () := by
  decide +kernel

/-- The wait of the request for events ends well, and the announcement behind the acknowledgement is
still there. The wait to bring an interface up ends well too. -/
theorem requests_hear_their_own_end_announcedAround :
    (∃ message m sent,
      announcedAround.encode .registerFrame [] .acknowledged announcedAround.nextSequence
          = .ok message
        ∧ announcedAround.events.send (.start 0 []) true message = (.ok (), m, sent)
        ∧ ∃ passed last left behind,
          m.Hears GenericMessage.read? announcedAround.nextSequence passed last left
            ∧ last.isEnd = true
            ∧ (m.receiveMany GenericMessage.read? (passed.length + 1 + 1)).1
              = passed ++ last :: behind
            ∧ behind.flatMap Received.events = [⟨.newRadio, 0, []⟩])
    ∧ ∃ opened m connected sent,
      Mailbox.connect acknowledging SystemCall.routeProtocol = (.ok opened, connected)
        ∧ opened.send connected true (Message.encode LinkInfo.requestType
          Reply.acknowledged.flags announcedAround.nextSequence (LinkInfo.bringUp 3))
          = (.ok (), m, sent)
        ∧ ∃ passed last left,
          m.Hears LinkInfo.read? announcedAround.nextSequence passed last left
            ∧ last.isEnd = true := by
  obtain ⟨hsubscribed, hhanded, hup⟩ := results_announcedAround
  constructor
  · obtain ⟨passed, last, left, hhears, hok, -, -, -, hlisten⟩ :=
      (announcedAround.requests_hear_their_own_end (.start 0 [])).1 .registerFrame [] _ _ _ rfl rfl
    obtain ⟨behind, hbehind, hevents⟩ := hlisten (.start 0 []) [.ready 1]
    exact ⟨_, _, _, rfl, rfl, passed, last, left, behind, hhears, hok.1 hsubscribed, hbehind,
      hevents.symm.trans hhanded⟩
  · obtain ⟨passed, last, left, hhears, hok, -⟩ :=
      (announcedAround.requests_hear_their_own_end acknowledging).2 3 _ _ _ _ rfl rfl
    exact ⟨_, _, _, _, rfl, rfl, passed, last, left, hhears, hok.1 hup⟩

end Connection

end NeighborAwareness
