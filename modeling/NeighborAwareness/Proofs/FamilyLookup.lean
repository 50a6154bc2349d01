import NeighborAwareness.Netlink.Family
import NeighborAwareness.Proofs.Receipts

/-!
# Looking the radio interface up

The controller may spread number and version of the radio interface over several messages, put other
records between them, and tell them twice, and then the last counts. A lookup finds the interface
missing in two ways only: its answer ends before both are told, or the controller says that there is
no such family. What other requests left in the mailbox has no part in it, not even such a
rejection.

## Main definitions

* `Record.familyId?`, `Record.familyVersion?` : what a record tells about a family.
* `Received.told` : what received messages tell, all of them together.
* `Received.IsGenuine` : what can come out of a mailbox.
* `Family.findings` : what a lookup makes of received things.

## Main results

* `Family.findings_eq_ok_iff`, `Family.findings_eq_unavailable_iff`,
  `Family.findings_eq_failure_iff` : when the interface is found, when it is missing, and when the
  lookup fails otherwise.
* `Family.lookup_settled_by_own_answers` : a lookup depends only on its own answers.
-/

namespace NeighborAwareness

/-! ### What records tell -/

namespace Record

/-- The number of a family, in the first two octets of a record of that type. -/
def familyId? (r : Record) : Option UInt16 :=
  if r.type = 1 ∧ 2 ≤ r.data.length then some (UInt16.ofNat (LittleEndian.decode (r.data.take 2)))
  else none

/-- The version of a family, the lowest octet of the word in a record of that type. -/
def familyVersion? (r : Record) : Option UInt8 :=
  if r.type = 3 ∧ 4 ≤ r.data.length then r.data.head? else none

end Record

namespace Family.Found

/-- A record that tells something tells it instead of what was known. -/
theorem learn_eq (f : Found) (r : Record) :
    f.learn r = ⟨r.familyId?.or f.id, r.familyVersion?.or f.version⟩ := by
  rcases f with ⟨id, version⟩
  unfold learn
  by_cases hid : r.type = 1 ∧ 2 ≤ r.data.length
  · have hversion : ¬ (r.type = 3 ∧ 4 ≤ r.data.length) := by
      rw [hid.1]
      simp
    rw [if_pos hid, Record.familyId?, Record.familyVersion?, if_pos hid, if_neg hversion]
    rfl
  · rw [if_neg hid, Record.familyId?, if_neg hid]
    by_cases hversion : r.type = 3 ∧ 4 ≤ r.data.length
    · obtain ⟨b, data, hdata⟩ := List.exists_cons_of_length_pos (by omega : 0 < r.data.length)
      have hlow : UInt8.ofNat (LittleEndian.decode (r.data.take 4)) = b := by
        rw [hdata, List.take_succ_cons, LittleEndian.decode]
        apply UInt8.toNat_inj.1
        have := b.toNat_lt
        rw [UInt8.toNat_ofNat']
        omega
      rw [if_pos hversion, hlow, Record.familyVersion?, if_pos hversion, hdata]
      rfl
    · rw [if_neg hversion, Record.familyVersion?, if_neg hversion]
      rfl

theorem take_eq (f : Found) (m : GenericMessage) : f.take m = .ok (m.records.foldl learn f) :=
  rfl

theorem foldl_learn (f : Found) (records : List Record) :
    records.foldl learn f
      = ⟨(records.filterMap Record.familyId?).getLast?.or f.id,
        (records.filterMap Record.familyVersion?).getLast?.or f.version⟩ := by
  rw [← Record.foldl_latest (fun f r => congrArg Found.id (learn_eq f r)) f records,
    ← Record.foldl_latest (fun f r => congrArg Found.version (learn_eq f r)) f records]

end Family.Found

/-! ### What is received -/

namespace Received

/-- The number of a rejection. -/
def rejection? {α : Type} : Received α → Option Int32
  | .message ⟨_, .rejected code _⟩ => some code
  | _ => none

/-- What can come out of a mailbox: messages, nothing, and the failures of reading from the socket
and of decoding what was read. -/
def IsGenuine {α : Type} : Received α → Prop
  | .broken failure =>
    (∃ number, failure = .of (.system number)) ∨ failure = .of .undecodable
      ∨ failure = .of .incompletePacket ∨ failure = .of .unexpectedAck
  | _ => True

/-- The records in a message. -/
def records (r : Received GenericMessage) : List Record :=
  (r.content?.map GenericMessage.records).getD []

/-- Number and version of a family, as far as messages tell them, all of them together. Of either
the last one counts. -/
def told (messages : List (Received GenericMessage)) : Family.Found where
  id := ((messages.flatMap records).filterMap Record.familyId?).getLast?
  version := ((messages.flatMap records).filterMap Record.familyVersion?).getLast?

theorem foldl_take_eq_told (front : List (Received GenericMessage)) :
    (front.filterMap content?).foldl (fun f m => m.records.foldl Family.Found.learn f) ⟨none, none⟩
      = told front := by
  have hrecords : (front.filterMap content?).flatMap GenericMessage.records
      = front.flatMap records := by
    induction front with
    | nil => rfl
    | cons r front ih =>
      cases hr : r.content? with
      | none => rw [List.filterMap_cons_none hr, ih, List.flatMap_cons, records, hr]; rfl
      | some m =>
        rw [List.filterMap_cons_some hr, List.flatMap_cons, ih, List.flatMap_cons, records, hr]
        rfl
  rw [← List.foldl_flatMap, Family.Found.foldl_learn, told, hrecords, Option.or_none,
    Option.or_none]

end Received

/-! ### What a mailbox yields -/

namespace Mailbox

variable {α : Type} {content : ContentReader α} {m : Mailbox}

theorem isGenuine_of_refill {received : Received α} {after : Mailbox}
    (h : m.refill = (.error received, after)) : received.IsGenuine := by
  unfold refill at h
  split at h
  · split at h
    rename_i reading socket hreading
    dsimp only at h
    split at h
    · rename_i number
      split at h
      · obtain rfl := Except.error.inj (Prod.mk.inj h).1
        trivial
      · obtain rfl := Except.error.inj (Prod.mk.inj h).1
        exact .inl ⟨number, rfl⟩
    · split at h
      · obtain rfl := Except.error.inj (Prod.mk.inj h).1
        trivial
      · cases h
  · cases h

theorem isGenuine_receive (content : ContentReader α) (m : Mailbox) :
    (m.receive content).1.IsGenuine := by
  unfold receive
  split
  · rename_i received after hrefill
    exact isGenuine_of_refill hrefill
  · rename_i after hrefill
    unfold next
    split
    · trivial
    · split
      · exact .inr (.inr (.inl rfl))
      · split
        · exact .inr (.inl rfl)
        · rename_i message hread
          unfold handOut
          split
          · split
            · trivial
            · exact .inr (.inr (.inr rfl))
          · trivial

theorem isGenuine_of_mem_yields {r : Received α} (h : r ∈ m.yields content) : r.IsGenuine := by
  -- The list is built by receiving again and again, so the induction is on how it is built.
  fun_induction Mailbox.yields content m with
  | case1 m message after hreceive hdecrease ih =>
    rcases List.mem_cons.1 h with rfl | hmem
    · trivial
    · exact ih hmem
  | case2 m after hreceive =>
    obtain rfl := List.mem_singleton.1 h
    trivial
  | case3 m failure after hreceive =>
    obtain rfl := List.mem_singleton.1 h
    have hgenuine := isGenuine_receive content m
    rwa [hreceive] at hgenuine

end Mailbox

/-! ### What a lookup finds -/

namespace Family

/-- The family of which number and version are known; without both, there is none. -/
def Found.conclude : Found → Except Failure Family
  | ⟨some id, some version⟩ => .ok ⟨id, version⟩
  | _ => .error (.of .familyUnavailable)

theorem Found.conclude_eq_ok_iff {f : Found} {family : Family} :
    f.conclude = .ok family ↔ f.id = some family.id ∧ f.version = some family.version := by
  rcases f with ⟨_ | id, _ | version⟩
  case some.some => cases family; simp [conclude]
  all_goals simp [conclude]

theorem Found.conclude_eq_error_iff {f : Found} {failure : Failure} :
    f.conclude = .error failure
      ↔ (f.id = none ∨ f.version = none) ∧ failure = .of .familyUnavailable := by
  rcases f with ⟨_ | id, _ | version⟩ <;> simp [conclude, eq_comm]

/-- How a lookup is called where it is reported. -/
def lookupName : String :=
  s!"lookup of family {familyName}"

/-- What a lookup makes of received things. -/
def findings (results : List (Received GenericMessage)) : Except Failure Family :=
  match Received.answer lookupSequence lookupName Found.take ⟨none, none⟩ results with
  | .error failure => .error (lookupFailure failure)
  | .ok found => found.conclude

/-- A lookup that cannot be sent fails, and any other is answered from its mailbox. -/
theorem resolve_eq_findings (h : Host) (m : Mailbox) :
    (resolve h m).1 = (m.send h true lookup).1.bind fun _ =>
      findings ((m.send h true lookup).2.1.yields GenericMessage.read?) := by
  unfold resolve
  split
  · rename_i failure after host hsend
    rw [hsend]
    rfl
  · rename_i after host hsend
    have hanswer := Mailbox.settle_eq_answer GenericMessage.read? lookupSequence lookupName
      Found.take ⟨none, none⟩ after
    rw [hsend, Except.bind, findings, ← hanswer]
    dsimp only [lookupName]
    cases after.settle GenericMessage.read? lookupSequence s!"lookup of family {familyName}"
        Found.take ⟨none, none⟩ with
    | mk result more =>
      rcases result with failure | ⟨_ | id, _ | version⟩ <;> rfl

theorem findings_filter_concerns (results : List (Received GenericMessage)) :
    findings (results.filter (Received.concerns lookupSequence)) = findings results := by
  rw [findings, findings, Received.answer_filter_concerns]

variable {own front rest : List (Received GenericMessage)} {bad : Received GenericMessage}
  {failure : Failure}

/-- At the end of its answer a lookup concludes from what the messages before told. -/
theorem findings_append_of_isEnd (hown : ∀ r ∈ front ++ rest, r.concerns lookupSequence = true)
    (hcontent : ∀ r ∈ front, r.content?.isSome = true) (hend : ∀ r ∈ rest.head?, r.isEnd = true) :
    findings (front ++ rest) = (Received.told front).conclude := by
  have hanswer : Received.answer lookupSequence lookupName Found.take ⟨none, none⟩ (front ++ rest)
      = .ok (Received.told front) := by
    rw [Received.answer_append_of_contents Found.take_eq
      (fun r hr => hown r (List.mem_append_left _ hr)) hcontent, Received.foldl_take_eq_told]
    cases rest with
    | nil => rfl
    | cons r rest => exact Received.answer_cons_of_isEnd (hown r (by simp)) (hend r rfl) _ rest
  rw [findings, hanswer]

/-- A failure behind messages is what a lookup fails with, unless it says that there is no such
family. -/
theorem findings_append_of_failure
    (hown : ∀ r ∈ front ++ bad :: rest, r.concerns lookupSequence = true)
    (hcontent : ∀ r ∈ front, r.content?.isSome = true)
    (hfailure : bad.failure? lookupName = some failure) :
    findings (front ++ bad :: rest) = .error (lookupFailure failure) := by
  rw [findings, Received.answer_append_of_contents Found.take_eq
    (fun r hr => hown r (List.mem_append_left _ hr)) hcontent,
    Received.answer_cons_of_failure (hown bad (by simp)) hfailure]

/-- Of genuine failures only the rejection that says so means that there is no such family. -/
theorem lookupFailure_cases (hgenuine : bad.IsGenuine)
    (hfailure : bad.failure? lookupName = some failure) :
    bad.rejection? = some Errno.notFound ∧ lookupFailure failure = .of .familyUnavailable
      ∨ bad.rejection? ≠ some Errno.notFound ∧ lookupFailure failure = failure
        ∧ failure ≠ .of .familyUnavailable := by
  unfold Received.failure? at hfailure
  split at hfailure
  · obtain rfl := Option.some.inj hfailure
    refine .inr ⟨nofun, ?_⟩
    rcases hgenuine with ⟨number, rfl⟩ | rfl | rfl | rfl <;> exact ⟨rfl, nofun⟩
  · rename_i header code rejected
    obtain rfl := Option.some.inj hfailure
    by_cases hcode : code = Errno.notFound
    · exact .inl ⟨by rw [hcode]; rfl, if_pos hcode⟩
    · exact .inr ⟨fun h => hcode (Option.some.inj h), if_neg hcode, nofun⟩
  · cases hfailure

/-- A lookup is told something by the messages in front of what it receives. Then its answer ends,
or it is rejected because there is no such family, or it fails otherwise. -/
theorem findings_cases (hown : ∀ r ∈ own, r.concerns lookupSequence = true)
    (hgenuine : ∀ r ∈ own, r.IsGenuine) :
    ∃ front rest, own = front ++ rest ∧ (∀ r ∈ front, r.content?.isSome = true)
      ∧ ((∀ r ∈ rest.head?, r.isEnd = true) ∧ findings own = (Received.told front).conclude
        ∨ ∃ bad behind, rest = bad :: behind
          ∧ (bad.rejection? = some Errno.notFound ∧ findings own = .error (.of .familyUnavailable)
            ∨ ∃ failure, bad.rejection? ≠ some Errno.notFound
              ∧ bad.failure? lookupName = some failure ∧ failure ≠ .of .familyUnavailable
              ∧ findings own = .error failure)) := by
  obtain ⟨front, rest, rfl, hcontent, hend | ⟨bad, behind, failure, rfl, hfailure⟩⟩ :=
    Received.exists_contents lookupName own
  · exact ⟨front, rest, rfl, hcontent, .inl ⟨hend, findings_append_of_isEnd hown hcontent hend⟩⟩
  · have hfindings := findings_append_of_failure hown hcontent hfailure
    refine ⟨front, bad :: behind, rfl, hcontent, .inr ⟨bad, behind, rfl, ?_⟩⟩
    rcases lookupFailure_cases (hgenuine bad (by simp)) hfailure with
      ⟨hrejection, hlookup⟩ | ⟨hrejection, hlookup, hne⟩
    · exact .inl ⟨hrejection, by rw [hfindings, hlookup]⟩
    · exact .inr ⟨failure, hrejection, hfailure, hne, by rw [hfindings, hlookup]⟩

/-- A lookup finds a family exactly when its answer ends, and the messages before told, all of them
together, its number and its version. -/
theorem findings_eq_ok_iff (hown : ∀ r ∈ own, r.concerns lookupSequence = true)
    (hgenuine : ∀ r ∈ own, r.IsGenuine) (family : Family) :
    findings own = .ok family
      ↔ ∃ front rest, own = front ++ rest ∧ (∀ r ∈ front, r.content?.isSome = true)
        ∧ (∀ r ∈ rest.head?, r.isEnd = true)
        ∧ (Received.told front).id = some family.id
        ∧ (Received.told front).version = some family.version := by
  constructor
  · intro hfindings
    obtain ⟨front, rest, hsplit, hcontent, ⟨hend, htold⟩ | ⟨bad, behind, rfl,
      ⟨-, herror⟩ | ⟨failure, -, -, -, herror⟩⟩⟩ := findings_cases hown hgenuine
    · rw [htold, Found.conclude_eq_ok_iff] at hfindings
      exact ⟨front, rest, hsplit, hcontent, hend, hfindings⟩
    · rw [herror] at hfindings
      cases hfindings
    · rw [herror] at hfindings
      cases hfindings
  · rintro ⟨front, rest, rfl, hcontent, hend, htold⟩
    rw [findings_append_of_isEnd hown hcontent hend, Found.conclude_eq_ok_iff]
    exact htold

/-- The family is missing exactly when the answer to a lookup ends without both, or when the first
thing that is no message is a rejection that says so. -/
theorem findings_eq_unavailable_iff (hown : ∀ r ∈ own, r.concerns lookupSequence = true)
    (hgenuine : ∀ r ∈ own, r.IsGenuine) :
    findings own = .error (.of .familyUnavailable)
      ↔ ∃ front rest, own = front ++ rest ∧ (∀ r ∈ front, r.content?.isSome = true)
        ∧ ((∀ r ∈ rest.head?, r.isEnd = true)
            ∧ ((Received.told front).id = none ∨ (Received.told front).version = none)
          ∨ ∃ bad ∈ rest.head?, bad.rejection? = some Errno.notFound) := by
  constructor
  · intro hfindings
    obtain ⟨front, rest, hsplit, hcontent, ⟨hend, htold⟩ | ⟨bad, behind, rfl,
      ⟨hrejection, -⟩ | ⟨failure, -, -, hne, herror⟩⟩⟩ := findings_cases hown hgenuine
    · rw [htold, Found.conclude_eq_error_iff] at hfindings
      exact ⟨front, rest, hsplit, hcontent, .inl ⟨hend, hfindings.1⟩⟩
    · exact ⟨front, bad :: behind, hsplit, hcontent, .inr ⟨bad, rfl, hrejection⟩⟩
    · rw [herror] at hfindings
      exact absurd (Except.error.inj hfindings) hne
  · rintro ⟨front, rest, rfl, hcontent, ⟨hend, htold⟩ | ⟨bad, hbad, hrejection⟩⟩
    · rw [findings_append_of_isEnd hown hcontent hend, Found.conclude_eq_error_iff]
      exact ⟨htold, rfl⟩
    · obtain ⟨behind, rfl⟩ := List.head?_eq_some_iff.1 hbad
      have hfailure : bad.failure? lookupName = some (.of (.kernel Errno.notFound lookupName)) := by
        unfold Received.rejection? at hrejection
        split at hrejection
        · rw [Option.some.inj hrejection]
          rfl
        · cases hrejection
      rw [findings_append_of_failure hown hcontent hfailure]
      rfl

/-- A lookup fails otherwise exactly when the first thing that is no message is another failure, and
then with that. -/
theorem findings_eq_failure_iff (hown : ∀ r ∈ own, r.concerns lookupSequence = true)
    (hgenuine : ∀ r ∈ own, r.IsGenuine) (failure : Failure) :
    findings own = .error failure ∧ failure ≠ .of .familyUnavailable
      ↔ ∃ front bad rest, own = front ++ bad :: rest ∧ (∀ r ∈ front, r.content?.isSome = true)
        ∧ bad.rejection? ≠ some Errno.notFound ∧ bad.failure? lookupName = some failure := by
  constructor
  · rintro ⟨hfindings, hne⟩
    obtain ⟨front, rest, hsplit, hcontent, ⟨hend, htold⟩ | ⟨bad, behind, rfl,
      ⟨-, herror⟩ | ⟨found, hrejection, hfound, -, herror⟩⟩⟩ := findings_cases hown hgenuine
    · rw [htold, Found.conclude_eq_error_iff] at hfindings
      exact absurd hfindings.2 hne
    · rw [herror] at hfindings
      exact absurd (Except.error.inj hfindings).symm hne
    · rw [herror] at hfindings
      obtain rfl := Except.error.inj hfindings
      exact ⟨front, bad, behind, hsplit, hcontent, hrejection, hfound⟩
  · rintro ⟨front, bad, rest, rfl, hcontent, hrejection, hfailure⟩
    rcases lookupFailure_cases (hgenuine bad (by simp)) hfailure with
      ⟨hnot, -⟩ | ⟨-, hlookup, hne⟩
    · exact absurd hnot hrejection
    · rw [findings_append_of_failure hown hcontent hfailure, hlookup]
      exact ⟨rfl, hne⟩

/-- A lookup depends only on its own answers. If it cannot be sent, it fails, and otherwise it is
answered from what its mailbox yields, which is genuine. Of genuine things it makes the same as of
the part that is about it. It finds a family exactly when that part begins with messages that tell,
all of them together, number and version, and the end of the answer follows; of either the last one
counts. The family is missing exactly when the end comes without both, or when the first thing that
is no message is the rejection of the lookup that says so. It fails otherwise exactly when that
first thing is another failure, and then with this. -/
theorem lookup_settled_by_own_answers (h : Host) (m : Mailbox)
    {results : List (Received GenericMessage)} (hgenuine : ∀ r ∈ results, r.IsGenuine) :
    let sent := m.send h true lookup
    let own := results.filter (Received.concerns lookupSequence)
    (resolve h m).1 = (sent.1.bind fun _ => findings (sent.2.1.yields GenericMessage.read?))
      ∧ (∀ r ∈ sent.2.1.yields GenericMessage.read?, r.IsGenuine)
      ∧ findings results = findings own
      ∧ (∀ family, findings results = .ok family
        ↔ ∃ front rest, own = front ++ rest ∧ (∀ r ∈ front, r.content?.isSome = true)
          ∧ (∀ r ∈ rest.head?, r.isEnd = true)
          ∧ (Received.told front).id = some family.id
          ∧ (Received.told front).version = some family.version)
      ∧ (findings results = .error (.of .familyUnavailable)
        ↔ ∃ front rest, own = front ++ rest ∧ (∀ r ∈ front, r.content?.isSome = true)
          ∧ ((∀ r ∈ rest.head?, r.isEnd = true)
              ∧ ((Received.told front).id = none ∨ (Received.told front).version = none)
            ∨ ∃ bad ∈ rest.head?, bad.rejection? = some Errno.notFound))
      ∧ ∀ failure, findings results = .error failure ∧ failure ≠ .of .familyUnavailable
        ↔ ∃ front bad rest, own = front ++ bad :: rest
          ∧ (∀ r ∈ front, r.content?.isSome = true)
          ∧ bad.rejection? ≠ some Errno.notFound ∧ bad.failure? lookupName = some failure := by
  intro sent own
  have hown : ∀ r ∈ own, r.concerns lookupSequence = true := fun r hr => (List.mem_filter.1 hr).2
  have hgenuine' : ∀ r ∈ own, r.IsGenuine := fun r hr => hgenuine r (List.mem_filter.1 hr).1
  have hfindings : findings results = findings own := (findings_filter_concerns results).symm
  rw [hfindings]
  exact ⟨resolve_eq_findings h m, fun r hr => Mailbox.isGenuine_of_mem_yields hr, rfl,
    findings_eq_ok_iff hown hgenuine', findings_eq_unavailable_iff hown hgenuine',
    findings_eq_failure_iff hown hgenuine'⟩

/-- What a lookup may receive: another request is rejected because something is missing, the number
comes first, the version twice, a message of another request and records that are too short lie
between them, and a rejection comes after the end. -/
def scatteredAnswer : List (Received GenericMessage) :=
  let header : UInt32 → MessageHeader := fun sequence => ⟨20, 16, 0, sequence, 0⟩
  [.message ⟨header 0, .rejected Errno.notFound 6⟩,
    .message ⟨header 0, .content ⟨1, 2, [⟨1, [30, 0]⟩, ⟨3, [1, 0, 0, 0]⟩]⟩⟩,
    .message ⟨header 6, .content ⟨1, 2, [⟨1, [99, 0]⟩]⟩⟩,
    .message ⟨header 0, .content ⟨1, 2, [⟨3, [2, 1, 0, 0]⟩, ⟨3, [7, 0]⟩, ⟨1, [5]⟩]⟩⟩,
    .message ⟨header 0, .acknowledged⟩, .message ⟨header 0, .rejected Errno.notFound 0⟩]

/-- From such answers a lookup makes number 30 and version 2. -/
theorem lookup_settled_by_own_answers_scattered :
    (∀ r ∈ scatteredAnswer, r.IsGenuine) ∧ findings scatteredAnswer = .ok ⟨30, 2⟩ := by
  have hgenuine : ∀ r ∈ scatteredAnswer, r.IsGenuine := by
    intro r hr
    simp only [scatteredAnswer, List.mem_cons, List.not_mem_nil, or_false] at hr
    rcases hr with rfl | rfl | rfl | rfl | rfl | rfl <;> trivial
  obtain ⟨-, -, -, hok, -⟩ :=
    lookup_settled_by_own_answers (Host.start 0 []) (Mailbox.ofSocket ⟨0, .idle⟩) hgenuine
  refine ⟨hgenuine, (hok ⟨30, 2⟩).2 ?_⟩
  let own := scatteredAnswer.filter (Received.concerns lookupSequence)
  exact ⟨own.take 2, own.drop 2, (List.take_append_drop 2 own).symm, by decide, by decide,
    by decide, by decide⟩

end Family

end NeighborAwareness
