import NeighborAwareness.Netlink.Connection
import NeighborAwareness.Proofs.Receipts

/-!
# Requests see their own answers

The mailbox of a connection holds what earlier requests left behind: the rest of an answer that was
given up, acknowledgements, rejections of requests that nobody waited for. None of it changes what a
request gives. On what is left, its answer is the attributes of its messages, one entry each, or the
first failure, never a part of the messages.

## Main definitions

* `Received.row?` : the attributes in a message that is as the request wants it.
* `Received.offence?` : the failure that something received makes of the request.
* `Connection.submit` : sends a request that awaits replies.

## Main results

* `Received.answer_eq_ok_iff`, `Received.answer_eq_error_iff` : when a request is answered, and when
  and how it fails.
* `Connection.execute_sees_own_answers` : a request depends only on its own answers.
-/

namespace NeighborAwareness

namespace Received

variable {sequence : UInt32} {request : String} {version : UInt8} {reply : Command}

/-! ### What a request makes of one message -/

/-- The attributes in a message that carries the command asked for and the version of the family. -/
def row? (version : UInt8) (reply : Command) : Received GenericMessage → Option (List Attribute)
  | .message ⟨_, .content g⟩ =>
    if g.command = reply.code ∧ g.version = version then
      some (g.records.map Attribute.ofRecord)
    else none
  | _ => none

/-- The failure that something received makes of `request`. Of a message with the wrong command and
the wrong version, the command is reported. -/
def offence? (request : String) (version : UInt8) (reply : Command) :
    Received GenericMessage → Option Failure
  | .message ⟨_, .content g⟩ =>
    if g.command ≠ reply.code then some (.of (.invalidResponse reply.code g.command))
    else if g.version ≠ version then some (.of (.invalidFamilyVersion version g.version))
    else none
  | r => r.failure? request

/-- Whatever is received is a message as it is wanted, the end of an answer, or an offence. -/
theorem row_or_isEnd_or_offence (request : String) (version : UInt8) (reply : Command)
    (r : Received GenericMessage) :
    (∃ row, r.row? version reply = some row) ∨ r.isEnd = true
      ∨ ∃ failure, r.offence? request version reply = some failure := by
  rcases r with ⟨header, body⟩ | _ | failure
  · cases body with
    | content g =>
      by_cases hcommand : g.command = reply.code
      · by_cases hversion : g.version = version
        · exact .inl ⟨_, if_pos ⟨hcommand, hversion⟩⟩
        · exact .inr (.inr ⟨.of (.invalidFamilyVersion version g.version),
            by rw [offence?, if_neg (not_not_intro hcommand), if_pos hversion]⟩)
      · exact .inr (.inr ⟨.of (.invalidResponse reply.code g.command), if_pos hcommand⟩)
    | acknowledged => exact .inr (.inl rfl)
    | finished => exact .inr (.inl rfl)
    | rejected code rejected => exact .inr (.inr ⟨_, rfl⟩)
  · exact .inr (.inl rfl)
  · exact .inr (.inr ⟨failure, rfl⟩)

theorem answer_cons_of_row {r : Received GenericMessage} {row : List Attribute}
    (hown : r.concerns sequence = true) (h : r.row? version reply = some row)
    (known : List (List Attribute)) (rest : List (Received GenericMessage)) :
    answer sequence request (Connection.collect version reply) known (r :: rest)
      = answer sequence request (Connection.collect version reply) (known ++ [row]) rest := by
  unfold row? at h
  split at h
  · rename_i header g
    split at h
    · rename_i hwanted
      obtain rfl := Option.some.inj h
      rw [answer_cons_of_content hown rfl, Connection.collect, if_neg (not_not_intro hwanted.1),
        if_neg (not_not_intro hwanted.2)]
      rfl
    · simp at h
  · simp at h

theorem answer_cons_of_offence {r : Received GenericMessage} {failure : Failure}
    (hown : r.concerns sequence = true) (h : r.offence? request version reply = some failure)
    (known : List (List Attribute)) (rest : List (Received GenericMessage)) :
    answer sequence request (Connection.collect version reply) known (r :: rest)
      = .error failure := by
  unfold offence? at h
  split at h
  · rename_i header g
    rw [answer_cons_of_content hown rfl, Connection.collect]
    split at h
    · rename_i hcommand
      rw [if_pos hcommand, ← Option.some.inj h]
      rfl
    · rename_i hcommand
      split at h
      · rename_i hversion
        rw [if_neg hcommand, if_pos hversion, ← Option.some.inj h]
        rfl
      · simp at h
  · exact answer_cons_of_failure hown h known rest

/-! ### What a request makes of its own answers -/

/-- Messages as they are wanted add their attributes, one entry each. -/
theorem answer_append_of_rows {front : List (Received GenericMessage)}
    {rows : List (List Attribute)} (hown : ∀ r ∈ front, r.concerns sequence = true)
    (hrows : front.map (row? version reply) = rows.map some) (known : List (List Attribute))
    (rest : List (Received GenericMessage)) :
    answer sequence request (Connection.collect version reply) known (front ++ rest)
      = answer sequence request (Connection.collect version reply) (known ++ rows) rest := by
  induction front generalizing rows known with
  | nil =>
    obtain rfl : rows = [] := by simpa using hrows.symm
    rw [List.nil_append, List.append_nil]
  | cons r front ih =>
    cases rows with
    | nil => simp at hrows
    | cons row rows =>
      simp only [List.map_cons, List.cons.injEq] at hrows
      rw [List.cons_append, answer_cons_of_row (hown r List.mem_cons_self) hrows.1,
        ih (fun r hr => hown r (List.mem_cons_of_mem _ hr)) hrows.2, List.append_assoc,
        List.singleton_append]

/-- Whatever is received begins with messages as they are wanted, and the first thing behind them is
none. -/
theorem exists_rows (version : UInt8) (reply : Command) (results : List (Received GenericMessage)) :
    ∃ (front rest : List (Received GenericMessage)) (rows : List (List Attribute)),
      results = front ++ rest ∧ front.map (row? version reply) = rows.map some
        ∧ ∀ r ∈ rest.head?, r.row? version reply = none := by
  induction results with
  | nil => exact ⟨[], [], [], rfl, rfl, by simp⟩
  | cons r results ih =>
    cases hrow : r.row? version reply with
    | none => exact ⟨[], r :: results, [], rfl, rfl, by simpa using hrow⟩
    | some row =>
      obtain ⟨front, rest, rows, rfl, hrows, hrest⟩ := ih
      exact ⟨r :: front, rest, row :: rows, rfl, by rw [List.map_cons, List.map_cons, hrow, hrows],
        hrest⟩

/-- A request takes messages as they are wanted. Then its answer ends, which leaves it with their
attributes, or an offence follows, and it fails. -/
theorem answer_cases {own : List (Received GenericMessage)}
    (hown : ∀ r ∈ own, r.concerns sequence = true) :
    ∃ front rest rows, own = front ++ rest ∧ front.map (row? version reply) = rows.map some
      ∧ (answer sequence request (Connection.collect version reply) [] own = .ok rows
          ∧ (∀ r ∈ rest.head?, r.isEnd = true)
        ∨ ∃ bad behind failure, rest = bad :: behind
          ∧ bad.offence? request version reply = some failure
          ∧ answer sequence request (Connection.collect version reply) [] own
            = .error failure) := by
  obtain ⟨front, rest, rows, rfl, hrows, hrest⟩ := exists_rows version reply own
  have hfront : ∀ r ∈ front, r.concerns sequence = true :=
    fun r hr => hown r (List.mem_append_left _ hr)
  refine ⟨front, rest, rows, rfl, hrows, ?_⟩
  rw [answer_append_of_rows hfront hrows, List.nil_append]
  cases rest with
  | nil => exact .inl ⟨rfl, by simp⟩
  | cons r rest =>
    have hr : r.concerns sequence = true := hown r (by simp)
    rcases row_or_isEnd_or_offence request version reply r with
      ⟨row, hrow⟩ | hend | ⟨failure, hoffence⟩
    · rw [hrest r rfl] at hrow
      contradiction
    · exact .inl ⟨answer_cons_of_isEnd hr hend rows rest, by simpa using hend⟩
    · exact .inr ⟨r, rest, failure, rfl, hoffence, answer_cons_of_offence hr hoffence rows rest⟩

/-- A request is answered exactly when the first thing that is no message as it is wanted is the end
of the answer; what is answered are the attributes of the messages before it. A list that ends is
followed by nothing more to receive. -/
theorem answer_eq_ok_iff {own : List (Received GenericMessage)}
    (hown : ∀ r ∈ own, r.concerns sequence = true) (list : List (List Attribute)) :
    answer sequence request (Connection.collect version reply) [] own = .ok list
      ↔ ∃ front rest, own = front ++ rest ∧ front.map (row? version reply) = list.map some
        ∧ ∀ r ∈ rest.head?, r.isEnd = true := by
  constructor
  · intro hanswer
    obtain ⟨front, rest, rows, hsplit, hrows, ⟨hok, hend⟩ | ⟨bad, behind, failure, -, -, herror⟩⟩ :=
      answer_cases hown
    · rw [hok] at hanswer
      obtain rfl : rows = list := Except.ok.inj hanswer
      exact ⟨front, rest, hsplit, hrows, hend⟩
    · rw [herror] at hanswer
      contradiction
  · rintro ⟨front, rest, rfl, hrows, hrest⟩
    have hfront : ∀ r ∈ front, r.concerns sequence = true :=
      fun r hr => hown r (List.mem_append_left _ hr)
    rw [answer_append_of_rows hfront hrows, List.nil_append]
    cases rest with
    | nil => rfl
    | cons r rest => exact answer_cons_of_isEnd (hown r (by simp)) (hrest r rfl) list rest

/-- A request fails exactly when the first thing that is no message as it is wanted is an offence,
and then with the failure of that. -/
theorem answer_eq_error_iff {own : List (Received GenericMessage)}
    (hown : ∀ r ∈ own, r.concerns sequence = true) (failure : Failure) :
    answer sequence request (Connection.collect version reply) [] own = .error failure
      ↔ ∃ front bad rest, ∃ rows : List (List Attribute), own = front ++ bad :: rest
        ∧ front.map (row? version reply) = rows.map some
        ∧ bad.offence? request version reply = some failure := by
  constructor
  · intro hanswer
    obtain ⟨front, rest, rows, hsplit, hrows, ⟨hok, -⟩ | ⟨bad, behind, found, rfl, hbad, herror⟩⟩ :=
      answer_cases hown
    · rw [hok] at hanswer
      contradiction
    · rw [herror] at hanswer
      obtain rfl : found = failure := Except.error.inj hanswer
      exact ⟨front, bad, behind, rows, hsplit, hrows, hbad⟩
  · rintro ⟨front, bad, rest, rows, rfl, hrows, hoffence⟩
    have hfront : ∀ r ∈ front, r.concerns sequence = true :=
      fun r hr => hown r (List.mem_append_left _ hr)
    rw [answer_append_of_rows hfront hrows]
    exact answer_cons_of_offence (hown bad (by simp)) hoffence _ rest

end Received

/-! ### Rejections -/

/-- A rejection names the number in the first four octets of its payload with the sign turned, and
the request whose header follows them. -/
theorem Message.rejected_of_read? {α : Type} {content : ContentReader α} {octets : Bytes}
    {header : MessageHeader} {code : Int32} {rejected : UInt32}
    (h : Message.read? content octets = some ⟨header, .rejected code rejected⟩) :
    code = -(UInt32.ofNat (LittleEndian.decode ((octets.drop MessageHeader.size).take 4))).toInt32
      ∧ ∃ repeated, MessageHeader.read? ((octets.drop MessageHeader.size).drop 4) = some repeated
        ∧ rejected = repeated.sequence := by
  unfold read? at h
  split at h
  · simp at h
  · split at h
    · obtain ⟨body, hbody, hmessage⟩ := Option.map_eq_some_iff.1 h
      obtain rfl : body = .rejected code rejected := congrArg Message.body hmessage
      unfold readBody? at hbody
      split at hbody
      · simp at hbody
      · split at hbody
        · unfold readAnswer? at hbody
          split at hbody
          · simp at hbody
          · rename_i repeated hrepeated
            dsimp only at hbody
            split at hbody
            · simp at hbody
            · obtain ⟨a, -, hrejected⟩ := Option.map_eq_some_iff.1 hbody
              injection hrejected with hcode hsequence
              exact ⟨hcode.symm, repeated, hrepeated, hsequence.symm⟩
        · obtain ⟨a, -, hcontent⟩ := Option.map_eq_some_iff.1 hbody
          contradiction
    · simp at h

/-! ### Requests -/

namespace Connection

variable (c : Connection) (h : Host) (command : Command) (attributes : List Attribute) (dump : Bool)

/-- Sends a request that awaits replies under the next number. -/
def submit : Except Failure Unit × Mailbox × Host :=
  match c.encode command attributes (if dump then .dump else .acknowledged) c.nextSequence with
  | .error failure => (.error failure, c.requests, h)
  | .ok message => c.requests.send h (!dump) message

/-- A request takes a number. It fails if it cannot be sent, and is else settled from the
mailbox. -/
theorem execute_cases (reply : Command) :
    (∃ failure requests after,
      c.submit h command attributes dump = (.error failure, requests, after)
        ∧ c.execute h command attributes dump reply
          = (.error failure, { c with requests, nextSequence := c.nextSequence + 1 }, after))
    ∨ ∃ requests after result notes left,
      c.submit h command attributes dump = (.ok (), requests, after)
        ∧ requests.settle GenericMessage.read? c.nextSequence command.name
          (collect c.family.version reply) [] = (result, notes, left)
        ∧ c.execute h command attributes dump reply
          = (result, { c with requests := left, nextSequence := c.nextSequence + 1 },
            after.noted notes) := by
  have hkind : ((if dump then Reply.dump else Reply.acknowledged) == .acknowledged) = !dump := by
    cases dump <;> rfl
  unfold execute
  split
  rename_i sequence numbered hnumber
  obtain ⟨rfl, rfl⟩ := Prod.mk.inj hnumber
  extract_lets kind
  split
  · rename_i failure hencode
    have hencode' : c.encode command attributes kind c.nextSequence = .error failure := hencode
    exact .inl ⟨failure, c.requests, h, by rw [submit, hencode'], rfl⟩
  · rename_i message hencode
    have hencode' : c.encode command attributes kind c.nextSequence = .ok message := hencode
    split
    · rename_i failure requests after hsend
      rw [hkind] at hsend
      exact .inl ⟨failure, requests, after, (by rw [submit, hencode']; exact hsend), rfl⟩
    · rename_i requests after hsend
      rw [hkind] at hsend
      split
      rename_i result notes left hsettle
      exact .inr ⟨requests, after, result, notes, left, (by rw [submit, hencode']; exact hsend),
        hsettle, rfl⟩

/-- A request that cannot be sent fails, and any other is answered from its mailbox. -/
theorem execute_eq_answer (reply : Command) :
    (c.execute h command attributes dump reply).1
      = (c.submit h command attributes dump).1.bind fun _ =>
          Received.answer c.nextSequence command.name (collect c.family.version reply) []
            ((c.submit h command attributes dump).2.1.yields GenericMessage.read?) := by
  rcases c.execute_cases h command attributes dump reply with
    ⟨failure, requests, after, hsubmit, hexecute⟩
      | ⟨requests, after, result, notes, left, hsubmit, hsettle, hexecute⟩
  · rw [hexecute, hsubmit, Except.bind]
  · have hanswer := Mailbox.settle_eq_answer GenericMessage.read? c.nextSequence command.name
      (collect c.family.version reply) [] requests
    rw [hsettle] at hanswer
    rw [hexecute, hsubmit, Except.bind, ← hanswer]

theorem nextSequence_execute (reply : Command) :
    (c.execute h command attributes dump reply).2.1.nextSequence = c.nextSequence + 1 := by
  rcases c.execute_cases h command attributes dump reply with
    ⟨failure, requests, after, -, hexecute⟩ | ⟨requests, after, result, notes, left, -, -, hexecute⟩
  · rw [hexecute]
  · rw [hexecute]

/-- A request sees its own answers only. Once it has gone out, it is answered from what its mailbox
yields, and it takes a number of its own. Of whatever is received it makes the same as of the part
that is about it. It succeeds exactly when that part begins with messages as they are wanted and
the end of the answer follows, and gives their attributes, one entry each. It fails exactly when an
offence follows them, with the failure of that; a rejection names the number of the kernel with the
sign turned. So messages that are left of other requests do not change what it gives. -/
theorem execute_sees_own_answers (reply : Command) :
    let about : Received GenericMessage → Bool := Received.concerns c.nextSequence
    let outcome := Received.answer c.nextSequence command.name (collect c.family.version reply) []
    (c.execute h command attributes dump reply).1
        = ((c.submit h command attributes dump).1.bind fun _ =>
            outcome ((c.submit h command attributes dump).2.1.yields GenericMessage.read?))
      ∧ (c.execute h command attributes dump reply).2.1.nextSequence = c.nextSequence + 1
      ∧ (∀ results, outcome results = outcome (results.filter about)
        ∧ (∀ list, outcome (results.filter about) = .ok list
          ↔ ∃ front rest, results.filter about = front ++ rest
            ∧ front.map (Received.row? c.family.version reply) = list.map some
            ∧ ∀ r ∈ rest.head?, r.isEnd = true)
        ∧ (∀ failure, outcome (results.filter about) = .error failure
          ↔ ∃ front bad rest, ∃ rows : List (List Attribute),
            results.filter about = front ++ bad :: rest
            ∧ front.map (Received.row? c.family.version reply) = rows.map some
            ∧ bad.offence? command.name c.family.version reply = some failure)
        ∧ ∀ left : List (Message GenericMessage),
          (∀ m ∈ left, ∃ other ≠ c.nextSequence, (Received.message m).concerns other = true) →
          outcome (left.map .message ++ results) = outcome results)
      ∧ ∀ octets header code rejected,
        Message.read? GenericMessage.read? octets = some ⟨header, .rejected code rejected⟩ →
        let payload := octets.drop MessageHeader.size
        code = -(UInt32.ofNat (LittleEndian.decode (payload.take 4))).toInt32
          ∧ ∃ repeated, MessageHeader.read? (payload.drop 4) = some repeated
            ∧ rejected = repeated.sequence := by
  intro about outcome
  refine ⟨c.execute_eq_answer h command attributes dump reply,
    c.nextSequence_execute h command attributes dump reply, fun results => ⟨?_, ?_, ?_, ?_⟩,
    fun octets header code rejected hread => Message.rejected_of_read? hread⟩
  · exact (Received.answer_filter_concerns [] results).symm
  · exact Received.answer_eq_ok_iff fun r hr => (List.mem_filter.1 hr).2
  · exact Received.answer_eq_error_iff fun r hr => (List.mem_filter.1 hr).2
  · intro left hleft
    have hnone : (left.map Received.message).filter about = [] := by
      refine List.filter_eq_nil_iff.2 fun r hr => ?_
      obtain ⟨m, hm, rfl⟩ := List.mem_map.1 hr
      obtain ⟨other, hne, hother⟩ := hleft m hm
      rw [Bool.not_eq_true]
      exact Received.concerns_eq_false_of_ne hne hother
    calc outcome (left.map Received.message ++ results)
        = outcome ((left.map Received.message ++ results).filter about) :=
          (Received.answer_filter_concerns [] _).symm
      _ = outcome (results.filter about) := by
          rw [List.filter_append, hnone, List.nil_append]
      _ = outcome results := Received.answer_filter_concerns [] results

/-- A late rejection and a message of the request before do not get in the way. -/
example :
    let header : UInt32 → MessageHeader := fun sequence => ⟨20, 30, 0, sequence, 0⟩
    Received.answer 7 "GetWiPhy" (collect 1 .newRadio) []
        [.message ⟨header 6, .rejected 16 6⟩, .message ⟨header 6, .content ⟨7, 1, []⟩⟩,
         .message ⟨header 7, .content ⟨3, 1, [⟨1, [5, 0, 0, 0]⟩]⟩⟩,
         .message ⟨header 7, .acknowledged⟩]
      = .ok [[.wiphy 5]] := by
  decide

end Connection

end NeighborAwareness
