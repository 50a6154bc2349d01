import NeighborAwareness.Netlink.Exchange

/-!
# What requests hear

A request reads its mailbox until it is settled. Here the loop is set against a list: what receiving
gives, time after time. On that list the outcome depends only on what concerns the request, and
three kinds of things do: parts of the answer, its end, and failures.

## Main definitions

* `Mailbox.yields` : what receiving gives, up to the first time that it gives no message.
* `Received.concerns` : whether a received thing is about a request.
* `Received.answer` : what a request makes of a list of received things.

## Main results

* `Mailbox.settle_eq_answer` : a request makes of its mailbox what it makes of what this yields.
* `Received.answer_filter_concerns` : things about other requests do not matter.
* `Received.answer_cons_of_content`, `Received.answer_cons_of_isEnd`,
  `Received.answer_cons_of_failure` : what the first thing about a request does.
* `Received.answer_append_of_contents` : what a request learns that takes whatever it is told.
-/

namespace NeighborAwareness

/-- Outcomes can be compared. -/
instance decidableEqOutcome {ε α : Type} [DecidableEq ε] [DecidableEq α] :
    DecidableEq (Except ε α)
  | .ok a, .ok b => decidable_of_iff (a = b) ⟨congrArg _, Except.ok.inj⟩
  | .error a, .error b => decidable_of_iff (a = b) ⟨congrArg _, Except.error.inj⟩
  | .ok _, .error _ => .isFalse nofun
  | .error _, .ok _ => .isFalse nofun

/-! ### What a mailbox yields -/

/-- What receiving gives, time after time, up to the first time that it gives no message. -/
def Mailbox.yields {α : Type} (content : ContentReader α) (m : Mailbox) : List (Received α) :=
  match h : m.receive content with
  | (.message message, after) =>
    have := Mailbox.backlog_receive h
    .message message :: after.yields content
  | (.nothing, _) => [.nothing]
  | (.broken failure, _) => [.broken failure]
termination_by m.backlog

namespace Mailbox

variable {α : Type} {content : ContentReader α} {m after : Mailbox}

theorem yields_of_message {message : Message α}
    (h : m.receive content = (.message message, after)) :
    m.yields content = .message message :: after.yields content := by
  rw [yields.eq_def]
  split <;> rename_i hreceive <;> rw [h] at hreceive <;> cases hreceive
  rfl

theorem yields_of_nothing (h : m.receive content = (.nothing, after)) :
    m.yields content = [.nothing] := by
  rw [yields.eq_def]
  split <;> rename_i hreceive <;> rw [h] at hreceive <;> cases hreceive

theorem yields_of_broken {failure : Failure} (h : m.receive content = (.broken failure, after)) :
    m.yields content = [.broken failure] := by
  rw [yields.eq_def]
  split <;> rename_i hreceive <;> rw [h] at hreceive <;> cases hreceive
  rfl

end Mailbox

namespace Received

variable {α β : Type} (sequence : UInt32) (request : String) (take : β → α → Except Failure β)

/-- Whether a received thing is about the request `sequence`. A rejection is about the request it
repeats and every other message about the one in its header; what is no message is about whoever
receives it. -/
def concerns : Received α → Bool
  | .message m =>
    match m.body with
    | .rejected _ rejected => rejected == sequence
    | _ => m.header.sequence == sequence
  | .nothing | .broken _ => true

/-- What the request `sequence` makes of received things, `known` being known before. A list that
ends is followed by nothing more to receive. -/
def answer (known : β) : List (Received α) → Except Failure β
  | [] => .ok known
  | .nothing :: _ => .ok known
  | .broken failure :: _ => .error failure
  | .message m :: rest =>
    match judge sequence m with
    | .settled => .ok known
    | .rejected code => .error (.of (.kernel code request))
    | .stale _ => answer known rest
    | .content a =>
      match take known a with
      | .error failure => .error failure
      | .ok known => answer known rest

end Received

/-- A request makes of its mailbox what it makes of what the mailbox yields. -/
theorem Mailbox.settle_eq_answer {α β : Type} (content : ContentReader α) (sequence : UInt32)
    (request : String) (take : β → α → Except Failure β) (known : β) (m : Mailbox) :
    (m.settle content sequence request take known).1
      = Received.answer sequence request take known (m.yields content) := by
  -- The recursion of the loop is the one of `yields`: one case for each way in which it goes on.
  fun_induction Mailbox.settle content sequence request take known m with
  | case1 known m after h => rw [yields_of_nothing h, Received.answer]
  | case2 known m failure after h => rw [yields_of_broken h, Received.answer]
  | case3 known m message after h hdecrease hjudge =>
    simp only [yields_of_message h, Received.answer, hjudge]
  | case4 known m message after h hdecrease code hjudge =>
    simp only [yields_of_message h, Received.answer, hjudge]
  | case5 known m message after h hdecrease notes hjudge result more last hrest ih =>
    rw [hrest] at ih
    simpa only [yields_of_message h, Received.answer, hjudge] using ih
  | case6 known m message after h hdecrease a hjudge failure htake =>
    simp only [yields_of_message h, Received.answer, hjudge, htake]
  | case7 known m message after h hdecrease a hjudge next htake ih =>
    simpa only [yields_of_message h, Received.answer, hjudge, htake] using ih

namespace Received

variable {α β : Type} {sequence : UInt32} {request : String} {take : β → α → Except Failure β}

/-! ### Things about other requests -/

theorem judge_of_not_concerns {m : Message α}
    (h : (Received.message m).concerns sequence = false) :
    ∃ notes, judge sequence m = .stale notes := by
  unfold judge
  simp only [concerns] at h
  split at h
  · rename_i code rejected hbody
    rw [hbody]
    simp only [beq_eq_false_iff_ne, ne_eq] at h
    exact ⟨_, if_neg h⟩
  · rename_i hbody
    simp only [beq_eq_false_iff_ne, ne_eq] at h
    cases hm : m.body with
    | rejected code rejected => exact absurd hm (hbody code rejected)
    | content a => exact ⟨_, if_neg h⟩
    | acknowledged => exact ⟨_, if_neg h⟩
    | finished => exact ⟨_, if_neg h⟩

theorem concerns_eq_false_of_ne {m : Message α} {other : UInt32} (hne : other ≠ sequence)
    (h : (Received.message m).concerns other = true) :
    (Received.message m).concerns sequence = false := by
  rcases m with ⟨header, body⟩
  cases body <;> simp only [concerns, beq_iff_eq, beq_eq_false_iff_ne] at h ⊢ <;> exact h ▸ hne

theorem answer_cons_of_not_concerns {r : Received α} (h : r.concerns sequence = false) (known : β)
    (rest : List (Received α)) :
    answer sequence request take known (r :: rest) = answer sequence request take known rest := by
  cases r with
  | nothing => simp [concerns] at h
  | broken failure => simp [concerns] at h
  | message m =>
    obtain ⟨notes, hjudge⟩ := judge_of_not_concerns h
    simp only [answer, hjudge]

/-! ### Things about a request -/

/-- A part of an answer. -/
def content? : Received α → Option α
  | .message ⟨_, .content a⟩ => some a
  | _ => none

/-- Whether nothing more of an answer follows: it is acknowledged, complete, or there is nothing to
receive. -/
def isEnd : Received α → Bool
  | .nothing | .message ⟨_, .acknowledged⟩ | .message ⟨_, .finished⟩ => true
  | _ => false

/-- The failure that something received is for `request`: it was rejected, or receiving failed. -/
def failure? (request : String) : Received α → Option Failure
  | .broken failure => some failure
  | .message ⟨_, .rejected code _⟩ => some (.of (.kernel code request))
  | _ => none

/-- A part of the answer to a request is taken. -/
theorem answer_cons_of_content {r : Received α} {a : α} (hown : r.concerns sequence = true)
    (h : r.content? = some a) (known : β) (rest : List (Received α)) :
    answer sequence request take known (r :: rest)
      = (take known a).bind fun known => answer sequence request take known rest := by
  unfold content? at h
  split at h
  · rename_i header b
    obtain rfl : b = a := Option.some.inj h
    simp only [concerns, beq_iff_eq] at hown
    simp only [answer, judge, if_pos hown]
    cases take known b <;> rfl
  · simp at h

/-- The end of the answer to a request leaves what is known. -/
theorem answer_cons_of_isEnd {r : Received α} (hown : r.concerns sequence = true)
    (h : r.isEnd = true) (known : β) (rest : List (Received α)) :
    answer sequence request take known (r :: rest) = .ok known := by
  unfold isEnd at h
  split at h
  · rfl
  · simp only [concerns, beq_iff_eq] at hown
    simp only [answer, judge, if_pos hown]
  · simp only [concerns, beq_iff_eq] at hown
    simp only [answer, judge, if_pos hown]
  · simp at h

/-- A failure of a request is its answer. -/
theorem answer_cons_of_failure {r : Received α} {failure : Failure}
    (hown : r.concerns sequence = true) (h : r.failure? request = some failure) (known : β)
    (rest : List (Received α)) :
    answer sequence request take known (r :: rest) = .error failure := by
  unfold failure? at h
  split at h
  · rename_i found
    obtain rfl : found = failure := Option.some.inj h
    rfl
  · rename_i header code rejected
    obtain rfl := Option.some.inj h
    simp only [concerns, beq_iff_eq] at hown
    simp only [answer, judge, if_pos hown]
  · simp at h

/-- Whatever is received is a part of an answer, the end of one, or a failure. -/
theorem content_or_isEnd_or_failure (request : String) (r : Received α) :
    (∃ a, r.content? = some a) ∨ r.isEnd = true ∨ ∃ failure, r.failure? request = some failure := by
  rcases r with ⟨header, body⟩ | _ | failure
  · cases body with
    | content a => exact .inl ⟨a, rfl⟩
    | acknowledged => exact .inr (.inl rfl)
    | finished => exact .inr (.inl rfl)
    | rejected code rejected => exact .inr (.inr ⟨_, rfl⟩)
  · exact .inr (.inl rfl)
  · exact .inr (.inr ⟨failure, rfl⟩)

/-- Things about other requests do not matter, wherever they come in between. -/
theorem answer_filter_concerns (known : β) (results : List (Received α)) :
    answer sequence request take known (results.filter (concerns sequence))
      = answer sequence request take known results := by
  induction results generalizing known with
  | nil => rfl
  | cons r rest ih =>
    cases hown : r.concerns sequence with
    | false =>
      rw [List.filter_cons_of_neg (by simp [hown]), ih, answer_cons_of_not_concerns hown]
    | true =>
      rw [List.filter_cons_of_pos hown]
      rcases content_or_isEnd_or_failure request r with ⟨a, ha⟩ | hend | ⟨failure, hfailure⟩
      · rw [answer_cons_of_content hown ha, answer_cons_of_content hown ha]
        exact congrArg _ (funext ih)
      · rw [answer_cons_of_isEnd hown hend, answer_cons_of_isEnd hown hend]
      · rw [answer_cons_of_failure hown hfailure, answer_cons_of_failure hown hfailure]

/-- A request that takes whatever it is told learns from each part of its answer. -/
theorem answer_append_of_contents {learn : β → α → β}
    (htake : ∀ known a, take known a = .ok (learn known a)) {front : List (Received α)}
    (hown : ∀ r ∈ front, r.concerns sequence = true)
    (hcontent : ∀ r ∈ front, r.content?.isSome = true) (known : β) (rest : List (Received α)) :
    answer sequence request take known (front ++ rest)
      = answer sequence request take ((front.filterMap content?).foldl learn known) rest := by
  induction front generalizing known with
  | nil => rfl
  | cons r front ih =>
    obtain ⟨a, ha⟩ := Option.isSome_iff_exists.1 (hcontent r List.mem_cons_self)
    rw [List.cons_append, answer_cons_of_content (hown r List.mem_cons_self) ha, htake, Except.bind,
      ih (fun r hr => hown r (List.mem_cons_of_mem _ hr))
        fun r hr => hcontent r (List.mem_cons_of_mem _ hr),
      List.filterMap_cons_some ha, List.foldl_cons]

/-- Whatever is received begins with parts of an answer, and what follows them, if anything, is the
end of one or a failure. -/
theorem exists_contents (request : String) (results : List (Received α)) :
    ∃ front rest : List (Received α), results = front ++ rest
      ∧ (∀ r ∈ front, r.content?.isSome = true)
      ∧ ((∀ r ∈ rest.head?, r.isEnd = true)
        ∨ ∃ bad behind failure, rest = bad :: behind ∧ bad.failure? request = some failure) := by
  let isContent : Received α → Bool := fun r => r.content?.isSome
  refine ⟨results.takeWhile isContent, results.dropWhile isContent,
    List.takeWhile_append_dropWhile.symm, List.all_eq_true.1 List.all_takeWhile, ?_⟩
  have hnot := List.head?_dropWhile_not isContent results
  cases hrest : results.dropWhile isContent with
  | nil => exact .inl (by simp)
  | cons r rest =>
    rw [hrest] at hnot
    rcases content_or_isEnd_or_failure request r with ⟨a, ha⟩ | hend | ⟨failure, hfailure⟩
    · simp [isContent, ha] at hnot
    · exact .inl (by simpa using hend)
    · exact .inr ⟨r, rest, failure, rfl, hfailure⟩

end Received

end NeighborAwareness
