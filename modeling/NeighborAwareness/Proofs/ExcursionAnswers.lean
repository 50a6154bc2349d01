import NeighborAwareness.Proofs.ExcursionRuns

/-!
# Answers to requests for excursions

The thread that asks for an excursion reads the answer, and another thread hears the start, so that
either may come first. A start that comes before the answer is taken for that of the request,
whatever its cookie, and the answer does not change that any more. A start that comes after the
answer is told from it by its cookie.

A request replaces the record of an earlier excursion before it goes out. When it fails, nothing is
left on record.

## Main results

* `ExcursionTracker.started_requested`, `ExcursionTracker.started_accepted_requested` : a start
  before the answer and after it.
* `ExcursionTracker.start_answer_comm_iff` : when it does not matter which of them comes first.
* `Registry.failed_request_keeps_iff` : when a request that fails leaves the record as it was.
-/

namespace NeighborAwareness

namespace ExcursionTracker

section

variable (t : ExcursionTracker) (asked now : Nat) (frequency heard : UInt32)
  (duration lasting : Nat) (given cookie : Option UInt64)

theorem started_of_isFor {e : Excursion} (hpending : t.pending = some e)
    (h : isFor e cookie = true) :
    t.started now heard lasting cookie
      = (⟨some { e with
          started := some now, frequency := heard, duration := lasting,
          cookie := cookie.or e.cookie }⟩, []) := by
  rw [started, hpending, Option.filter_some, if_pos h]

theorem started_of_not_isFor {e : Excursion} (hpending : t.pending = some e)
    (h : ¬ isFor e cookie = true) :
    t.started now heard lasting cookie
      = (⟨some ⟨now, some now, heard, lasting, cookie⟩⟩, [.excursionReplaced e.frequency]) := by
  rw [started, hpending, Option.filter_some, if_neg h, replaced, hpending]

/-- A start before the answer is about the request. -/
theorem started_requested :
    (t.requested asked frequency duration).1.started now heard lasting cookie
      = (⟨some ⟨asked, some now, heard, lasting, cookie.or none⟩⟩, []) :=
  started_of_isFor _ now heard lasting cookie rfl rfl

/-- A start after the answer is about the request unless the answer gave another cookie. -/
theorem started_accepted_requested :
    ((t.requested asked frequency duration).1.accepted given).started now heard lasting cookie
      = if given = none ∨ given = cookie then
          (⟨some ⟨asked, some now, heard, lasting, cookie.or given⟩⟩, [])
        else (⟨some ⟨now, some now, heard, lasting, cookie⟩⟩, [.excursionReplaced frequency]) := by
  have hpending : ((t.requested asked frequency duration).1.accepted given).pending
      = some ⟨asked, none, frequency, duration, given⟩ := rfl
  have hfor : isFor ⟨asked, none, frequency, duration, given⟩ cookie = true
      ↔ given = none ∨ given = cookie := by
    rw [isFor_iff]
    exact and_iff_right rfl
  by_cases hgiven : given = none ∨ given = cookie
  · rw [if_pos hgiven]
    exact started_of_isFor _ now heard lasting cookie hpending (hfor.2 hgiven)
  · rw [if_neg hgiven]
    exact started_of_not_isFor _ now heard lasting cookie hpending (mt hfor.1 hgiven)

end

/-- For a request that is answered and an excursion that starts at the same later time, it does not
matter which comes first just if the answer gives no cookie or that of the start; at the time of the
request itself, any start with a cookie will do. When the start comes first, the record dates from
the request in any case. When it comes after an answer with another cookie, the record dates from
the start, and the request makes way for it. -/
theorem start_answer_comm_iff (t : ExcursionTracker) (asked now : Nat)
    (frequency heard : UInt32) (duration lasting : Nat) (given cookie : Option UInt64) :
    let opened := (t.requested asked frequency duration).1
    let answerFirst := (opened.accepted given).started now heard lasting cookie
    let startFirst := opened.started now heard lasting cookie
    (answerFirst.1 = startFirst.1.accepted given
        ↔ given = none ∨ given = cookie ∨ now = asked ∧ cookie ≠ none)
      ∧ (startFirst.1.accepted given).pending
        = some ⟨asked, some now, heard, lasting, cookie.or given⟩
      ∧ startFirst.2 = []
      ∧ answerFirst = if given = none ∨ given = cookie then
          (⟨some ⟨asked, some now, heard, lasting, cookie.or given⟩⟩, [])
        else (⟨some ⟨now, some now, heard, lasting, cookie⟩⟩, [.excursionReplaced frequency]) := by
  intro opened answerFirst startFirst
  have hstart : startFirst = (⟨some ⟨asked, some now, heard, lasting, cookie.or none⟩⟩, []) :=
    t.started_requested asked now frequency heard duration lasting cookie
  have hanswer : answerFirst = if given = none ∨ given = cookie then _ else _ :=
    t.started_accepted_requested asked now frequency heard duration lasting given cookie
  have haccepted : startFirst.1.accepted given
      = ⟨some ⟨asked, some now, heard, lasting, cookie.or given⟩⟩ := by
    rw [hstart]
    cases cookie <;> rfl
  refine ⟨?_, congrArg pending haccepted, congrArg Prod.snd hstart, hanswer⟩
  rw [haccepted, hanswer]
  by_cases hgiven : given = none ∨ given = cookie
  · rw [if_pos hgiven]
    exact iff_of_true rfl (or_assoc.1 (.inl hgiven))
  · rw [if_neg hgiven, ← or_assoc, or_iff_right hgiven]
    -- The records have the same cookie if the start has one, and then only the times differ.
    have hsome : given ≠ none := fun hnone => hgiven (.inl hnone)
    cases cookie with
    | none => simp [hsome.symm]
    | some n => simp

/-- It is not so that a request and an excursion that starts later leave the same record whether the
answer or the start comes first. -/
theorem not_start_answer_comm :
    ¬ ∀ (t : ExcursionTracker) (asked now : Nat) (frequency heard : UInt32) (duration lasting : Nat)
        (given cookie : Option UInt64),
      asked < now →
      let opened := (t.requested asked frequency duration).1
      ((opened.accepted given).started now heard lasting cookie).1.pending
        = ((opened.started now heard lasting cookie).1.accepted given).pending := by
  intro hall
  have hsame := hall empty 0 1000 2437 5180 50 30 (some 5) (some 7) (by decide)
  revert hsame
  decide

end ExcursionTracker

theorem Link.notes_execute (l : Link) (command : Command) (attributes : List Attribute)
    (dump : Bool) (reply : Command) :
    (l.execute command attributes dump reply).2.notes = l.notes := by
  rw [execute]
  dsimp only
  split <;> rfl

namespace Registry

variable (r : Registry) (l : Link) (index frequency duration : UInt32)

/-- A request fails if its interface is unknown, which changes nothing, or when it is rejected,
after which nothing is on record. -/
theorem remainOnChannel_eq_error {failure : Failure}
    (h : (r.remainOnChannel l index frequency duration).1 = .error failure) :
    (r.directory.interface index = .error failure
        ∧ r.remainOnChannel l index frequency duration = (.error failure, r, l))
      ∨ (∃ i, r.directory.interface index = .ok i)
        ∧ (r.remainOnChannel l index frequency duration).2.1 = { r with excursion := .empty }
        ∧ (r.remainOnChannel l index frequency duration).2.2.notes
          = l.notes ++ r.excursion.replaced := by
  cases hinterface : r.directory.interface index with
  | error reason =>
    have hunknown : r.remainOnChannel l index frequency duration = (.error reason, r, l) := by
      rw [remainOnChannel, hinterface]
    rw [hunknown] at h ⊢
    obtain rfl := Except.error.inj h
    exact .inl ⟨rfl, rfl⟩
  | ok i =>
    refine .inr ⟨⟨i, rfl⟩, ?_⟩
    have hasked : r.perform l.clock (.ask index frequency duration)
        = ({ r with excursion := (r.excursion.requested l.clock frequency duration.toNat).1 },
          r.excursion.replaced) := by
      simp only [perform, hinterface]
      rfl
    rw [r.remainOnChannel_of_interface hinterface l, hasked] at h ⊢
    generalize hanswered : (l.noted r.excursion.replaced).execute .remainOnChannel
      (request i frequency duration) false .remainOnChannel = answered at h ⊢
    have hnotes : answered.2.notes = l.notes ++ r.excursion.replaced := by
      rw [← hanswered, Link.notes_execute]
      rfl
    obtain ⟨result, after⟩ := answered
    cases result with
    | ok rows => cases h
    | error reason => exact ⟨rfl, hnotes⟩

/-- A request that fails leaves the record as it was just if its interface is unknown or nothing was
on record. An unknown interface changes nothing at all; after a rejection nothing is on record, and
it is noted that the record before the request, if there was one, made way for it. The same is so
when other things happen before the rejection. -/
theorem failed_request_keeps_iff {failure : Failure}
    (h : (r.remainOnChannel l index frequency duration).1 = .error failure) :
    let after := r.remainOnChannel l index frequency duration
    (after.2.1.excursion.pending = r.excursion.pending
        ↔ r.directory.interface index = .error failure ∨ r.excursion.pending = none)
      ∧ (r.directory.interface index = .error failure → after = (.error failure, r, l))
      ∧ ∀ i, r.directory.interface index = .ok i →
        after.2.1 = { r with excursion := .empty }
          ∧ after.2.2.notes = l.notes ++ r.excursion.replaced
          ∧ ∀ (asked answered : Nat) (steps : List (Nat × Step)),
            let before := (r.perform asked (.ask index frequency duration)).1.run asked steps
            (before.perform answered (.answer (.error failure))).1.excursion = .empty := by
  intro after
  rcases r.remainOnChannel_eq_error l index frequency duration h with
    ⟨hunknown, hafter⟩ | ⟨⟨i, hknown⟩, hcleared, hnotes⟩
  · have hsame : after = (.error failure, r, l) := hafter
    refine ⟨?_, fun _ => hsame, fun i hi => ?_⟩
    · rw [hsame]
      exact iff_of_true rfl (.inl hunknown)
    · rw [hunknown] at hi
      cases hi
  · refine ⟨?_, fun hunknown => ?_, fun i _ => ⟨hcleared, hnotes, fun _ _ _ => rfl⟩⟩
    · have hnone : after.2.1.excursion.pending = none :=
        congrArg (fun r : Registry => r.excursion.pending) hcleared
      rw [hnone, hknown, or_iff_right (fun heq => nomatch heq)]
      exact eq_comm
    · rw [hunknown] at hknown
      cases hknown

/-- An interface is known, and an excursion of somebody else has started. -/
def visited : Registry :=
  ((knowing 3).handleEvent 10 ⟨.remainOnChannel, 0, [.wiphyFreq 2437, .duration 500, .cookie 5]⟩).1

/-- The radio is busy. -/
def busy : Failure :=
  .of (.kernel 16 "RemainOnChannel")

/-- The excursion makes way for a request that is then rejected. -/
theorem failed_request_keeps_iff_visited :
    let after := visited.remainOnChannel (.start 0 [⟨100, some busy, [], none⟩]) 3 5180 30
    after.1 = .error busy
      ∧ visited.excursion.pending = some ⟨10, some 10, 2437, 500, some 5⟩
      ∧ after.2.1 = { visited with excursion := .empty }
      ∧ after.2.2.notes = [.excursionReplaced 2437]
      ∧ after.2.1.excursion.pending ≠ visited.excursion.pending := by
  intro after
  have hfailed : after.1 = .error busy := rfl
  obtain ⟨hkeeps, -, hcleared⟩ := visited.failed_request_keeps_iff _ 3 5180 30 hfailed
  obtain ⟨hempty, hnotes, -⟩ := hcleared _ rfl
  refine ⟨hfailed, rfl, hempty, hnotes, mt hkeeps.1 ?_⟩
  rintro (hunknown | hnone)
  · cases hunknown
  · cases hnone

/-- It is not so that a request that fails leaves the record as it was. -/
theorem not_all_failed_requests_keep :
    ¬ ∀ (r : Registry) (l : Link) (index frequency duration : UInt32) (failure : Failure),
      (r.remainOnChannel l index frequency duration).1 = .error failure →
      (r.remainOnChannel l index frequency duration).2.1.excursion.pending
        = r.excursion.pending := by
  intro hall
  have hsame := hall visited (.start 0 [⟨100, some busy, [], none⟩]) 3 5180 30 busy rfl
  revert hsame
  decide

end Registry

end NeighborAwareness
