import NeighborAwareness.Proofs.ExcursionRuns

/-!
# Which excursion an end closes

The end of an excursion is announced with its cookie, but the tracker takes whatever is on record.
That is the excursion that was asked for or started last. When a request is made while an earlier
excursion still lasts, the end of the earlier one takes the record of the later one, and the start
of the later one finds no request any more.

## Main results

* `Registry.cancel_takes_last_opened` : what the end of an excursion takes, and what a start after
  it leaves on record.
-/

namespace NeighborAwareness

namespace Registry

open ExcursionTracker (Latest)

variable (r : Registry) (now : Nat)

/-- The end of an excursion takes what is on record, and notes its frequency. -/
theorem handleEvent_cancel {cancel : Event} (h : cancel.command = .cancelRemainOnChannel) :
    (r.handleEvent now cancel).1.excursion = .empty
      ∧ (r.handleEvent now cancel).2 = match r.excursion.pending with
        | some e => [.excursionEnded e.frequency]
        | none => [.excursionEndedUnrecorded] := by
  constructor
  · rw [excursion_handleEvent, h, if_neg (by decide), if_pos rfl]
  · rw [handleEvent, attend, h, if_neg (by decide), if_neg (by decide), if_pos rfl, attendEnd,
      ExcursionTracker.finished]
    cases r.excursion.pending <;> rfl

/-- A start that finds nothing on record is recorded as an excursion of somebody else. -/
theorem handleEvent_start_of_empty (hempty : r.excursion = .empty) {start : Event}
    (h : start.command = .remainOnChannel) :
    let report := StartReport.ofRow start.attributes
    (r.handleEvent now start).1.excursion.pending
      = some ⟨now, some now, report.frequency, report.duration.toNat, report.cookie⟩ := by
  intro report
  rw [excursion_handleEvent, if_pos h, hempty]
  rfl

/-- In a run whose starts and answers carry cookies, the end of an excursion takes the record of the
last request or start that nothing has closed yet, with the cookie of that one, whatever its own. A
start after it, with nothing opened in between, is matched with no request: the record dates from
the start itself. -/
theorem cancel_takes_last_opened (hempty : r.excursion = .empty) (steps : List (Nat × Step))
    (hlabelled : ∀ x ∈ history r.directory now steps, x.2.isLabelled = true) (time : Nat)
    (cancel : Event) (hcancel : cancel.command = .cancelRemainOnChannel) :
    let before := r.run now steps
    let closed := before.handleEvent time cancel
    closed.1.excursion = .empty
      ∧ (closed.2 = match before.excursion.pending with
        | some e => [.excursionEnded e.frequency]
        | none => [.excursionEndedUnrecorded])
      ∧ (∀ e, before.excursion.pending = some e → ∃ front asked opening back,
        Latest (history r.directory now steps) front asked opening back
          ∧ e.cookie = opening.label back)
      ∧ ∀ (rest : List (Nat × Step)) (start : Event) (later : Nat),
        (∀ x ∈ history r.directory time rest, x.2.opens = false) →
        start.command = .remainOnChannel →
        let report := StartReport.ofRow start.attributes
        ((closed.1.run time rest).handleEvent later start).1.excursion.pending
          = some ⟨later, some later, report.frequency, report.duration.toNat, report.cookie⟩ := by
  intro before closed
  obtain ⟨hdirectory, hexcursion⟩ := r.excursion_run now steps
  obtain ⟨htaken, hnoted⟩ := before.handleEvent_cancel time hcancel
  refine ⟨htaken, hnoted, fun e hpending => ?_, fun rest start later hcalm hstart => ?_⟩
  · have htrack : before.excursion = .track (history r.directory now steps) := by
      rw [hexcursion, hempty]
      rfl
    rw [htrack] at hpending
    have htracks := ExcursionTracker.tracks_track (sorted_history now r.directory steps).1
    rw [hpending] at htracks
    obtain ⟨front, asked, opening, back, hlatest, -⟩ := htracks.exists_latest
    obtain ⟨e', hpending', hcookie⟩ :=
      ExcursionTracker.cookie_of_latest hlatest (hlabelled _ hlatest.mem)
    obtain rfl := Option.some.inj (hpending.symm.trans hpending')
    exact ⟨front, asked, opening, back, hlatest, hcookie⟩
  · obtain ⟨-, hrest⟩ := closed.1.excursion_run time rest
    refine handleEvent_start_of_empty _ later ?_ hstart
    rw [hrest, htaken, directory_handleEvent, hdirectory]
    exact ExcursionTracker.follow_empty hcalm

/-- An excursion is asked for, granted with cookie 5 and started. While it lasts, another one is
asked for and granted with cookie 6. -/
def overlapping : List (Nat × Step) :=
  [(0, .ask 3 2437 20), (5, .answer (.ok [[.cookie 5]])),
    (10, .hear ⟨.remainOnChannel, 0, [.wiphyFreq 2437, .duration 20, .cookie 5]⟩),
    (5, .ask 3 5180 30), (5, .answer (.ok [[.cookie 6]]))]

/-- The end of the first excursion. -/
def firstEnd : Event :=
  ⟨.cancelRemainOnChannel, 0, [.cookie 5]⟩

/-- The start of the second excursion. -/
def secondStart : Event :=
  ⟨.remainOnChannel, 0, [.wiphyFreq 5180, .duration 30, .cookie 6]⟩

theorem isLabelled_overlapping :
    ∀ x ∈ history (knowing 3).directory 0 overlapping, x.2.isLabelled = true := by
  decide

theorem pending_overlapping :
    ((knowing 3).run 0 overlapping).excursion.pending = some ⟨20, none, 5180, 30, some 6⟩ := rfl

/-- The end of the first excursion takes the record of the second, which then dates from its start
at 50 and not from its request at 20. -/
theorem cancel_takes_last_opened_overlapping :
    let closed := ((knowing 3).run 0 overlapping).handleEvent 40 firstEnd
    (knowing 3).excursion = .empty
      ∧ (∀ x ∈ history (knowing 3).directory 0 overlapping, x.2.isLabelled = true)
      ∧ firstEnd.command = .cancelRemainOnChannel
      ∧ closed.2 = [.excursionEnded 5180]
      ∧ (∃ front asked opening back,
        Latest (history (knowing 3).directory 0 overlapping) front asked opening back
          ∧ opening.label back = some 6)
      ∧ (closed.1.handleEvent 50 secondStart).1.excursion.pending
        = some ⟨50, some 50, 5180, 30, some 6⟩ := by
  intro closed
  obtain ⟨-, hnoted, hlast, hlater⟩ := (knowing 3).cancel_takes_last_opened 0 rfl overlapping
    isLabelled_overlapping 40 firstEnd rfl
  obtain ⟨front, asked, opening, back, hlatest, hcookie⟩ := hlast _ pending_overlapping
  refine ⟨rfl, isLabelled_overlapping, rfl, hnoted, ⟨front, asked, opening, back, hlatest, ?_⟩, ?_⟩
  · exact hcookie.symm
  · exact hlater [] secondStart 50 (fun _ hx => absurd hx List.not_mem_nil) rfl

/-- Made in one go each, the two requests leave the same on record. -/
example :
    let l := Link.start 0 [⟨5, none, [[.cookie 5]], none⟩, ⟨5, none, [[.cookie 6]], none⟩]
    let first := (knowing 3).remainOnChannel l 3 2437 20
    let started := first.2.1.handleEvent 15
      ⟨.remainOnChannel, 0, [.wiphyFreq 2437, .duration 20, .cookie 5]⟩
    let second := started.1.remainOnChannel (first.2.2.waitUntil 20) 3 5180 30
    first.1 = .ok (some 5) ∧ second.1 = .ok (some 6)
      ∧ second.2.1.excursion = ((knowing 3).run 0 overlapping).excursion :=
  ⟨rfl, rfl, rfl⟩

/-- It is not so that the end of an excursion closes only a record with its cookie or without
one. -/
theorem not_only_own_closed :
    ¬ ∀ (r : Registry) (now : Nat) (steps : List (Nat × Step)) (time : Nat) (cancel : Event)
        (cookie : UInt64) (e : Excursion),
      r.excursion = .empty →
      (∀ x ∈ history r.directory now steps, x.2.isLabelled = true) →
      cancel.command = .cancelRemainOnChannel →
      .cookie cookie ∈ cancel.attributes →
      (r.run now steps).excursion.pending = some e →
      ((r.run now steps).handleEvent time cancel).1.excursion.pending = none →
      e.cookie = none ∨ e.cookie = some cookie := by
  intro hall
  have hown := hall (knowing 3) 0 overlapping 40 firstEnd 5 _ rfl isLabelled_overlapping rfl
    List.mem_cons_self pending_overlapping rfl
  revert hown
  decide

end Registry

end NeighborAwareness
