import Mathlib.Data.List.Induction
import NeighborAwareness.Directory.Excursion

/-!
# What the record of an excursion means

Requests, answers, starts and ends of excursions reach the tracker in any order. At any time the
record is that of the last request or start, if no rejection and no end has come since. It dates
from that request or start itself, but for a start that is about the request before it: then the
record dates from the request.

## Main definitions

* `ExcursionTracker.Occurrence`, `ExcursionTracker.track` : what may happen, and the tracker after
  a history.
* `ExcursionTracker.Latest` : the last opening of a history that nothing has closed.
* `ExcursionTracker.Stamps` : the request that a start is about.
* `ExcursionTracker.Describes` : a record says what the last opening was.

## Main results

* `ExcursionTracker.Latest.unique` : there is at most one.
* `ExcursionTracker.Tracks.occur`, `ExcursionTracker.tracks_track` : what one occurrence and a
  history keep.
* `ExcursionTracker.record_of_history` : the record after a history, and when it is replaced.
-/

namespace NeighborAwareness

namespace ExcursionTracker

/-! ### Histories -/

/-- What may happen to a tracker. -/
inductive Occurrence where
  | requested (frequency : UInt32) (duration : Nat)
  | accepted (cookie : Option UInt64)
  | rejected
  | started (frequency : UInt32) (duration : Nat) (cookie : Option UInt64)
  | finished
  deriving DecidableEq, Repr

/-- Occurrences with their times, the latest last. -/
abbrev History := List (Nat × Occurrence)

namespace Occurrence

/-- Frequency and duration, if a record is opened. -/
def aims? : Occurrence → Option (UInt32 × Nat)
  | requested frequency duration => some (frequency, duration)
  | started frequency duration _ => some (frequency, duration)
  | accepted _ | rejected | finished => none

/-- Whether a record is opened. -/
def opens (o : Occurrence) : Bool :=
  o.aims?.isSome

/-- Whether the record is closed. -/
def closes : Occurrence → Bool
  | rejected | finished => true
  | requested .. | accepted _ | started .. => false

/-- Whether it is a start. -/
def isStart : Occurrence → Bool
  | started .. => true
  | requested .. | accepted _ | rejected | finished => false

/-- The cookie that an acceptance brings. -/
def cookie? : Occurrence → Option UInt64
  | accepted cookie => cookie
  | requested .. | rejected | started .. | finished => none

end Occurrence

/-- Something happens at the time `now`: the record that was taken, the tracker afterwards, and the
notes. -/
def occur (t : ExcursionTracker) (now : Nat) :
    Occurrence → Option Excursion × ExcursionTracker × List Note
  | .requested frequency duration => (none, t.requested now frequency duration)
  | .accepted cookie => (none, t.accepted cookie, [])
  | .rejected => (none, t.rejected, [])
  | .started frequency duration cookie => (none, t.started now frequency duration cookie)
  | .finished => t.finished

/-- The tracker after a history. -/
def track (history : History) : ExcursionTracker :=
  history.foldl (fun t x => (t.occur x.1 x.2).2.1) empty

/-- The first cookie that an acceptance brought. -/
def firstCookie (history : History) : Option UInt64 :=
  history.findSome? fun x => x.2.cookie?

/-- In `history`, `opening` opens a record at `time`, and what follows neither opens another one nor
closes it. -/
structure Latest (history front : History) (time : Nat) (opening : Occurrence) (back : History) :
    Prop where
  split : history = front ++ (time, opening) :: back
  opens : opening.opens = true
  calm : ∀ x ∈ back, x.2.opens = false ∧ x.2.closes = false

/-- `Stamps history start asked` says that `start` is about the last opening of `history`, which is a
request at the time `asked`: the first cookie since then, if there is one, is that of `start`. -/
inductive Stamps (history : History) : Occurrence → Nat → Prop
  | intro {front back : History} {asked duration : Nat} {frequency : UInt32} (heard : UInt32)
      (lasting : Nat) (cookie : Option UInt64) :
      Latest history front asked (.requested frequency duration) back →
      (firstCookie back = none ∨ firstCookie back = cookie) →
      Stamps history (.started heard lasting cookie) asked

/-- The record `e` says what the `opening` at `time` was, with `front` before and `back` after it. -/
structure Describes (e : Excursion) (front : History) (time : Nat) (opening : Occurrence)
    (back : History) : Prop where
  aims : opening.aims? = some (e.frequency, e.duration)
  started : e.started = if opening.isStart then some time else none
  ordered : ∀ started, e.started = some started → e.requested ≤ started
  requested : Stamps front opening e.requested
    ∨ (∀ asked, ¬ Stamps front opening asked) ∧ e.requested = time
  /-- The cookie does not change once the excursion has started. -/
  cookie : e.started = none → e.cookie = firstCookie back

/-- What is on record after `history`. -/
inductive Tracks (history : History) : Option Excursion → Prop
  | nothing : (∀ front time opening back, ¬ Latest history front time opening back) →
      Tracks history none
  | record {e : Excursion} {front : History} {time : Nat} {opening : Occurrence} {back : History} :
      Latest history front time opening back → Describes e front time opening back →
      Tracks history (some e)

theorem track_concat (history : History) (now : Nat) (o : Occurrence) :
    track (history ++ [(now, o)]) = ((track history).occur now o).2.1 := by
  rw [track, List.foldl_append]
  rfl

theorem tracker_finished (t : ExcursionTracker) : t.finished.2.1 = empty := by
  rw [finished]
  split <;> rfl

theorem firstCookie_concat (history : History) (now : Nat) (cookie : Option UInt64) :
    firstCookie (history ++ [(now, .accepted cookie)]) = (firstCookie history).or cookie := by
  rw [firstCookie, List.findSome?_append]
  cases cookie <;> rfl

/-! ### The last opening -/

namespace Latest

variable {history front : History} {time : Nat} {opening : Occurrence} {back : History}

theorem opened (history : History) (now : Nat) {o : Occurrence} (h : o.opens = true) :
    Latest (history ++ [(now, o)]) history now o [] :=
  ⟨rfl, h, fun _ hx => absurd hx List.not_mem_nil⟩

theorem mem (h : Latest history front time opening back) : (time, opening) ∈ history := by
  rw [h.split]
  exact List.mem_append_right _ List.mem_cons_self

theorem concat (h : Latest history front time opening back) {x : Nat × Occurrence}
    (hopens : x.2.opens = false) (hcloses : x.2.closes = false) :
    Latest (history ++ [x]) front time opening (back ++ [x]) := by
  refine ⟨?_, h.opens, fun y hy => ?_⟩
  · rw [h.split, List.append_assoc, List.cons_append]
  · rcases List.mem_append.1 hy with hy | hy
    · exact h.calm y hy
    · obtain rfl := List.mem_singleton.1 hy
      exact ⟨hopens, hcloses⟩

theorem of_concat {x : Nat × Occurrence} (hopens : x.2.opens = false)
    (h : Latest (history ++ [x]) front time opening back) :
    ∃ rest, back = rest ++ [x] ∧ Latest history front time opening rest := by
  have hsplit := h.split
  rcases List.eq_nil_or_concat back with rfl | ⟨rest, y, rfl⟩
  · obtain ⟨-, hx⟩ := List.append_inj' hsplit rfl
    obtain rfl : x = (time, opening) := List.head_eq_of_cons_eq hx
    rw [h.opens] at hopens
    contradiction
  · rw [List.concat_eq_append, ← List.cons_append, ← List.append_assoc] at hsplit
    obtain ⟨hhistory, hx⟩ := List.append_inj' hsplit rfl
    obtain rfl : x = y := List.head_eq_of_cons_eq hx
    rw [List.concat_eq_append] at h ⊢
    exact ⟨rest, rfl, hhistory, h.opens, fun z hz => h.calm z (List.mem_append_left _ hz)⟩

theorem not_of_closes {x : Nat × Occurrence} (hopens : x.2.opens = false)
    (hcloses : x.2.closes = true) : ¬ Latest (history ++ [x]) front time opening back := by
  intro h
  obtain ⟨rest, rfl, -⟩ := h.of_concat hopens
  rw [(h.calm x (List.mem_append_right _ List.mem_cons_self)).2] at hcloses
  contradiction

theorem eq_of_append (h : Latest history front time opening back) {between later : History}
    {x : Nat × Occurrence} (hopens : x.2.opens = true)
    (htail : (time, opening) :: back = between ++ x :: later) :
    between = [] ∧ (time, opening) = x ∧ back = later := by
  cases between with
  | nil => exact ⟨rfl, List.cons.inj htail⟩
  | cons y between =>
    have hback : back = between ++ x :: later := (List.cons.inj htail).2
    have hmem : x ∈ back := hback ▸ List.mem_append_right _ List.mem_cons_self
    rw [(h.calm x hmem).1] at hopens
    contradiction

/-- There is at most one. -/
theorem unique (h : Latest history front time opening back) {front' : History} {time' : Nat}
    {opening' : Occurrence} {back' : History} (h' : Latest history front' time' opening' back') :
    front = front' ∧ time = time' ∧ opening = opening' ∧ back = back' := by
  -- Of two openings, one comes first, and the other is then part of what follows it.
  rcases List.append_eq_append_iff.1 (h.split.symm.trans h'.split) with
    ⟨between, hfront, htail⟩ | ⟨between, hfront, htail⟩
  · obtain ⟨rfl, heq, hback⟩ := h.eq_of_append h'.opens htail
    obtain ⟨htime, hopening⟩ := Prod.mk.inj heq
    exact ⟨by rw [hfront, List.append_nil], htime, hopening, hback⟩
  · obtain ⟨rfl, heq, hback⟩ := h'.eq_of_append h.opens htail
    obtain ⟨htime, hopening⟩ := Prod.mk.inj heq
    exact ⟨by rw [hfront, List.append_nil], htime.symm, hopening.symm, hback.symm⟩

theorem exists_of_opens (front : History) {x : Nat × Occurrence} {back : History}
    (hopens : x.2.opens = true) (hback : ∀ y ∈ back, y.2.closes = false) :
    ∃ front' time opening back', Latest (front ++ x :: back) front' time opening back' := by
  -- Each later thing either opens another record, and is then the last opening, or changes nothing.
  induction back using List.reverseRecOn with
  | nil => exact ⟨front, x.1, x.2, [], opened front x.1 hopens⟩
  | append_singleton back y ih =>
    obtain ⟨front', time, opening, back', h⟩ :=
      ih fun z hz => hback z (List.mem_append_left _ hz)
    rw [← List.cons_append, ← List.append_assoc]
    cases hy : y.2.opens with
    | true => exact ⟨_, y.1, y.2, [], opened _ y.1 hy⟩
    | false =>
      have hcloses := hback y (List.mem_append_right _ List.mem_cons_self)
      exact ⟨front', time, opening, _, h.concat hy hcloses⟩

end Latest

/-- Something is the last opening just if an opening comes after all closings. -/
theorem exists_latest_iff (history : History) :
    (∃ front time opening back, Latest history front time opening back)
      ↔ ∃ front x back, history = front ++ x :: back ∧ x.2.opens = true
        ∧ ∀ y ∈ back, y.2.closes = false := by
  constructor
  · rintro ⟨front, time, opening, back, h⟩
    exact ⟨front, (time, opening), back, h.split, h.opens, fun y hy => (h.calm y hy).2⟩
  · rintro ⟨front, x, back, rfl, hopens, hback⟩
    exact Latest.exists_of_opens front hopens hback

/-! ### What a start is about -/

section

variable {history : History} {e : Excursion} {pending : Option Excursion} {asked : Nat}
  {cookie : Option UInt64}

/-- A record that has not started dates from the request that opened it. -/
theorem Describes.request {front : History} {time : Nat} {opening : Occurrence} {back : History}
    (h : Describes e front time opening back) (hstarted : e.started = none) :
    opening = .requested e.frequency e.duration ∧ e.requested = time := by
  have haims := h.aims
  have hstart := h.started
  cases opening with
  | requested frequency duration =>
    obtain ⟨rfl, rfl⟩ := Prod.mk.inj (Option.some.inj haims)
    refine ⟨rfl, ?_⟩
    rcases h.requested with hstamps | ⟨-, htime⟩
    · cases hstamps
    · exact htime
  | started frequency duration cookie =>
    rw [hstart] at hstarted
    cases hstarted
  | accepted cookie => cases haims
  | rejected => cases haims
  | finished => cases haims

theorem isFor_iff :
    isFor e cookie = true ↔ e.started = none ∧ (e.cookie = none ∨ e.cookie = cookie) := by
  rw [isFor, Bool.and_eq_true, Bool.or_eq_true, Option.isNone_iff_eq_none,
    Option.isNone_iff_eq_none, beq_iff_eq]

/-- A start that is about the record is about the request that opened it. -/
theorem stamps_of_isFor (h : Tracks history (some e)) (hfor : isFor e cookie = true)
    (frequency : UInt32) (duration : Nat) :
    Stamps history (.started frequency duration cookie) e.requested := by
  obtain _ | ⟨hlatest, hdescribes⟩ := h
  obtain ⟨hstarted, hcookie⟩ := isFor_iff.1 hfor
  obtain ⟨rfl, htime⟩ := hdescribes.request hstarted
  rw [hdescribes.cookie hstarted] at hcookie
  rw [htime]
  exact .intro _ _ _ hlatest hcookie

theorem isFor_of_stamps (h : Tracks history pending) {frequency : UInt32} {duration : Nat}
    (hstamps : Stamps history (.started frequency duration cookie) asked) :
    ∃ e, pending = some e ∧ isFor e cookie = true := by
  obtain ⟨_, _, _, hrequest, hcookie⟩ := hstamps
  cases h with
  | nothing hnone => exact absurd hrequest (hnone _ _ _ _)
  | @record e front time opening back hlatest hdescribes =>
    obtain ⟨rfl, rfl, rfl, rfl⟩ := hlatest.unique hrequest
    have hstarted : e.started = none := hdescribes.started
    refine ⟨e, rfl, isFor_iff.2 ⟨hstarted, ?_⟩⟩
    rwa [hdescribes.cookie hstarted]

/-- A start stamps the record if it is about the last request, and replaces it otherwise. -/
theorem started_cases {t : ExcursionTracker} (h : Tracks history t.pending) (now : Nat)
    (frequency : UInt32) (duration : Nat) (cookie : Option UInt64) :
    (∃ e : Excursion, Stamps history (.started frequency duration cookie) e.requested
        ∧ t.started now frequency duration cookie
          = (⟨some { e with
              started := some now, frequency, duration, cookie := cookie.or e.cookie }⟩, []))
      ∨ ((∀ asked, ¬ Stamps history (.started frequency duration cookie) asked)
        ∧ t.started now frequency duration cookie
          = (⟨some ⟨now, some now, frequency, duration, cookie⟩⟩, t.replaced)) := by
  rw [started]
  cases hfilter : t.pending.filter (isFor · cookie) with
  | some e =>
    obtain ⟨hpending, hfor⟩ := Option.filter_eq_some_iff.1 hfilter
    rw [hpending] at h
    exact .inl ⟨e, stamps_of_isFor h hfor frequency duration, rfl⟩
  | none =>
    refine .inr ⟨fun asked hstamps => ?_, rfl⟩
    obtain ⟨e, hpending, hfor⟩ := isFor_of_stamps h hstamps
    rw [hpending, Option.filter_some, if_pos hfor] at hfilter
    cases hfilter

end

/-! ### What a history keeps -/

namespace Tracks

variable {history : History} {t : ExcursionTracker} {now : Nat}

theorem isSome_iff {pending : Option Excursion} (h : Tracks history pending) :
    pending.isSome = true
      ↔ ∃ front time opening back, Latest history front time opening back := by
  cases h with
  | nothing hnone =>
    refine ⟨fun hsome => (nomatch hsome), ?_⟩
    rintro ⟨_, _, _, _, hlatest⟩
    exact absurd hlatest (hnone _ _ _ _)
  | record hlatest _ => exact ⟨fun _ => ⟨_, _, _, _, hlatest⟩, fun _ => rfl⟩

theorem exists_latest {e : Excursion} (h : Tracks history (some e)) :
    ∃ front time opening back,
      Latest history front time opening back ∧ Describes e front time opening back := by
  obtain _ | ⟨hlatest, hdescribes⟩ := h
  exact ⟨_, _, _, _, hlatest, hdescribes⟩

theorem nil : Tracks [] none :=
  .nothing fun front time opening back h => by
    have hsplit := h.split
    simp at hsplit

theorem accepted (h : Tracks history t.pending) (cookie : Option UInt64) :
    Tracks (history ++ [(now, .accepted cookie)]) (t.accepted cookie).pending := by
  rw [ExcursionTracker.accepted]
  generalize t.pending = pending at h
  cases h with
  | nothing hnone =>
    refine .nothing fun front time opening back hlatest => ?_
    obtain ⟨rest, -, hbefore⟩ := hlatest.of_concat rfl
    exact hnone _ _ _ _ hbefore
  | @record e front time opening back hlatest h =>
    refine .record (hlatest.concat rfl rfl) ⟨h.aims, h.started, h.ordered, h.requested, ?_⟩
    intro hstarted
    rw [firstCookie_concat, ← h.cookie hstarted]

theorem opened {e : Excursion} {o : Occurrence} (hopens : o.opens = true)
    (h : Describes e history now o []) : Tracks (history ++ [(now, o)]) (some e) :=
  .record (.opened history now hopens) h

theorem closed {o : Occurrence} (hopens : o.opens = false) (hcloses : o.closes = true) :
    Tracks (history ++ [(now, o)]) none :=
  .nothing fun _ _ _ _ => Latest.not_of_closes hopens hcloses

theorem started (h : Tracks history t.pending) (hpast : ∀ x ∈ history, x.1 ≤ now)
    (frequency : UInt32) (duration : Nat) (cookie : Option UInt64) :
    Tracks (history ++ [(now, .started frequency duration cookie)])
      (t.started now frequency duration cookie).1.pending := by
  rcases started_cases h now frequency duration cookie with
    ⟨e, hstamps, hstarted⟩ | ⟨hnone, hstarted⟩
  · rw [hstarted]
    refine opened rfl ⟨rfl, rfl, ?_, .inl hstamps, fun hstarted => (nomatch hstarted)⟩
    intro started hstarted
    obtain rfl := Option.some.inj hstarted
    obtain ⟨_, _, _, hrequest, -⟩ := hstamps
    exact hpast _ hrequest.mem
  · rw [hstarted]
    refine opened rfl ⟨rfl, rfl, ?_, .inr ⟨hnone, rfl⟩, fun hstarted => (nomatch hstarted)⟩
    intro started hstarted
    exact Nat.le_of_eq (Option.some.inj hstarted)

/-- Whatever happens. -/
theorem occur (h : Tracks history t.pending) (hpast : ∀ x ∈ history, x.1 ≤ now) (o : Occurrence) :
    Tracks (history ++ [(now, o)]) (t.occur now o).2.1.pending := by
  cases o with
  | requested frequency duration =>
    refine opened rfl ⟨rfl, rfl, fun _ hstarted => (nomatch hstarted), .inr ⟨?_, rfl⟩, fun _ => rfl⟩
    intro asked hstamps
    cases hstamps
  | accepted cookie => exact h.accepted cookie
  | rejected => exact closed rfl rfl
  | started frequency duration cookie => exact h.started hpast frequency duration cookie
  | finished =>
    rw [ExcursionTracker.occur, tracker_finished]
    exact closed rfl rfl

end Tracks

/-- The record after a history whose times do not decrease. -/
theorem tracks_track {history : History} (h : (history.map Prod.fst).Pairwise (· ≤ ·)) :
    Tracks history (track history).pending := by
  induction history using List.reverseRecOn with
  | nil => exact .nil
  | append_singleton history x ih =>
    rw [List.map_append, List.pairwise_append] at h
    obtain ⟨hsorted, -, hlast⟩ := h
    rw [track_concat]
    refine (ih hsorted).occur (fun y hy => ?_) x.2
    exact hlast y.1 (List.mem_map_of_mem hy) x.1 List.mem_cons_self

/-! ### Replacement -/

theorem mem_replaced_iff (t : ExcursionTracker) (frequency : UInt32) :
    .excursionReplaced frequency ∈ t.replaced
      ↔ ∃ e, t.pending = some e ∧ e.frequency = frequency := by
  rw [replaced]
  cases t.pending <;> simp [eq_comm]

theorem length_replaced (t : ExcursionTracker) : t.replaced.length ≤ 1 := by
  rw [replaced]
  split <;> simp

theorem length_notes_occur (t : ExcursionTracker) (now : Nat) (o : Occurrence) :
    (t.occur now o).2.2.length ≤ 1 := by
  cases o with
  | requested frequency duration => exact t.length_replaced
  | accepted cookie => exact Nat.zero_le _
  | rejected => exact Nat.zero_le _
  | started frequency duration cookie =>
    rw [occur, started]
    split
    · exact Nat.zero_le _
    · exact t.length_replaced
  | finished =>
    rw [occur, finished]
    split <;> exact Nat.le_refl _

/-- A record makes way for whatever opens another one, but not for a start that is about it. -/
theorem mem_notes_occur_iff {history : History} {t : ExcursionTracker}
    (h : Tracks history t.pending) (now : Nat) (o : Occurrence) (frequency : UInt32) :
    .excursionReplaced frequency ∈ (t.occur now o).2.2
      ↔ o.opens = true ∧ (∀ asked, ¬ Stamps history o asked)
        ∧ ∃ e, t.pending = some e ∧ e.frequency = frequency := by
  rw [← mem_replaced_iff]
  cases o with
  | requested heard duration =>
    have hnone : ∀ asked, ¬ Stamps history (.requested heard duration) asked := by
      intro asked hstamps
      cases hstamps
    exact ⟨fun hmem => ⟨rfl, hnone, hmem⟩, fun hopened => hopened.2.2⟩
  | accepted cookie =>
    exact ⟨fun hmem => absurd hmem List.not_mem_nil, fun hopened => (nomatch hopened.1)⟩
  | rejected =>
    exact ⟨fun hmem => absurd hmem List.not_mem_nil, fun hopened => (nomatch hopened.1)⟩
  | started heard duration cookie =>
    rw [occur]
    rcases started_cases h now heard duration cookie with
      ⟨e, hstamps, hstarted⟩ | ⟨hnone, hstarted⟩
    · rw [hstarted]
      exact ⟨fun hmem => absurd hmem List.not_mem_nil,
        fun hopened => absurd hstamps (hopened.2.1 _)⟩
    · rw [hstarted]
      exact ⟨fun hmem => ⟨rfl, hnone, hmem⟩, fun hopened => hopened.2.2⟩
  | finished =>
    refine ⟨fun hmem => ?_, fun hopened => (nomatch hopened.1)⟩
    rw [occur, finished] at hmem
    split at hmem <;> simp at hmem

/-! ### After a history -/

/-- After any history whose times do not decrease, there is a record just if one was opened after
all closings. It says what the last opening was. Whatever happens next, it is noted that the record
makes way just if something else opens one, with the frequency of the record; and the end of the
excursion takes it. -/
theorem record_of_history (history : History) (h : (history.map Prod.fst).Pairwise (· ≤ ·)) :
    let t := track history
    (t.pending.isSome = true ↔ ∃ front x back,
        history = front ++ x :: back ∧ x.2.opens = true ∧ ∀ y ∈ back, y.2.closes = false)
      ∧ (∀ e, t.pending = some e → ∃ front time opening back,
        Latest history front time opening back ∧ Describes e front time opening back)
      ∧ (∀ now o, (t.occur now o).2.2.length ≤ 1 ∧ ∀ frequency,
        (.excursionReplaced frequency ∈ (t.occur now o).2.2
          ↔ o.opens = true ∧ (∀ asked, ¬ Stamps history o asked)
            ∧ ∃ e, t.pending = some e ∧ e.frequency = frequency))
      ∧ t.finished.1 = t.pending ∧ t.finished.2.1 = empty := by
  intro t
  have htracks : Tracks history t.pending := tracks_track h
  refine ⟨htracks.isSome_iff.trans (exists_latest_iff history), fun e hpending => ?_,
    fun now o => ⟨t.length_notes_occur now o, mem_notes_occur_iff htracks now o⟩, ?_,
    t.tracker_finished⟩
  · rw [hpending] at htracks
    exact htracks.exists_latest
  · rw [finished]
    cases t.pending <;> rfl

/-- An excursion of somebody else makes way for a request, whose cookie is given twice before the
start. The record dates from the request. -/
theorem record_of_history_requested :
    let history : History :=
      [(0, .started 2437 20 (some 1)), (5, .requested 5180 30), (6, .accepted none),
        (7, .accepted (some 9)), (9, .accepted (some 4)), (20, .started 5180 30 (some 9))]
    (history.map Prod.fst).Pairwise (· ≤ ·)
      ∧ (track history).pending = some ⟨5, some 20, 5180, 30, some 9⟩
      ∧ (track history).finished.1 = (track history).pending
      ∧ ∃ front time opening back, Latest history front time opening back
        ∧ Describes ⟨5, some 20, 5180, 30, some 9⟩ front time opening back := by
  intro history
  have hsorted : (history.map Prod.fst).Pairwise (· ≤ ·) := by decide
  have hpending : (track history).pending = some ⟨5, some 20, 5180, 30, some 9⟩ := rfl
  obtain ⟨-, hlatest, -, hfinished, -⟩ := record_of_history history hsorted
  exact ⟨hsorted, hpending, hfinished, hlatest _ hpending⟩

end ExcursionTracker

end NeighborAwareness
