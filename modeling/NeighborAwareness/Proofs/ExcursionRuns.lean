import Mathlib.Data.List.Pairwise
import NeighborAwareness.Proofs.ExcursionHistory
import NeighborAwareness.Session.Registry

/-!
# Excursions of a registry

Several threads ask a registry for excursions, while another one hands it the events of the kernel.
A request is recorded before it goes out and answered later, so that events may be handled in
between. Whatever the order, the tracker of the registry has seen a history, and what is on record
follows from it.

## Main definitions

* `Registry.Step`, `Registry.perform` : what happens to a registry, and the registry afterwards.
* `Registry.run`, `Registry.history` : a run of a registry, and the history of its tracker.
* `ExcursionTracker.Occurrence.label` : the cookie that an opening and its acceptances leave.

## Main results

* `Registry.remainOnChannel_of_interface` : a request from beginning to end is its two steps.
* `Registry.excursion_run` : the tracker after a run.
* `Registry.sorted_history` : the times of a history do not decrease.
* `ExcursionTracker.cookie_of_latest` : the cookie on record.
-/

namespace NeighborAwareness

namespace ExcursionTracker

/-! ### The cookie on record -/

/-- The tracker when `history` has happened to it. -/
def follow (t : ExcursionTracker) (history : History) : ExcursionTracker :=
  history.foldl (fun t x => (t.occur x.1 x.2).2.1) t

theorem follow_append (t : ExcursionTracker) (front back : History) :
    t.follow (front ++ back) = (t.follow front).follow back :=
  List.foldl_append

/-- Where nothing is on record, nothing is until a record is opened. -/
theorem follow_empty {history : History} (h : ∀ x ∈ history, x.2.opens = false) :
    empty.follow history = empty := by
  induction history with
  | nil => rfl
  | cons x history ih =>
    obtain ⟨hx, hrest⟩ := List.forall_mem_cons.1 h
    have hempty : (empty.occur x.1 x.2).2.1 = empty := by
      cases hoccurrence : x.2 with
      | requested frequency duration => rw [hoccurrence] at hx; cases hx
      | started frequency duration cookie => rw [hoccurrence] at hx; cases hx
      | accepted cookie => rfl
      | rejected => rfl
      | finished => rfl
    exact (congrArg (follow · history) hempty).trans (ih hrest)

/-- The cookie of a record that was opened by `opening`, with `back` since then: that of a start,
or the first that a request was accepted with. -/
def Occurrence.label (opening : Occurrence) (back : History) : Option UInt64 :=
  match opening with
  | started _ _ cookie => cookie
  | requested .. | accepted _ | rejected | finished => firstCookie back

/-- Whether it carries a cookie, if it is a start or an acceptance. -/
def Occurrence.isLabelled : Occurrence → Bool
  | started _ _ cookie => cookie.isSome
  | accepted cookie => cookie.isSome
  | requested .. | rejected | finished => true

theorem Occurrence.eq_requested_or_started {o : Occurrence} (h : o.opens = true) :
    (∃ frequency duration, o = .requested frequency duration)
      ∨ ∃ frequency duration cookie, o = .started frequency duration cookie := by
  cases o with
  | requested frequency duration => exact .inl ⟨frequency, duration, rfl⟩
  | started frequency duration cookie => exact .inr ⟨frequency, duration, cookie, rfl⟩
  | accepted cookie => cases h
  | rejected => cases h
  | finished => cases h

theorem Occurrence.eq_accepted {o : Occurrence} (hopens : o.opens = false)
    (hcloses : o.closes = false) : ∃ cookie, o = .accepted cookie := by
  cases o with
  | accepted cookie => exact ⟨cookie, rfl⟩
  | requested frequency duration => cases hopens
  | started frequency duration cookie => cases hopens
  | rejected => cases hcloses
  | finished => cases hcloses

theorem cookie_started (t : ExcursionTracker) (now : Nat) (frequency : UInt32) (duration : Nat)
    (cookie : UInt64) :
    ∃ e, (t.started now frequency duration (some cookie)).1.pending = some e
      ∧ e.cookie = some cookie := by
  rw [started]
  split <;> exact ⟨_, rfl, rfl⟩

/-- The cookie on record is that of the last opening. -/
theorem cookie_of_latest {history front : History} {time : Nat} {opening : Occurrence}
    {back : History} (h : Latest history front time opening back)
    (hlabelled : opening.isLabelled = true) :
    ∃ e, (track history).pending = some e ∧ e.cookie = opening.label back := by
  -- What follows the opening are acceptances, and each of them keeps a cookie that is known.
  obtain ⟨rfl, hopens, hcalm⟩ := h
  induction back using List.reverseRecOn with
  | nil =>
    rw [track_concat]
    rcases opening.eq_requested_or_started hopens with
      ⟨frequency, duration, rfl⟩ | ⟨frequency, duration, cookie, rfl⟩
    · exact ⟨_, rfl, rfl⟩
    · obtain ⟨cookie, rfl⟩ := Option.isSome_iff_exists.1 hlabelled
      exact cookie_started _ time frequency duration cookie
  | append_singleton back x ih =>
    obtain ⟨e, hpending, hcookie⟩ := ih fun y hy => hcalm y (List.mem_append_left _ hy)
    obtain ⟨hx, hx'⟩ := hcalm x (List.mem_append_right _ List.mem_cons_self)
    obtain ⟨now, o⟩ := x
    obtain ⟨brought, rfl⟩ := Occurrence.eq_accepted hx hx'
    have hlabel : (opening.label back).or brought
        = opening.label (back ++ [(now, .accepted brought)]) := by
      rcases opening.eq_requested_or_started hopens with
        ⟨frequency, duration, rfl⟩ | ⟨frequency, duration, cookie, rfl⟩
      · exact (firstCookie_concat back now brought).symm
      · obtain ⟨cookie, rfl⟩ := Option.isSome_iff_exists.1 hlabelled
        rfl
    rw [← List.cons_append, ← List.append_assoc, track_concat]
    exact ⟨{ e with cookie := e.cookie.or brought }, congrArg (Option.map _) hpending,
      (congrArg (Option.or · brought) hcookie).trans hlabel⟩

end ExcursionTracker

namespace Registry

open ExcursionTracker (History Occurrence)

/-! ### Runs -/

/-- What may happen to a registry. A request is made in two steps, as its answer takes time. -/
inductive Step where
  /-- An excursion is asked for, and the request is recorded if the interface is known. -/
  | ask (index frequency duration : UInt32)
  /-- The request is answered, or fails. -/
  | answer (result : Except Failure (List (List Attribute)))
  /-- An event is handled. -/
  | hear (e : Event)

/-- The cookie in the answer to a request. -/
def cookieOf (rows : List (List Attribute)) : Option UInt64 :=
  rows.flatten.findSome? Attribute.cookie?

/-- The registry after a step at the time `now`, and the notes. -/
def perform (r : Registry) (now : Nat) : Step → Registry × List Note
  | .ask index frequency duration =>
    match r.directory.interface index with
    | .error _ => (r, [])
    | .ok _ =>
      let (excursion, notes) := r.excursion.requested now frequency duration.toNat
      ({ r with excursion }, notes)
  | .answer (.ok rows) => ({ r with excursion := r.excursion.accepted (cookieOf rows) }, [])
  | .answer (.error _) => ({ r with excursion := r.excursion.rejected }, [])
  | .hear e => r.handleEvent now e

/-- The registry after steps, each of them some time after the one before. -/
def run (r : Registry) (now : Nat) : List (Nat × Step) → Registry
  | [] => r
  | (wait, x) :: rest => (r.perform (now + wait) x).1.run (now + wait) rest

/-- What happens to the tracker in a step. -/
def Step.occurrences (d : Directory) : Step → List Occurrence
  | ask index frequency duration =>
    match d.interface index with
    | .error _ => []
    | .ok _ => [.requested frequency duration.toNat]
  | answer (.ok rows) => [.accepted (cookieOf rows)]
  | answer (.error _) => [.rejected]
  | hear e =>
    if e.command = .remainOnChannel then
      let report := StartReport.ofRow e.attributes
      [.started report.frequency report.duration.toNat report.cookie]
    else if e.command = .cancelRemainOnChannel then [.finished]
    else []

/-- What happens to the tracker in steps. -/
def history (d : Directory) (now : Nat) : List (Nat × Step) → History
  | [] => []
  | (wait, x) :: rest => (x.occurrences d).map (now + wait, ·) ++ history d (now + wait) rest

/-- The request for an excursion. -/
def request (i : Interface) (frequency duration : UInt32) : List Attribute :=
  [.ifindex i.index, .wdev i.device, .wiphyFreq frequency, .duration duration, .dontWaitForAck]

variable (r : Registry) (now : Nat)

/-- A request for an excursion of a known interface is recorded, goes out and is answered. -/
theorem remainOnChannel_of_interface {index : UInt32} {i : Interface}
    (h : r.directory.interface index = .ok i) (l : Link) (frequency duration : UInt32) :
    let asked := r.perform l.clock (.ask index frequency duration)
    let answered := (l.noted asked.2).execute .remainOnChannel (request i frequency duration) false
      .remainOnChannel
    r.remainOnChannel l index frequency duration
      = (answered.1.map cookieOf, (asked.1.perform answered.2.clock (.answer answered.1)).1,
        answered.2) := by
  simp only [remainOnChannel, perform, h, Directory.remainOnChannel]
  split <;> rename_i hanswered <;> rw [request, hanswered] <;> rfl

/-! ### The tracker in a run -/

theorem excursion_handleEvent (e : Event) :
    (r.handleEvent now e).1.excursion
      = if e.command = .remainOnChannel then
          let report := StartReport.ofRow e.attributes
          (r.excursion.started now report.frequency report.duration.toNat report.cookie).1
        else if e.command = .cancelRemainOnChannel then .empty
        else r.excursion := by
  dsimp only [handleEvent]
  rcases r.attend_cases e with
    ⟨_, _, hstatus, -, -, h⟩ | ⟨hstart, h⟩ | ⟨hend, h⟩ | ⟨-, hstart, hend, _, h⟩
  · rw [h, hstatus, if_neg (by decide), if_neg (by decide)]
    rfl
  · rw [h, if_pos hstart]
    rfl
  · rw [h, hend, if_neg (by decide), if_pos rfl]
    exact r.excursion.tracker_finished
  · rw [h, if_neg hstart, if_neg hend]

theorem directory_handleEvent (e : Event) : (r.handleEvent now e).1.directory = r.directory := by
  rcases r.attend_cases e with ⟨_, _, -, -, -, h⟩ | ⟨-, h⟩ | ⟨-, h⟩ | ⟨-, -, -, _, h⟩
  all_goals exact congrArg (fun after : Registry × Link => after.1.directory) (h _)

theorem excursion_perform (x : Step) :
    (r.perform now x).1.directory = r.directory
      ∧ (r.perform now x).1.excursion
        = r.excursion.follow ((x.occurrences r.directory).map (now, ·)) := by
  cases x with
  | ask index frequency duration =>
    rw [perform, Step.occurrences]
    cases r.directory.interface index with
    | error failure => exact ⟨rfl, rfl⟩
    | ok i => exact ⟨rfl, rfl⟩
  | answer result => cases result <;> exact ⟨rfl, rfl⟩
  | hear e =>
    refine ⟨r.directory_handleEvent now e, ?_⟩
    rw [perform, excursion_handleEvent, Step.occurrences]
    split
    · rfl
    · split
      · exact (r.excursion.tracker_finished).symm
      · rfl

/-- A run. -/
theorem excursion_run (steps : List (Nat × Step)) :
    (r.run now steps).directory = r.directory
      ∧ (r.run now steps).excursion = r.excursion.follow (history r.directory now steps) := by
  induction steps generalizing r now with
  | nil => exact ⟨rfl, rfl⟩
  | cons x rest ih =>
    obtain ⟨wait, x⟩ := x
    obtain ⟨hdirectory, hexcursion⟩ := r.excursion_perform (now + wait) x
    obtain ⟨hdirectory', hexcursion'⟩ := ih (r.perform (now + wait) x).1 (now + wait)
    rw [run, history, ExcursionTracker.follow_append, ← hexcursion, ← hdirectory]
    exact ⟨hdirectory', hexcursion'⟩

/-- The times of a history do not decrease. -/
theorem sorted_history (d : Directory) (steps : List (Nat × Step)) :
    ((history d now steps).map Prod.fst).Pairwise (· ≤ ·)
      ∧ ∀ time ∈ (history d now steps).map Prod.fst, now ≤ time := by
  induction steps generalizing now with
  | nil => exact ⟨.nil, fun _ h => absurd h List.not_mem_nil⟩
  | cons x rest ih =>
    obtain ⟨wait, x⟩ := x
    obtain ⟨hsorted, hlater⟩ := ih (now + wait)
    have hfirst : ∀ time ∈ ((x.occurrences d).map (now + wait, ·)).map Prod.fst,
        time = now + wait := by
      simp only [List.map_map, List.mem_map]
      rintro time ⟨o, -, rfl⟩
      rfl
    rw [history, List.map_append]
    refine ⟨List.pairwise_append.2 ⟨?_, hsorted, ?_⟩, fun time htime => ?_⟩
    · refine List.pairwise_of_reflexive_of_forall_ne fun a ha b hb hne => ?_
      exact absurd ((hfirst a ha).trans (hfirst b hb).symm) hne
    · intro a ha b hb
      rw [hfirst a ha]
      exact hlater b hb
    · rcases List.mem_append.1 htime with hx | hrest
      · rw [hfirst time hx]
        exact Nat.le_add_right now wait
      · exact Nat.le_trans (Nat.le_add_right now wait) (hlater time hrest)

/-- A registry that knows one interface, of which only the index is given. -/
def knowing (index : UInt32) : Registry :=
  { Registry.start ⟨2437, 20, 20, 30⟩ with
    directory := ⟨⟨[{ Interface.blank with index }], []⟩⟩ }

end Registry

end NeighborAwareness
