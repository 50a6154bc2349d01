import Mathlib.Data.List.DropRight
import NeighborAwareness.Proofs.StatusAttribution

/-!
# The books of a session

Over any run the books of a session say how many of its transmissions failed, and what they say
about the last one is said of one and the same transmission, the last that succeeded. The session
waits for a status when a transmission has succeeded since the last status came. A transmission that
fails is counted and leaves no other trace, and an operation whose payload is too large leaves none
at all.

## Main definitions

* `Session.lastSuccess` : the last transmission that succeeded.
* `Session.unreported` : the transmissions since the last status.
* `SendBooks.Shows` : what the books say about the last transmission that succeeded.
* `Session.Balanced` : books and transmissions agree.

## Main results

* `Session.Balanced.step`, `Session.Balanced.run` : what one step and a run keep.
* `Session.failed_last_of_perform` : what is left of a transmission that failed.
* `Session.perform_of_check_error` : what is left of an operation whose payload is too large.
* `Session.books_balance` : all of it after any run.
-/

namespace NeighborAwareness

/-- What the books say when `last` is the last transmission that succeeded. -/
def SendBooks.Shows (b : SendBooks) : Option Transmission → Prop
  | none => b.lastSent = none ∧ b.lastSubmit = none ∧ b.lastSequence = none
  | some t => b.lastSent = some t.began ∧ b.lastSubmit = some t.took
      ∧ ∃ sequence, t.outcome = .ok sequence ∧ b.lastSequence = some sequence

namespace Session

/-- Whether an operation was asked for. -/
def Record.isSending : Record → Bool
  | sending _ => true
  | status .. => false

/-- The last transmission that succeeded. -/
def lastSuccess (sent : List Transmission) : Option Transmission :=
  (sent.filter Transmission.succeeded).getLast?

/-- The transmissions since the last status. -/
def unreported (records : List Record) : List Transmission :=
  transmitted (records.rtakeWhile Record.isSending)

/-- Books and transmissions agree: so many have failed, the last success is that on the books, and
the session waits for a status if one has succeeded since the last status. -/
structure Balanced (s : Session) (records : List Record) : Prop where
  failures : s.books.failures = (transmitted records).countP fun t => !t.succeeded
  latest : s.books.Shows (lastSuccess (transmitted records))
  awaiting : s.awaiting = (unreported records).any Transmission.succeeded

/-- A session after a transmission that failed. -/
def failed (s : Session) : Session :=
  { s with books := { s.books with failures := s.books.failures + 1 } }

/-- Whether the payload of an operation is not too large. -/
def Operation.check : Operation → Except Failure Unit
  | raw .. => .ok ()
  | beacon _ => .ok ()
  | discovery payload _ _ => Frame.checkPayload payload Frame.discoveryFixed
  | followUp _ _ _ payload => Frame.checkPayload payload Frame.followUpFixed

variable {s : Session} {l : Link} {records : List Record} {sent : List Transmission}

/-! ### One transmission -/

theorem learn_of_failed {t : Transmission} (h : t.succeeded = false) : s.learn t = s.failed := by
  rw [learn]
  cases houtcome : t.outcome with
  | ok sequence => rw [Transmission.succeeded, houtcome] at h; cases h
  | error failure => rfl

theorem lastSuccess_concat (sent : List Transmission) (t : Transmission) :
    lastSuccess (sent ++ [t]) = if t.succeeded then some t else lastSuccess sent := by
  rw [lastSuccess, List.filter_append]
  cases h : t.succeeded with
  | true => simp [h]
  | false => simp [h, lastSuccess]

theorem shows_learn (h : s.books.Shows (lastSuccess sent)) (t : Transmission) :
    (s.learn t).books.Shows (lastSuccess (sent ++ [t])) := by
  rw [lastSuccess_concat]
  cases hsucceeded : t.succeeded with
  | false =>
    rw [learn_of_failed hsucceeded]
    exact h
  | true =>
    rw [Transmission.succeeded] at hsucceeded
    rw [learn]
    cases houtcome : t.outcome with
    | ok sequence => exact ⟨rfl, rfl, sequence, houtcome, rfl⟩
    | error failure => rw [houtcome] at hsucceeded; cases hsucceeded

theorem failures_learn (t : Transmission) :
    (s.learn t).books.failures = s.books.failures + [t].countP fun t => !t.succeeded := by
  cases hsucceeded : t.succeeded with
  | false => simp [learn_of_failed hsucceeded, failed, hsucceeded]
  | true =>
    rw [learn]
    cases houtcome : t.outcome with
    | ok sequence => simp [hsucceeded]
    | error failure => rw [Transmission.succeeded, houtcome] at hsucceeded; cases hsucceeded

theorem failures_foldl_learn (more : List Transmission) :
    (more.foldl learn s).books.failures
      = s.books.failures + more.countP fun t => !t.succeeded := by
  induction more generalizing s with
  | nil => rfl
  | cons t more ih =>
    rw [List.foldl_cons, ih, failures_learn, Nat.add_assoc, ← List.countP_append,
      List.singleton_append]

theorem shows_foldl_learn (h : s.books.Shows (lastSuccess sent)) (more : List Transmission) :
    (more.foldl learn s).books.Shows (lastSuccess (sent ++ more)) := by
  induction more generalizing s sent with
  | nil =>
    rw [List.append_nil]
    exact h
  | cons t more ih =>
    rw [List.foldl_cons, List.append_cons]
    exact ih (shows_learn h t)

/-! ### A run -/

namespace Balanced

theorem perform (h : s.Balanced records) (asked : Nat) (operation : Operation) :
    (operation.perform s l).2.1.Balanced (records ++ [.sending
      ⟨asked, operation, (operation.perform s l).1,
        l.transmissions (operation.perform s l).2.2⟩]) := by
  set made := l.transmissions (operation.perform s l).2.2 with hmade
  obtain ⟨scratch, -, hsession⟩ := operation.perform_carries s l
  have htransmitted : transmitted (records
      ++ [.sending ⟨asked, operation, (operation.perform s l).1, made⟩])
        = transmitted records ++ made := by
    rw [transmitted_append]
    exact congrArg _ (List.append_nil made)
  refine ⟨?_, ?_, ?_⟩
  · rw [hsession, htransmitted, List.countP_append, ← h.failures]
    exact failures_foldl_learn made
  · rw [hsession, htransmitted]
    exact shows_foldl_learn h.latest made
  · rw [awaiting_perform, h.awaiting, unreported, unreported, List.rtakeWhile_concat_pos _ _ _ rfl,
      transmitted_append, List.any_append]
    exact congrArg (fun more => (_ || List.any more _)) (List.append_nil made).symm

theorem status (h : s.Balanced records) (now arrived : Nat) (fate : StatusFate) :
    (s.status now).1.Balanced (records ++ [.status arrived fate]) := by
  have htransmitted : transmitted (records ++ [.status arrived fate]) = transmitted records := by
    rw [transmitted_append]
    exact List.append_nil _
  refine ⟨?_, ?_, ?_⟩
  · rw [books_status, htransmitted, h.failures]
  · rw [books_status, htransmitted]
    exact h.latest
  · rw [(s.isMatched_status now).2, unreported, List.rtakeWhile_concat_neg _ _ _ Bool.false_ne_true]
    rfl

/-- One step. -/
theorem step (h : s.Balanced records) (x : Step) :
    (s.step l x).2.1.Balanced (records ++ [(s.step l x).1]) := by
  cases x with
  | send wait answers operation => exact h.perform _ operation
  | status wait =>
    rw [step_status]
    exact h.status _ _ _

/-- A run. -/
theorem run (h : s.Balanced records) (steps : List Step) :
    (s.run l steps).2.1.Balanced (records ++ (s.run l steps).1) := by
  induction steps generalizing s l records with
  | nil =>
    rw [Session.run, List.append_nil]
    exact h
  | cons x rest ih =>
    rw [run_cons, List.append_cons]
    exact ih (h.step x)

theorem start (i : Interface) (settings : SendSettings) : (Session.start i settings).Balanced [] :=
  ⟨rfl, ⟨rfl, rfl, rfl⟩, rfl⟩

end Balanced

/-! ### Failures -/

theorem Dispatched.eq_nil_of_failed {ask : Dispatch → Call} {frames : List Dispatch}
    {result : Except Failure Unit} (h : Dispatched ask frames sent result)
    {front back : List Transmission} {t : Transmission} (hsent : sent = front ++ t :: back)
    (hfailed : t.succeeded = false) : back = [] := by
  induction h generalizing front with
  | done => simp at hsent
  | failed =>
    cases front with
    | nil => exact (List.cons.inj hsent).2.symm
    | cons u front => simp at hsent
  | sent _ hsucceeded _ ih =>
    cases front with
    | nil =>
      rw [(List.cons.inj hsent).1, hfailed] at hsucceeded
      cases hsucceeded
    | cons u front => exact ih (List.cons.inj hsent).2

variable (s l) (operation : Operation)

/-- A transmission that failed is the last one of its operation, and all that is left of it, apart
from the frame in the scratch memory, is that it is counted. -/
theorem failed_last_of_perform {front back : List Transmission} {t : Transmission}
    (hmade : l.transmissions (operation.perform s l).2.2 = front ++ t :: back)
    (hfailed : t.succeeded = false) :
    back = [] ∧ ∃ scratch,
      (operation.perform s l).2.1 = { (front.foldl learn s).failed with scratch } := by
  rcases operation.perform_cases s l with
    ⟨-, -, hnone⟩ | ⟨-, failure, -, hnone⟩ | ⟨-, frames, scratch, -, -, hdispatched, hsession⟩
  · simp [hnone] at hmade
  · simp [hnone] at hmade
  · obtain rfl := hdispatched.eq_nil_of_failed hmade hfailed
    refine ⟨rfl, scratch, ?_⟩
    rw [hsession, hmade, List.foldl_append, List.foldl_cons, List.foldl_nil,
      learn_of_failed hfailed]

theorem Operation.plan_eq_error_iff (wall : UInt64) (failure : Failure) :
    operation.plan s wall = .error failure ↔ operation.check = .error failure := by
  cases operation with
  | raw => simp [plan, check]
  | beacon => simp [plan, check]
  | discovery payload publish dwell =>
    rw [plan, check]
    cases Frame.checkPayload payload Frame.discoveryFixed <;> simp
  | followUp receiver requestor frequency payload =>
    rw [plan, check]
    cases Frame.checkPayload payload Frame.followUpFixed <;> simp

/-- An operation whose payload is too large makes no call and leaves no trace in the session. It
fails, unless it is suppressed. -/
theorem perform_of_check_error {failure : Failure} (h : operation.check = .error failure) :
    (operation.perform s l).1 = (if s.isSuppressed l.clock then .ok () else .error failure)
      ∧ (operation.perform s l).2.2.calls = l.calls ∧ (operation.perform s l).2.1 = s := by
  rw [operation.perform_eq, (operation.plan_eq_error_iff s l.wallSeconds failure).2 h]
  cases s.isSuppressed l.clock <;> exact ⟨rfl, rfl, rfl⟩

theorem check_of_perform_error {failure : Failure} (h : (operation.perform s l).1 = .error failure)
    (hmade : l.transmissions (operation.perform s l).2.2 = []) :
    operation.check = .error failure := by
  rw [← operation.plan_eq_error_iff s l.wallSeconds]
  rw [operation.perform_eq] at h hmade
  cases hsuppressed : s.isSuppressed l.clock with
  | true =>
    rw [hsuppressed] at h
    cases h
  | false =>
    rw [hsuppressed, if_neg Bool.false_ne_true] at h hmade
    cases hplan : operation.plan s l.wallSeconds with
    | error other =>
      rw [hplan] at h
      exact congrArg _ (Except.error.inj h)
    | ok frames =>
      -- A plan has frames, the first of which would have been a call.
      rw [hplan] at hmade
      obtain ⟨sent, -, hcarries, hdispatched, -⟩ := s.dispatchAll_carries l frames
      exact absurd (hcarries.transmissions_eq.symm.trans hmade)
        (hdispatched.ne_nil (operation.plan_ne_nil s hplan))

/-- The books balance after any run: so many transmissions have failed, the last that succeeded is
the one on the books, and the next status finds a send just if a transmission has succeeded since
the last status. Whatever operation comes next, a transmission of it that fails is the last and is
counted, and if the payload is too large, then nothing is transmitted and nothing changes. -/
theorem books_balance (i : Interface) (settings : SendSettings) (first : Link) (steps : List Step) :
    let before := (Session.start i settings).run first steps
    let s := before.2.1
    let sent := transmitted before.1
    (s.books.failures = sent.countP fun t => !t.succeeded)
      ∧ s.books.Shows (lastSuccess sent)
      ∧ (∀ now, (s.status now).2.isMatched = true
        ↔ ∃ t ∈ unreported before.1, t.succeeded = true)
      ∧ ∀ (wait : Nat) (answers : List Answer) (operation : Operation),
        let l := before.2.2.later wait answers
        let after := operation.perform s l
        let made := l.transmissions after.2.2
        (∀ front t back, made = front ++ t :: back → t.succeeded = false →
          back = [] ∧ ∃ scratch, after.2.1 = { (front.foldl learn s).failed with scratch })
          ∧ ∀ failure,
            (operation.check = .error failure →
              after.1 = (if s.isSuppressed l.clock then .ok () else .error failure)
                ∧ after.2.2.calls = l.calls ∧ after.2.1 = s)
            ∧ (after.1 = .error failure → made = [] → operation.check = .error failure) := by
  intro before s sent
  have hbalanced : s.Balanced before.1 := Balanced.run (Balanced.start i settings) steps
  refine ⟨hbalanced.failures, hbalanced.latest, fun now => ?_, fun wait answers operation => ?_⟩
  · rw [(s.isMatched_status now).1, hbalanced.awaiting, List.any_eq_true]
  · exact ⟨fun _ _ _ hmade hfailed => s.failed_last_of_perform _ operation hmade hfailed,
      fun _ => ⟨fun h => s.perform_of_check_error _ operation h,
        fun h hmade => s.check_of_perform_error _ operation h hmade⟩⟩

end Session

end NeighborAwareness
