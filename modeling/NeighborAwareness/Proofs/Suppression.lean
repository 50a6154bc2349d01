import NeighborAwareness.Proofs.SendRuns

/-!
# Suppressed sends

A session drops an operation exactly when a transmission of its own that succeeded began less than
100 milliseconds before, whatever it was asked for and however the link answered in the meantime.
Transmissions that failed do not count, and the discovery frame that goes with a beacon follows it
at once.

## Main definitions

* `Session.Remembers` : the time of the last success on the books is that of a transmission.

## Main results

* `Session.Remembers.isSuppressed_iff` : suppression in terms of transmissions.
* `Session.Remembers.step`, `Session.Remembers.run` : what one step and a run keep.
* `Session.suppressed_iff_recent_success` : which operations are dropped.
-/

namespace NeighborAwareness

namespace Session

variable {s : Session} {l after : Link} {sent more : List Transmission} {now : Nat}

/-- Among the transmissions `sent` up to `now`, none that succeeded began later than the time on the
books, and one of those that succeeded began at that time. -/
structure Remembers (s : Session) (sent : List Transmission) (now : Nat) : Prop where
  latest : ∀ t ∈ sent, t.succeeded = true → ∃ last, s.books.lastSent = some last ∧ t.began ≤ last
  genuine : ∀ last, s.books.lastSent = some last →
    last ≤ now ∧ ∃ t ∈ sent, t.succeeded = true ∧ t.began = last

namespace Remembers

/-- A send is suppressed when a transmission that succeeded began too short a time ago. -/
theorem isSuppressed_iff (h : s.Remembers sent now) (time : Nat) :
    s.isSuppressed time = true
      ↔ ∃ t ∈ sent, t.succeeded = true ∧ time < t.began + suppression := by
  have hpositive : 0 < suppression := by decide
  constructor
  · intro hsuppressed
    cases hlast : s.books.lastSent with
    | none => simp [isSuppressed, hlast] at hsuppressed
    | some last =>
      obtain ⟨-, t, ht, hsucceeded, rfl⟩ := h.genuine last hlast
      rw [isSuppressed, hlast] at hsuppressed
      have hrecent : time - t.began < suppression := of_decide_eq_true hsuppressed
      exact ⟨t, ht, hsucceeded, by omega⟩
  · rintro ⟨t, ht, hsucceeded, hrecent⟩
    obtain ⟨last, hlast, hle⟩ := h.latest t ht hsucceeded
    rw [isSuppressed, hlast]
    exact decide_eq_true (by omega)

theorem congr {other : Session} (h : s.Remembers sent now)
    (hbooks : other.books.lastSent = s.books.lastSent) : other.Remembers sent now :=
  ⟨by rw [hbooks]; exact h.latest, by rw [hbooks]; exact h.genuine⟩

theorem mono {later : Nat} (h : s.Remembers sent now) (hle : now ≤ later) :
    s.Remembers sent later :=
  ⟨h.latest, fun last hlast => ⟨Nat.le_trans (h.genuine last hlast).1 hle, (h.genuine last hlast).2⟩⟩

theorem learn (h : s.Remembers sent now) {t : Transmission} (hbegan : now ≤ t.began) :
    (s.learn t).Remembers (sent ++ [t]) t.began := by
  rw [Session.learn]
  cases houtcome : t.outcome with
  | ok sequence =>
    have hsucceeded : t.succeeded = true := by rw [Transmission.succeeded, houtcome]; rfl
    refine ⟨fun u hu hu' => ⟨t.began, rfl, ?_⟩, fun last hlast => ?_⟩
    · rcases List.mem_append.1 hu with hu | hu
      · -- The time on the books is past, so the new one is later than all before.
        obtain ⟨last, hlast, hle⟩ := h.latest u hu hu'
        have hnow := (h.genuine last hlast).1
        omega
      · exact Nat.le_of_eq (congrArg Transmission.began (List.mem_singleton.1 hu))
    · obtain rfl : t.began = last := Option.some.inj hlast
      exact ⟨Nat.le_refl _, t, List.mem_append_right _ List.mem_cons_self, hsucceeded, rfl⟩
  | error failure =>
    have hfailed : t.succeeded = false := by rw [Transmission.succeeded, houtcome]; rfl
    refine ⟨fun u hu hu' => ?_, fun last hlast => ?_⟩
    · rcases List.mem_append.1 hu with hu | hu
      · exact h.latest u hu hu'
      · rw [List.mem_singleton.1 hu, hfailed] at hu'
        contradiction
    · obtain ⟨hnow, u, hu, hu', hlast⟩ := h.genuine last hlast
      exact ⟨Nat.le_trans hnow hbegan, u, List.mem_append_left _ hu, hu', hlast⟩

theorem carries (h : s.Remembers sent l.clock) (hcarries : l.Carries more after) :
    (more.foldl Session.learn s).Remembers (sent ++ more) after.clock := by
  induction hcarries generalizing s sent with
  | done l notes =>
    rw [List.append_nil]
    exact h
  | @send l after more command attributes _ ih =>
    have hlearnt : (s.learn (l.transmission command attributes)).Remembers
        (sent ++ [l.transmission command attributes]) (l.send command attributes).2.clock := by
      rw [Link.clock_send]
      exact (h.learn (Nat.le_refl _)).mono (Nat.le_add_right ..)
    rw [List.append_cons]
    exact ih hlearnt

theorem perform (h : s.Remembers sent l.clock) (operation : Operation) :
    (operation.perform s l).2.1.Remembers
      (sent ++ l.transmissions (operation.perform s l).2.2) (operation.perform s l).2.2.clock := by
  obtain ⟨scratch, hcarries, hsession⟩ := operation.perform_carries s l
  exact (h.carries hcarries).congr (by rw [hsession])

/-- One step. -/
theorem step (h : s.Remembers sent l.clock) (x : Step) :
    (s.step l x).2.1.Remembers (sent ++ transmitted [(s.step l x).1]) (s.step l x).2.2.clock := by
  cases x with
  | send wait answers operation =>
    have hlater : s.Remembers sent (l.later wait answers).clock := by
      rw [Link.clock_later]
      exact h.mono (Nat.le_add_right ..)
    have hperform := hlater.perform operation
    rw [← List.append_nil ((l.later wait answers).transmissions _)] at hperform
    exact hperform
  | status wait =>
    rw [step_status]
    have hlater := h.mono (Nat.le_add_right l.clock wait)
    rw [← List.append_nil sent] at hlater
    rw [Link.clock_later]
    exact hlater.congr (by rw [books_status])

/-- A run. -/
theorem run (h : s.Remembers sent l.clock) (steps : List Step) :
    (s.run l steps).2.1.Remembers (sent ++ transmitted (s.run l steps).1)
      (s.run l steps).2.2.clock := by
  induction steps generalizing s l sent with
  | nil =>
    rw [← List.append_nil sent] at h
    exact h
  | cons x rest ih =>
    have hrest := ih (h.step x)
    rw [List.append_assoc, ← transmitted_append] at hrest
    exact hrest

theorem start (i : Interface) (settings : SendSettings) :
    (Session.start i settings).Remembers [] now :=
  ⟨fun _ ht => absurd ht List.not_mem_nil, fun _ hlast => by cases hlast⟩

end Remembers

/-! ### One operation -/

variable (s l) (operation : Operation)

/-- An operation succeeds without a call and without a trace in the session exactly when it is
suppressed. -/
theorem dropped_iff :
    ((operation.perform s l).1 = .ok () ∧ (operation.perform s l).2.2.calls = l.calls
        ∧ (operation.perform s l).2.1 = s) ↔ s.isSuppressed l.clock = true := by
  rcases operation.perform_cases s l with
    ⟨hsuppressed, hperform, -⟩ | ⟨hfree, failure, hperform, -⟩
      | ⟨hfree, frames, scratch, hplan, hcarries, hdispatched, -⟩
  · rw [hperform]
    exact ⟨fun _ => hsuppressed, fun _ => ⟨rfl, rfl, rfl⟩⟩
  · rw [hperform, hfree]
    exact ⟨fun h => (nomatch h.1), fun h => absurd h Bool.false_ne_true⟩
  · rw [hfree]
    refine ⟨fun h => ?_, fun h => absurd h Bool.false_ne_true⟩
    exact absurd (hcarries.eq_nil_of_calls_eq h.2.1)
      (hdispatched.ne_nil (operation.plan_ne_nil s hplan))

/-- Whatever an operation hands to the link, it was not suppressed, and begins no earlier than the
session looked. -/
theorem free_of_mem_transmissions {u : Transmission}
    (hu : u ∈ l.transmissions (operation.perform s l).2.2) :
    s.isSuppressed l.clock = false ∧ l.clock ≤ u.began := by
  rcases operation.perform_cases s l with
    ⟨-, -, hsent⟩ | ⟨-, failure, -, hsent⟩ | ⟨hfree, frames, scratch, -, hcarries, -, -⟩
  · rw [hsent] at hu
    exact absurd hu List.not_mem_nil
  · rw [hsent] at hu
    exact absurd hu List.not_mem_nil
  · exact ⟨hfree, (hcarries.began_le hu).1⟩

/-- An operation that is not suppressed hands something to the link or fails. -/
theorem transmissions_ne_nil_or_error (hfree : s.isSuppressed l.clock = false) :
    l.transmissions (operation.perform s l).2.2 ≠ []
      ∨ ∃ failure, (operation.perform s l).1 = .error failure := by
  rcases operation.perform_cases s l with
    ⟨hsuppressed, -, -⟩ | ⟨-, failure, hperform, -⟩
      | ⟨-, frames, scratch, hplan, -, hdispatched, -⟩
  · rw [hfree] at hsuppressed
    contradiction
  · exact .inr ⟨failure, by rw [hperform]⟩
  · exact .inl (hdispatched.ne_nil (operation.plan_ne_nil s hplan))

/-- A beacon that succeeds is followed by the discovery frame that goes with it. -/
theorem transmissions_beacon (sync : Bool) {t : Transmission}
    (ht : (l.transmissions ((Operation.beacon sync).perform s l).2.2).head? = some t)
    (hsucceeded : t.succeeded = true) :
    ∃ u, l.transmissions ((Operation.beacon sync).perform s l).2.2 = [t, u]
      ∧ u.call = .send .frame
        (s.request (Frame.discovery s.interface.address beaconPayload true) s.settings.frequency
          s.settings.discoveryDwell) := by
  rcases (Operation.beacon sync).perform_cases s l with
    ⟨-, -, hsent⟩ | ⟨-, failure, -, hsent⟩ | ⟨-, frames, scratch, hplan, -, hdispatched, -⟩
  · rw [hsent] at ht
    cases ht
  · rw [hsent] at ht
    cases ht
  · obtain rfl := Except.ok.inj hplan
    obtain ⟨t', -, ⟨hfailed, hsent⟩ | ⟨-, u, hu, hsent⟩⟩ := hdispatched.of_pair
    · rw [hsent] at ht
      obtain rfl := Option.some.inj ht
      rw [hfailed] at hsucceeded
      contradiction
    · rw [hsent] at ht ⊢
      obtain rfl := Option.some.inj ht
      exact ⟨u, rfl, hu⟩

/-! ### After a run -/

/-- After any run of a new session, an operation is dropped, which means that it succeeds while no
call is made and the session stays as it is, exactly when a transmission of the run that succeeded
began less than 100 milliseconds before. So what it hands to the link begins at least that long
after every transmission that succeeded before; transmissions that failed hold nothing up; and when
a beacon is transmitted, the discovery frame that goes with it follows. -/
theorem suppressed_iff_recent_success (i : Interface) (settings : SendSettings) (first : Link)
    (steps : List Step) (wait : Nat) (answers : List Answer) (operation : Operation) :
    let before := (Session.start i settings).run first steps
    let s := before.2.1
    let l := before.2.2.later wait answers
    let after := operation.perform s l
    let made := l.transmissions after.2.2
    (after.1 = .ok () ∧ after.2.2.calls = l.calls ∧ after.2.1 = s
        ↔ ∃ t ∈ transmitted before.1, t.succeeded = true ∧ l.clock < t.began + suppression)
      ∧ (∀ t ∈ transmitted before.1, t.succeeded = true → ∀ u ∈ made, t.began + suppression ≤ u.began)
      ∧ ((∀ t ∈ transmitted before.1, l.clock < t.began + suppression → t.succeeded = false) →
        made ≠ [] ∨ ∃ failure, after.1 = .error failure)
      ∧ ∀ sync, operation = .beacon sync → ∀ t, made.head? = some t → t.succeeded = true →
        ∃ u, made = [t, u] ∧ u.call = .send .frame
          (s.request (Frame.discovery s.interface.address beaconPayload true) s.settings.frequency
            s.settings.discoveryDwell) := by
  intro before s l after made
  have hremembers : s.Remembers (transmitted before.1) before.2.2.clock :=
    Remembers.run (Remembers.start i settings) steps
  have hiff := hremembers.isSuppressed_iff l.clock
  refine ⟨(s.dropped_iff l operation).trans hiff, ?_, ?_, ?_⟩
  · intro t ht hsucceeded u hu
    obtain ⟨hfree, hbegan⟩ := s.free_of_mem_transmissions l operation hu
    have hpast : ¬ l.clock < t.began + suppression := fun hrecent => by
      rw [hiff.2 ⟨t, ht, hsucceeded, hrecent⟩] at hfree
      contradiction
    omega
  · intro hfailed
    apply s.transmissions_ne_nil_or_error l operation
    rw [← Bool.not_eq_true, hiff]
    rintro ⟨t, ht, hsucceeded, hrecent⟩
    rw [hfailed t ht hrecent] at hsucceeded
    contradiction
  · rintro sync rfl t ht hsucceeded
    exact s.transmissions_beacon l sync ht hsucceeded

end Session

end NeighborAwareness
