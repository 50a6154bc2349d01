import NeighborAwareness.Proofs.FramesOnAir

/-!
# Pauses between sends

The pause after a send that succeeded is counted from when it began, so what the link took to accept
it is part of the pause. After a slow send the next one may follow at once. An operation comes too
early, if a full pause from the return of the last success is asked for, just when it is asked for
after a pause from the beginning of that success and before one from its return. When the link
accepts at once, these are the same.

## Main definitions

* `Session.Follows` : an operation was asked for after a success.
* `Session.KeepsPause` : every transmission begins a pause after the last success before its
  operation returned.

## Main results

* `Session.returned_le_run` : all transmissions of a run have returned when it is over.
* `Session.pause_of_follows` : which operations are put on the air after a success, and when.
* `Session.keepsPause_iff` : in which runs the pause is kept.
-/

namespace NeighborAwareness

namespace Session

variable {s : Session} {l : Link}

/-! ### Returns -/

theorem returned_le_step (s : Session) (l : Link) (x : Step) :
    l.clock ≤ (s.step l x).2.2.clock
      ∧ ∀ t ∈ transmitted [(s.step l x).1], t.returned ≤ (s.step l x).2.2.clock := by
  cases x with
  | send wait answers operation =>
    obtain ⟨_, hcarries, -⟩ := operation.perform_carries s (l.later wait answers)
    refine ⟨?_, fun t ht => (hcarries.began_le ?_).2⟩
    · have hlater := hcarries.clock_le
      rw [Link.clock_later] at hlater
      exact Nat.le_trans (Nat.le_add_right ..) hlater
    · rwa [show transmitted [(s.step l (.send wait answers operation)).1] = _ from
        List.append_nil _] at ht
  | status wait =>
    rw [step_status, Link.clock_later]
    exact ⟨Nat.le_add_right .., fun t ht => absurd ht List.not_mem_nil⟩

/-- The clock after a run is past the run. -/
theorem returned_le_run (s : Session) (l : Link) (steps : List Step) :
    l.clock ≤ (s.run l steps).2.2.clock
      ∧ ∀ t ∈ transmitted (s.run l steps).1, t.returned ≤ (s.run l steps).2.2.clock := by
  induction steps generalizing s l with
  | nil => exact ⟨Nat.le_refl _, fun t ht => absurd ht List.not_mem_nil⟩
  | cons x rest ih =>
    obtain ⟨hclock, hfirst⟩ := s.returned_le_step l x
    obtain ⟨hlater, hrest⟩ := ih (s.step l x).2.1 (s.step l x).2.2
    rw [run_cons, ← List.singleton_append, transmitted_append]
    refine ⟨Nat.le_trans hclock hlater, fun t ht => ?_⟩
    rcases List.mem_append.1 ht with ht | ht
    · exact Nat.le_trans (hfirst t ht) hlater
    · exact hrest t ht

/-! ### Pauses -/

/-- An operation on record was asked for when `t` was the last transmission that had succeeded. -/
def Follows (records : List Record) (t : Transmission) (x : Sending) : Prop :=
  ∃ front back, sendings records = front ++ x :: back
    ∧ lastSuccess (front.flatMap Sending.sent) = some t

/-- Every transmission begins a pause after the last success before its operation returned. -/
def KeepsPause (records : List Record) : Prop :=
  ∀ t x, Follows records t x → ∀ u ∈ x.sent, t.returned + suppression ≤ u.began

theorem mem_of_lastSuccess {sent : List Transmission} {t : Transmission}
    (h : lastSuccess sent = some t) : t ∈ sent ∧ t.succeeded = true :=
  List.mem_filter.1 (List.mem_of_getLast? h)

theorem isSuppressed_of_shows {t : Transmission} (h : s.books.Shows (some t)) (now : Nat) :
    s.isSuppressed now = true ↔ now < t.began + suppression := by
  rw [isSuppressed, h.1, decide_eq_true_iff]
  simp only [suppression]
  omega

theorem Operation.block_ne_nil (operation : Operation) (i : Interface) (settings : SendSettings)
    (wall : UInt64) (accepted : Bool) : operation.block i settings wall accepted ≠ [] := by
  cases operation <;> exact List.cons_ne_nil _ _

/-- Just the operations with a small payload that are not suppressed make a transmission. -/
theorem Operation.sent_ne_nil_iff (operation : Operation) (s : Session) (l : Link) :
    (operation.sending s l).sent ≠ []
      ↔ s.isSuppressed l.clock = false ∧ operation.payload.length ≤ Frame.maxPayload := by
  rcases operation.sending_cases s l with
    ⟨hsuppressed, hsent, -⟩ | ⟨-, hlarge, hsent, -⟩ | ⟨hfree, hfits, hblock, -⟩
  · simp [hsent, hsuppressed]
  · exact iff_of_false (fun h => h hsent) fun h => Nat.not_le.2 hlarge h.2
  · refine iff_of_true (fun hsent => ?_) ⟨hfree, hfits⟩
    rw [hsent] at hblock
    exact operation.block_ne_nil _ _ _ _ (List.forall₂_nil_right_iff.1 hblock)

theorem Operation.asked_le_began (operation : Operation) (s : Session) (l : Link) :
    (∀ u ∈ (operation.sending s l).sent, l.clock ≤ u.began)
      ∧ ∀ u, (operation.sending s l).sent.head? = some u → u.began = l.clock := by
  obtain ⟨_, hcarries, -⟩ := operation.perform_carries s l
  exact ⟨fun u hu => (hcarries.began_le hu).1, fun u hu => hcarries.began_of_head? hu⟩

/-- An operation that follows a success is asked for after that has returned. It makes a
transmission just if it is asked for a pause after the success began and its payload is small. -/
theorem pause_of_follows (i : Interface) (settings : SendSettings) (first : Link)
    (steps : List Step) {t : Transmission} {x : Sending}
    (h : Follows ((start i settings).run first steps).1 t x) :
    t.returned ≤ x.asked
      ∧ (x.sent ≠ [] ↔ t.began + suppression ≤ x.asked
        ∧ x.operation.payload.length ≤ Frame.maxPayload)
      ∧ (∀ u ∈ x.sent, x.asked ≤ u.began)
      ∧ ∀ u, x.sent.head? = some u → u.began = x.asked := by
  obtain ⟨front, back, hrecords, hlast⟩ := h
  obtain ⟨earlier, rest, wait, answers, operation, -, rfl, rfl⟩ :=
    exists_step_of_sendings (start i settings) first hrecords
  set before := (start i settings).run first earlier
  have hreturned : t.returned ≤ before.2.2.clock :=
    ((start i settings).returned_le_run first earlier).2 t (mem_of_lastSuccess hlast).1
  have hshows : before.2.1.books.Shows (some t) := by
    rw [← hlast]
    exact (Balanced.run (l := first) (Balanced.start i settings) earlier).latest
  obtain ⟨hbegan, hhead⟩ :=
    operation.asked_le_began before.2.1 (before.2.2.later wait answers)
  refine ⟨?_, ?_, hbegan, hhead⟩
  · exact Nat.le_trans hreturned (by
      rw [Operation.sending, Link.clock_later]
      exact Nat.le_add_right ..)
  · rw [operation.sent_ne_nil_iff, ← Bool.not_eq_true, isSuppressed_of_shows hshows, Nat.not_lt]
    rfl

/-- In a run of a new session the pause is kept just if no operation with a small payload is asked
for in between, when a pause has passed since the last success before it began, but not since that
returned. It is always kept from the beginning of the success, and no transmission begins before the
success has returned. When all that succeed return at once, it is kept. -/
theorem keepsPause_iff (i : Interface) (settings : SendSettings) (first : Link)
    (steps : List Step) :
    let records := ((start i settings).run first steps).1
    (KeepsPause records ↔ ∀ t x, Follows records t x →
        x.operation.payload.length ≤ Frame.maxPayload →
        x.asked < t.began + suppression ∨ t.returned + suppression ≤ x.asked)
      ∧ (∀ t x, Follows records t x → ∀ u ∈ x.sent,
        t.began + suppression ≤ u.began ∧ t.returned ≤ u.began)
      ∧ ((∀ t ∈ transmitted records, t.succeeded = true → t.took = 0) → KeepsPause records) := by
  intro records
  have hpause : ∀ t x, Follows records t x → ∀ u ∈ x.sent,
      t.began + suppression ≤ u.began ∧ t.returned ≤ u.began := by
    intro t x h u hu
    obtain ⟨hreturned, hsent, hbegan, -⟩ := pause_of_follows i settings first steps h
    have hfree := (hsent.1 (List.ne_nil_of_mem hu)).1
    have hasked := hbegan u hu
    omega
  refine ⟨⟨fun hkeeps t x h hfits => ?_, fun hasked t x h u hu => ?_⟩, hpause, ?_⟩
  · obtain ⟨-, hsent, -, hhead⟩ := pause_of_follows i settings first steps h
    refine or_iff_not_imp_left.2 fun hpast => ?_
    obtain ⟨u, more, hx⟩ := List.exists_cons_of_ne_nil (hsent.2 ⟨Nat.not_lt.1 hpast, hfits⟩)
    rw [← hhead u (by rw [hx, List.head?_cons])]
    exact hkeeps t x h u (by rw [hx]; exact List.mem_cons_self)
  · obtain ⟨-, hsent, hbegan, -⟩ := pause_of_follows i settings first steps h
    obtain ⟨hpast, hfits⟩ := hsent.1 (List.ne_nil_of_mem hu)
    have hlate : t.returned + suppression ≤ x.asked :=
      (hasked t x h hfits).resolve_left (Nat.not_lt.2 hpast)
    exact Nat.le_trans hlate (hbegan u hu)
  · intro hatonce t x h u hu
    obtain ⟨front, back, hrecords, hlast⟩ := id h
    obtain ⟨hmem, hsucceeded⟩ := mem_of_lastSuccess hlast
    have hreturned : t.returned = t.began := by
      rw [Transmission.returned, hatonce t ?_ hsucceeded, Nat.add_zero]
      rw [transmitted, hrecords, List.flatMap_append]
      exact List.mem_append_left _ hmem
    rw [hreturned]
    exact (hpause t x h u hu).1

/-- A frame is sent that the link takes 150 milliseconds to accept, and then another one. -/
def slowSteps : List Step :=
  [.send 0 [{ Answer.granted with took := 150000 }] (.raw [0xD0, 0x00] 2437 20),
    .send 0 [] (.raw [0xD0, 0x00] 2437 20)]

/-- It is not so that every transmission begins a pause after the last success returned. -/
theorem not_all_pauses_kept :
    ¬ ∀ (i : Interface) (settings : SendSettings) (first : Link) (steps : List Step),
      KeepsPause ((start i settings).run first steps).1 := by
  intro hall
  have hkeeps := hall .blank ⟨2437, 20, 20, 30⟩ (.start 0 []) slowSteps _ _
    ⟨[_], [], rfl, rfl⟩ _ List.mem_cons_self
  exact absurd hkeeps (by decide)

end Session

end NeighborAwareness
