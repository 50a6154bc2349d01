import NeighborAwareness.Proofs.FramesOnAir
import NeighborAwareness.Session.Beaconing

/-!
# When beacons are sent

Beacons are attempted one after the other. While the program does other things with the same
session, an attempt may begin late and may have to wait for what else is sent, and it may fail or be
suppressed. The next one is attempted all the same, after the one before is over, and at a distance
from the beginning of that which falls short of the period by five milliseconds at most.

A session suppresses sends for 100 milliseconds. So if nothing else is sent, sends return at once
and the period has at least 105 milliseconds, then no beacon is suppressed.

## Main definitions

* `BeaconAttempt.Precedes` : how far the next attempt is from one.
* `Link.Immediate` : a link that grants all calls at once.
* `Ticker.Calm` : nothing stands in the way of the next beacon.

## Main results

* `Ticker.exists_run_eq` : attempts while nothing else is sent.
* `Ticker.isChain_run` : the distances between attempts.
* `Ticker.Calm.attempt`, `Ticker.Calm.run` : what is sent when nothing stands in the way.
* `Ticker.beacons_keep_their_distance` : all of it for beacons that begin at some time.
-/

namespace NeighborAwareness

/-! ### Sends that return at once -/

/-- All calls are granted at once. -/
def Link.Immediate (l : Link) : Prop :=
  ∀ answer ∈ l.answers, answer.took = 0 ∧ answer.failure = none

namespace Link.Immediate

variable {l after : Link} {sent : List Transmission}

theorem headD_answers (h : l.Immediate) :
    (l.answers.headD .granted).took = 0 ∧ (l.answers.headD .granted).failure = none := by
  cases hanswers : l.answers with
  | nil => exact ⟨rfl, rfl⟩
  | cons answer answers => exact h answer (by rw [hanswers]; exact List.mem_cons_self)

theorem send (h : l.Immediate) (command : Command) (attributes : List Attribute) :
    (l.transmission command attributes).succeeded = true
      ∧ (l.send command attributes).2.clock = l.clock
      ∧ (l.send command attributes).2.Immediate := by
  obtain ⟨htook, hfailure⟩ := h.headD_answers
  simp only [Transmission.succeeded, transmission, Link.send, number, take, hfailure, htook,
    Immediate]
  exact ⟨rfl, rfl, fun answer ha => h answer (List.mem_of_mem_tail ha)⟩

theorem carries (h : l.Immediate) (hcarries : l.Carries sent after) :
    (∀ t ∈ sent, t.began = l.clock ∧ t.succeeded = true) ∧ after.Immediate := by
  induction hcarries with
  | done l notes => exact ⟨fun _ ht => absurd ht List.not_mem_nil, h⟩
  | send command attributes _ ih =>
    obtain ⟨hsucceeded, hclock, hrest⟩ := h.send command attributes
    obtain ⟨hsent, himmediate⟩ := ih hrest
    rw [hclock] at hsent
    exact ⟨List.forall_mem_cons.2 ⟨⟨rfl, hsucceeded⟩, hsent⟩, himmediate⟩

end Link.Immediate

namespace Session

variable {s : Session} {l : Link}

theorem lastSent_learn {t : Transmission} (h : t.succeeded = true) :
    (s.learn t).books.lastSent = some t.began := by
  rw [learn]
  cases houtcome : t.outcome with
  | ok sequence => rfl
  | error failure =>
    rw [Transmission.succeeded, houtcome] at h
    cases h

/-- Waiting and sending change neither the interface nor the settings. -/
theorem Continues.perform {first : Session} {start : Link} (h : Continues first start s l)
    (later : Link) (hepoch : later.epoch = l.epoch) (operation : Operation) :
    Continues first start (operation.perform s later).2.1 (operation.perform s later).2.2 := by
  obtain ⟨_, hcarries, -⟩ := operation.perform_carries s later
  exact ⟨(s.interface_perform later operation).trans h.interface_eq,
    (s.settings_perform later operation).trans h.settings_eq,
    (hcarries.epoch_eq.trans hepoch).trans h.epoch_eq⟩

/-- A beacon that is not suppressed is sent with the discovery frame that goes with it. -/
theorem sendBeacon_of_immediate (h : l.Immediate) (hfree : s.isSuppressed l.clock = false)
    (sync : Bool) :
    let after := s.sendBeacon l sync
    after.1 = .ok ()
      ∧ List.Forall₂ (Emission.Airs s.interface)
        ((Operation.beacon sync).block s.interface s.settings l.wallSeconds true)
        (l.transmissions after.2.2)
      ∧ after.2.1.books.lastSent = some l.clock ∧ after.2.2.Immediate := by
  intro after
  rcases (Operation.beacon sync).perform_cases s l with
    ⟨hsuppressed, -⟩ | ⟨-, failure, hperform, hsent⟩
      | ⟨-, frames, scratch, hplan, hcarries, hdispatched, hsession⟩
  · rw [hfree] at hsuppressed
    contradiction
  · have hrefused := s.check_of_perform_error l (.beacon sync) (congrArg Prod.fst hperform) hsent
    contradiction
  · obtain ⟨hsent, himmediate⟩ := h.carries hcarries
    have hblock := forall₂_block hplan hdispatched
    have hresult := hdispatched.error_iff
    obtain rfl := Except.ok.inj hplan
    obtain ⟨t, -, ⟨hfailed, hmade⟩ | ⟨hsucceeded, u, -, hmade⟩⟩ := hdispatched.of_pair
    · rw [hmade] at hsent
      rw [(hsent t List.mem_cons_self).2] at hfailed
      contradiction
    · rw [hmade] at hsent hblock hresult hsession
      obtain ⟨hbegan, hlast⟩ := hsent u (List.mem_cons_of_mem _ List.mem_cons_self)
      rw [List.head?_cons, Option.any_some, hsucceeded] at hblock
      have hok : ¬ ∃ failure, after.1 = .error failure := by
        rintro hfailed
        obtain ⟨v, hv, hfailed⟩ := hresult.1 hfailed
        obtain rfl : u = v := Option.some.inj hv
        rw [hlast] at hfailed
        contradiction
      refine ⟨?_, by rw [← hmade] at hblock; exact hblock, ?_, himmediate⟩
      · cases hafter : after.1 with
        | ok => rfl
        | error failure => exact absurd ⟨failure, hafter⟩ hok
      · rw [show after.2.1 = _ from hsession]
        exact (lastSent_learn hlast).trans (congrArg some hbegan)

end Session

/-- `x.Precedes period y` says that `y` may be the next attempt after `x`. It begins after `x` is
over, and a period after `x` began; up to five milliseconds may be missing from that, unless `x`
began later than this after its time. -/
structure BeaconAttempt.Precedes (period : Nat) (x y : BeaconAttempt) : Prop where
  finished : x.ended ≤ y.began
  apart : x.began + period ≤ y.began + Beaconing.lateness
  apart_of_late : x.due + Beaconing.lateness < x.began → x.began + period ≤ y.began

namespace Ticker

/-- Whether a beacon is attempted. -/
def Move.isTick : Move → Bool
  | tick _ => true
  | send .. | status _ => false

/-- Whether something else is sent. -/
def Move.isSend : Move → Bool
  | send .. => true
  | tick _ | status _ => false

variable (t : Ticker) (s : Session) (l : Link)

/-! ### Beacons and nothing else -/

/-- Beacons and nothing else are attempts none of which is late. They go on until the next one would
begin too late, whatever has become of those before. -/
theorem exists_run_eq (hfiring : t.firing 0 = max l.clock t.beaconing.due) (last : Nat) :
    ∃ count,
      let x := t.run s l (List.replicate count (.tick 0))
      t.beaconing.run s l last = x.2.2 ∧ (∀ a ∈ x.1, a.began ≤ last) ∧ last < x.2.1.firing 0 := by
  generalize hb : t.beaconing = b
  fun_induction Beaconing.run b s l last generalizing t with
  | case1 b s l hbegins x after session link hattempt later ih =>
    subst hb
    rw [← hfiring] at hattempt hbegins
    obtain ⟨rfl, hleft⟩ := Prod.mk.inj hattempt
    obtain ⟨rfl, hlinked⟩ := Prod.mk.inj hleft
    obtain ⟨rfl, rfl⟩ := Prod.mk.inj hlinked
    obtain ⟨count, hrun, hattempts, hlast⟩ := ih (t.attempt 0 s l).2.1 rfl rfl
    exact ⟨count + 1, hrun, List.forall_mem_cons.2 ⟨hbegins, hattempts⟩, hlast⟩
  | case2 b s l hbegins =>
    subst hb
    rw [← hfiring] at hbegins
    exact ⟨0, rfl, fun _ hx => absurd hx List.not_mem_nil, Nat.lt_of_not_le hbegins⟩

/-! ### Distances -/

variable {t s l}

/-- Beacons go on as the attempt `x` has left them. -/
structure Follows (t : Ticker) (x : BeaconAttempt) : Prop where
  freed : t.freed = some x.ended
  due : t.beaconing.due
    = (if x.due + Beaconing.lateness < x.began then x.began else x.due) + t.beaconing.period

theorem began_attempt (t : Ticker) (late : Nat) (s : Session) (l : Link) :
    (t.attempt late s l).1.began = t.firing late := rfl

theorem follows_attempt (t : Ticker) (late : Nat) (s : Session) (l : Link) :
    (t.attempt late s l).2.1.Follows (t.attempt late s l).1 :=
  ⟨rfl, rfl⟩

theorem Follows.precedes {x : BeaconAttempt} (h : t.Follows x) (late : Nat) (s : Session)
    (l : Link) : x.Precedes t.beaconing.period (t.attempt late s l).1 := by
  have hbegan : (t.attempt late s l).1.began = max x.ended t.beaconing.due + late := by
    rw [began_attempt, firing, h.freed]
  have hdue := h.due
  refine ⟨by omega, ?_, fun hlate => ?_⟩
  · split at hdue <;> omega
  · rw [if_pos hlate] at hdue
    omega

/-- The attempts in the course of some moves keep their distance, also from the one before them. -/
theorem Follows.isChain_run {x : BeaconAttempt} (h : t.Follows x) (s : Session) (l : Link)
    (moves : List Move) :
    (x :: (t.run s l moves).1).IsChain (BeaconAttempt.Precedes t.beaconing.period) := by
  induction moves generalizing t s l x with
  | nil => exact .singleton x
  | cons move moves ih =>
    cases move with
    | tick late =>
      have hrest := ih (t.follows_attempt late s l) (t.attempt late s l).2.2.1
        (t.attempt late s l).2.2.2
      exact List.isChain_cons_cons.2 ⟨h.precedes late s l, hrest⟩
    | send wait operation => exact ih h _ _
    | status arrived => exact ih h _ _

theorem isChain_run (t : Ticker) (s : Session) (l : Link) (moves : List Move) :
    (t.run s l moves).1.IsChain (BeaconAttempt.Precedes t.beaconing.period) := by
  induction moves generalizing t s l with
  | nil => exact .nil
  | cons move moves ih =>
    cases move with
    | tick late =>
      exact (t.follows_attempt late s l).isChain_run (t.attempt late s l).2.2.1
        (t.attempt late s l).2.2.2 moves
    | send wait operation => exact ih _ _ _
    | status arrived => exact ih _ _ _

theorem length_run (t : Ticker) (s : Session) (l : Link) (moves : List Move) :
    (t.run s l moves).1.length = moves.countP Move.isTick := by
  induction moves generalizing t s l with
  | nil => rfl
  | cons move moves ih =>
    cases move with
    | tick late =>
      rw [List.countP_cons_of_pos rfl, ← ih]
      rfl
    | send wait operation =>
      rw [List.countP_cons_of_neg Bool.false_ne_true]
      exact ih _ _ _
    | status arrived =>
      rw [List.countP_cons_of_neg Bool.false_ne_true]
      exact ih _ _ _

theorem began_of_head?_run (hfirst : t.freed = none) {moves : List Move} {x : BeaconAttempt}
    (hx : (t.run s l moves).1.head? = some x) :
    x.due = t.beaconing.due ∧ x.began = t.beaconing.due := by
  induction moves generalizing s l with
  | nil => cases hx
  | cons move moves ih =>
    cases move with
    | tick late =>
      obtain rfl : (t.attempt late s l).1 = x := Option.some.inj hx
      refine ⟨rfl, ?_⟩
      rw [began_attempt, firing, hfirst]
    | send wait operation => exact ih hx
    | status arrived => exact ih hx

/-! ### When nothing stands in the way -/

/-- Nothing stands in the way of the next beacon of `first`, which has been sending beacons since
the link was `start`: the session is free whenever it comes, and does not suppress it. -/
structure Calm (first : Session) (start : Link) (t : Ticker) (s : Session) (l : Link) : Prop where
  continues : Session.Continues first start s l
  immediate : l.Immediate
  idle : ∀ late, l.clock ≤ t.firing late
  free : ∀ late, s.isSuppressed (t.firing late) = false

namespace Calm

variable {first : Session} {start : Link}

/-- A beacon and its discovery frame are sent, and then nothing stands in the way of the next
one. -/
theorem attempt (h : t.Calm first start s l)
    (hperiod : Session.suppression + Beaconing.lateness ≤ t.beaconing.period) (late : Nat) :
    let x := t.attempt late s l
    x.1.result = .ok ()
      ∧ List.Forall₂ (Emission.Airs first.interface)
        ((Session.Operation.beacon t.beaconing.sync).block first.interface first.settings
          (start.wallSecondsAt x.1.began) true) x.1.sent
      ∧ x.2.1.Calm first start x.2.2.1 x.2.2.2 := by
  intro x
  let ready := l.waitUntil (t.firing late)
  have hclock : ready.clock = t.firing late := Nat.max_eq_right (h.idle late)
  have hwall : ready.wallSeconds = start.wallSecondsAt (t.firing late) :=
    hclock ▸ Link.wallSeconds_eq_at h.continues.epoch_eq
  have hcontinues := h.continues.perform ready rfl (.beacon t.beaconing.sync)
  have hbeacon := Session.sendBeacon_of_immediate (l := ready) h.immediate
    (hclock.symm ▸ h.free late) t.beaconing.sync
  rw [Session.Operation.perform] at hcontinues
  rw [h.continues.interface_eq, h.continues.settings_eq, hwall, hclock] at hbeacon
  -- The next attempt keeps its distance, which is all that it takes.
  have hnext (late' : Nat) : x.1.Precedes t.beaconing.period (x.2.1.attempt late' s l).1 :=
    (t.follows_attempt late s l).precedes late' s l
  rcases hsend : s.sendBeacon ready t.beaconing.sync with ⟨result, after, left⟩
  rw [hsend] at hbeacon hcontinues
  obtain ⟨rfl, hblock, hlast, himmediate⟩ := hbeacon
  have hx : x = (⟨t.beaconing.due, t.firing late, left.clock, .ok (), ready.transmissions left⟩,
      ⟨t.beaconing.next (t.firing late), some left.clock⟩, after, left) := by
    simp only [x, Ticker.attempt, Beaconing.attempt, ready, hsend]
  rw [hx] at hnext ⊢
  refine ⟨rfl, hblock, hcontinues, himmediate, fun late' => (hnext late').finished, fun late' => ?_⟩
  have hapart := (hnext late').apart
  rw [Session.isSuppressed, hlast]
  rw [began_attempt] at hapart
  dsimp only at hapart ⊢
  exact decide_eq_false (by omega)

theorem status (h : t.Calm first start s l) (arrived : Nat) :
    t.Calm first start (s.status arrived).1 l where
  continues :=
    ⟨(s.interface_status arrived).trans h.continues.interface_eq,
      (s.settings_status arrived).trans h.continues.settings_eq, h.continues.epoch_eq⟩
  immediate := h.immediate
  idle := h.idle
  free late := by
    rw [Session.isSuppressed, s.books_status]
    exact h.free late

/-- While nothing else is sent, every attempt sends a beacon and its discovery frame. -/
theorem run (h : t.Calm first start s l)
    (hperiod : Session.suppression + Beaconing.lateness ≤ t.beaconing.period) {moves : List Move}
    (hmoves : ∀ move ∈ moves, move.isSend = false) {x : BeaconAttempt}
    (hx : x ∈ (t.run s l moves).1) :
    x.result = .ok ()
      ∧ List.Forall₂ (Emission.Airs first.interface)
        ((Session.Operation.beacon t.beaconing.sync).block first.interface first.settings
          (start.wallSecondsAt x.began) true) x.sent := by
  induction moves generalizing t s l with
  | nil => exact absurd hx List.not_mem_nil
  | cons move moves ih =>
    have hrest := fun move hmove => hmoves move (List.mem_cons_of_mem _ hmove)
    cases move with
    | tick late =>
      obtain ⟨hresult, hsent, hcalm⟩ := h.attempt hperiod late
      rcases List.mem_cons.1 hx with rfl | hx
      · exact ⟨hresult, hsent⟩
      · have hlater := ih hcalm hperiod hrest hx
        exact hlater
    | send wait operation => cases hmoves _ List.mem_cons_self
    | status arrived => exact ih (h.status arrived) hperiod hrest hx

end Calm

/-! ### Beacons from some time on -/

/-- Whatever else is sent, and whatever becomes of the attempts, beacons with a period other than
zero keep their distance. Every tick makes an attempt. The first begins at the start, and each other
when the one before is over, and five milliseconds less than a period after it began, or a period
after it began if that was later than this after its time. If nothing else is sent, all sends
succeed at once, nothing was sent just before and the period has at least 105 milliseconds, then
each attempt sends a beacon and then a discovery frame. Left alone, attempts go on until the next
one would begin too late. -/
theorem beacons_keep_their_distance (period : Nat) (sync : Bool) (now : Nat) (s : Session)
    (l : Link) (hperiod : 0 < period) :
    ∃ b, Beaconing.start? period sync now = some b
      ∧ (∀ moves : List Move,
        let attempts := (run ⟨b, none⟩ s l moves).1
        attempts.length = moves.countP Move.isTick
          ∧ (∀ x, attempts.head? = some x → x.due = now ∧ x.began = now)
          ∧ attempts.IsChain (BeaconAttempt.Precedes period)
          ∧ (105000 ≤ period → (∀ move ∈ moves, move.isSend = false) → l.Immediate →
            l.clock ≤ now → s.isSuppressed now = false →
            ∀ x ∈ attempts, x.result = .ok () ∧ List.Forall₂ (Emission.Airs s.interface)
              [⟨Frame.beacon s.interface.address sync (l.wallSecondsAt x.began),
                  s.settings.frequency, s.settings.beaconDwell⟩,
                ⟨Frame.discovery s.interface.address [0x01] true, s.settings.frequency,
                  s.settings.discoveryDwell⟩] x.sent))
      ∧ (l.clock ≤ now → ∀ last, ∃ count,
        let x := run ⟨b, none⟩ s l (List.replicate count (.tick 0))
        b.run s l last = x.2.2 ∧ (∀ a ∈ x.1, a.began ≤ last) ∧ last < x.2.1.firing 0) := by
  let t : Ticker := ⟨⟨period, sync, now, hperiod⟩, none⟩
  refine ⟨t.beaconing, dif_pos hperiod, fun moves => ?_, fun hclock last => ?_⟩
  · intro attempts
    refine ⟨t.length_run s l moves, fun x hx => began_of_head?_run rfl hx, t.isChain_run s l moves,
      fun hlong hmoves himmediate hclock hfree x hx => ?_⟩
    have hcalm : t.Calm s l s l :=
      ⟨⟨rfl, rfl, rfl⟩, himmediate, fun _ => hclock, fun _ => hfree⟩
    exact hcalm.run hlong hmoves hx
  · exact t.exists_run_eq s l (Nat.max_eq_right hclock).symm last

/-- Beacons of which the second is just not too late, with a transmit status in between. -/
def lateTicks : List Move :=
  [.tick 0, .status 100, .tick 5000, .tick 0]

/-- With a period of 105 milliseconds, three beacons are sent. -/
theorem beacons_keep_their_distance_lateTicks :
    (0 < 105000 ∧ (∀ move ∈ lateTicks, move.isSend = false) ∧ (Link.start 0 []).Immediate
        ∧ (Link.start 0 []).clock ≤ 0 ∧ Session.blankSession.isSuppressed 0 = false)
      ∧ ∃ b, Beaconing.start? 105000 true 0 = some b
        ∧ let attempts := (run ⟨b, none⟩ Session.blankSession (.start 0 []) lateTicks).1
          attempts.map BeaconAttempt.began = [0, 110000, 210000]
            ∧ attempts.IsChain (BeaconAttempt.Precedes 105000)
            ∧ (∀ x ∈ attempts, x.result = .ok () ∧ x.sent.length = 2)
            ∧ ∃ count, b.run Session.blankSession (.start 0 []) 300000
              = (run ⟨b, none⟩ Session.blankSession (.start 0 [])
                (List.replicate count (.tick 0))).2.2 := by
  have himmediate : (Link.start 0 []).Immediate := fun _ ha => absurd ha List.not_mem_nil
  have hmoves : ∀ move ∈ lateTicks, move.isSend = false := by decide
  refine ⟨⟨by decide, hmoves, himmediate, Nat.le_refl _, rfl⟩, ?_⟩
  obtain ⟨b, hb, hattempts, hrun⟩ :=
    beacons_keep_their_distance 105000 true 0 Session.blankSession (.start 0 []) (by decide)
  obtain ⟨-, -, hchain, hsent⟩ := hattempts lateTicks
  obtain ⟨count, hcount, -⟩ := hrun (Nat.le_refl _) 300000
  have hall := hsent (Nat.le_refl _) hmoves himmediate (Nat.le_refl _) rfl
  refine ⟨b, hb, ?_, hchain, fun x hx => ⟨(hall x hx).1, (hall x hx).2.length_eq.symm⟩, count,
    hcount⟩
  obtain rfl := Option.some.inj hb
  decide +kernel

end Ticker

end NeighborAwareness
