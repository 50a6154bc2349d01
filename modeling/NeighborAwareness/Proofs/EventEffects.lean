import Mathlib.Data.List.Induction
import NeighborAwareness.Proofs.ExcursionRuns
import NeighborAwareness.Proofs.SharedRegistry

/-!
# What events touch

An event is about one thing. A transmit status is about the session of its interface and takes the
mark from it that a send waits for a status; the start and the end of an excursion are about the
record of excursions; no other event changes anything. So a status may be handled earlier or later
than other events, and the registry is the same in the end.

## Main definitions

* `Session.settled` : a session that waits for no status.
* `Event.IsAbout` : the interface that an event is about.
* `Registry.ConfinedTo` : a change that keeps to what an event is about.
* `Registry.hearAll` : events one after the other.

## Main results

* `Registry.confinedTo_handleEvent` : what an event changes.
* `Registry.handleEvent_status_comm` : a status and any other event, in either order.
* `Registry.hearAll_eq` : in a run, statuses and all other events do not interfere.
* `Registry.events_touch_only_their_subject` : all of this together.
-/

namespace NeighborAwareness

namespace Session

/-- The session when no send waits for a status. -/
def settled (s : Session) : Session :=
  { s with awaiting := false }

theorem status_eq_settled (s : Session) (now : Nat) : (s.status now).1 = s.settled := by
  obtain ⟨interface, settings, books, awaiting, scratch⟩ := s
  cases awaiting <;> rfl

end Session

namespace Event

variable (e : Event)

/-- The first interface index among the attributes of an event is `index`. -/
def IsAbout (index : UInt32) : Prop :=
  ∃ front back, e.attributes = front ++ .ifindex index :: back ∧ ∀ a ∈ front, a.ifindex? = none

theorem isAbout_iff {index : UInt32} : e.IsAbout index ↔ e.ifindex? = some index := by
  rw [ifindex?, List.findSome?_eq_some_iff]
  constructor
  · rintro ⟨front, back, hattributes, hfront⟩
    exact ⟨front, .ifindex index, back, hattributes, rfl, hfront⟩
  · rintro ⟨front, a, back, hattributes, ha, hfront⟩
    obtain rfl : a = .ifindex index := by
      cases a with
      | ifindex other => exact congrArg Attribute.ifindex (Option.some.inj ha)
      | _ => cases ha
    exact ⟨front, back, hattributes, hfront⟩

/-- Whether an event is a transmit status. -/
def isStatus : Bool :=
  e.command = .frameStatus

end Event

namespace Registry

variable (r : Registry) (now : Nat) (e : Event)

/-! ### Statuses -/

/-- The registry when the session of an interface, if there is one, waits for no status. -/
def settle (index : UInt32) : Registry :=
  match r.lookup index with
  | some s => r.update index s.settled
  | none => r

/-- The registry after a transmit status. -/
def settleFor (e : Event) : Registry :=
  match e.ifindex? with
  | some index => r.settle index
  | none => r

/-- The registry with another record of excursions. -/
def withExcursion (r : Registry) (excursion : ExcursionTracker) : Registry :=
  { r with excursion }

theorem settle_of_lookup_eq_some {r : Registry} {index : UInt32} {s : Session}
    (h : r.lookup index = some s) : r.settle index = r.update index s.settled := by
  rw [settle, h]

theorem settle_of_lookup_eq_none {r : Registry} {index : UInt32} (h : r.lookup index = none) :
    r.settle index = r := by
  rw [settle, h]

theorem lookup_settle (index other : UInt32) :
    (r.settle index).lookup other
      = if other = index then (r.lookup other).map Session.settled else r.lookup other := by
  cases hlookup : r.lookup index with
  | none =>
    rw [settle_of_lookup_eq_none hlookup]
    split
    · next hother => rw [hother, hlookup, Option.map_none]
    · rfl
  | some s =>
    rw [settle_of_lookup_eq_some hlookup]
    split
    · next hother =>
      rw [hother, hlookup]
      exact Keyed.get?_alter_const index s.settled r.sessions
    · next hother => exact Keyed.get?_alter_of_ne _ r.sessions hother

theorem settle_comm (index other : UInt32) :
    (r.settle index).settle other = (r.settle other).settle index := by
  by_cases h : index = other
  · rw [h]
  -- Settling one session does not change what is found of the other.
  have hother := r.lookup_settle index other
  have hindex := r.lookup_settle other index
  rw [if_neg (Ne.symm h)] at hother
  rw [if_neg h] at hindex
  cases hi : r.lookup index with
  | none => rw [settle_of_lookup_eq_none hi, settle_of_lookup_eq_none (hindex.trans hi)]
  | some s =>
    cases ho : r.lookup other with
    | none => rw [settle_of_lookup_eq_none (hother.trans ho), settle_of_lookup_eq_none ho]
    | some t =>
      rw [settle_of_lookup_eq_some (hother.trans ho), settle_of_lookup_eq_some (hindex.trans hi),
        settle_of_lookup_eq_some hi, settle_of_lookup_eq_some ho]
      exact congrArg (fun sessions => { r with sessions })
        (Keyed.alter_const_comm h s.settled t.settled r.sessions)

theorem settleFor_comm (e f : Event) :
    (r.settleFor e).settleFor f = (r.settleFor f).settleFor e := by
  simp only [settleFor]
  cases e.ifindex? with
  | none => rfl
  | some index =>
    cases f.ifindex? with
    | none => rfl
    | some other => exact r.settle_comm index other

theorem settleFor_withExcursion (excursion : ExcursionTracker) :
    (r.withExcursion excursion).settleFor e = (r.settleFor e).withExcursion excursion := by
  rw [settleFor, settleFor]
  cases e.ifindex? with
  | none => rfl
  | some index =>
    cases hlookup : r.lookup index with
    | none =>
      simp only [settle_of_lookup_eq_none hlookup]
      exact settle_of_lookup_eq_none hlookup
    | some s =>
      simp only [settle_of_lookup_eq_some hlookup]
      exact settle_of_lookup_eq_some hlookup

theorem excursion_settleFor : (r.settleFor e).excursion = r.excursion := by
  have hsame := congrArg Registry.excursion (r.settleFor_withExcursion e r.excursion)
  exact hsame

theorem handleEvent_of_status (h : e.command = .frameStatus) :
    (r.handleEvent now e).1 = r.settleFor e := by
  have hattend (l : Link) : r.attend l e = r.attendStatus l e := if_pos h
  dsimp only [handleEvent]
  rw [hattend, settleFor]
  rcases r.attendStatus_cases e with ⟨index, s, hindex, hlookup, hafter⟩ | ⟨hnone, hafter⟩
  · rw [hafter, hindex]
    exact (congrArg (r.update index) (s.status_eq_settled now)).trans
      (settle_of_lookup_eq_some hlookup).symm
  · rw [hafter]
    cases hindex : e.ifindex? with
    | none => rfl
    | some index => exact (settle_of_lookup_eq_none (hnone index hindex)).symm

/-- Events other than statuses are about excursions, if anything. -/
theorem handleEvent_of_not_status (h : e.command ≠ .frameStatus) :
    (r.handleEvent now e).1 = r.withExcursion (r.handleEvent now e).1.excursion := by
  rcases r.handleEvent_cases now e with ⟨-, -, hstatus, -⟩ | ⟨-, excursion, hafter⟩
  · exact absurd hstatus h
  · rw [hafter]
    rfl

/-! ### One event -/

/-- A change from one registry to another that keeps to what an event is about. -/
structure ConfinedTo (e : Event) (before after : Registry) : Prop where
  directory : after.directory = before.directory
  settings : after.settings = before.settings
  /-- No session is made or lost. -/
  sessions : ∀ index, (after.lookup index).isSome = (before.lookup index).isSome
  books : ∀ index, (after.lookup index).map Session.books = (before.lookup index).map Session.books
  /-- A transmit status settles the session of its interface. -/
  settled : e.command = .frameStatus → ∀ index, e.IsAbout index →
    after.lookup index = (before.lookup index).map Session.settled
  /-- All other sessions, and all sessions for other events, stay as they are. -/
  untouched : ∀ index, (e.command = .frameStatus → ¬e.IsAbout index) →
    after.lookup index = before.lookup index
  excursion : e.command ≠ .remainOnChannel → e.command ≠ .cancelRemainOnChannel →
    after.excursion = before.excursion

theorem lookup_handleEvent (index : UInt32) :
    (r.handleEvent now e).1.lookup index
      = if e.command = .frameStatus ∧ e.ifindex? = some index then
          (r.lookup index).map Session.settled
        else r.lookup index := by
  by_cases hstatus : e.command = .frameStatus
  · rw [handleEvent_of_status r now e hstatus, settleFor]
    cases e.ifindex? with
    | none => simp
    | some other => simp [lookup_settle, hstatus, eq_comm]
  · rw [handleEvent_of_not_status r now e hstatus, if_neg fun h => hstatus h.1]
    rfl

theorem settings_handleEvent : (r.handleEvent now e).1.settings = r.settings := by
  rcases r.handleEvent_cases now e with ⟨index, s, -, -, -, hafter⟩ | ⟨-, excursion, hafter⟩
  all_goals rw [hafter]
  rfl

/-- An event changes nothing but what it is about. -/
theorem confinedTo_handleEvent : ConfinedTo e r (r.handleEvent now e).1 where
  directory := r.directory_handleEvent now e
  settings := r.settings_handleEvent now e
  sessions index := by
    rw [lookup_handleEvent]
    split
    · exact Option.isSome_map
    · rfl
  books index := by
    rw [lookup_handleEvent]
    split
    · exact Option.map_map ..
    · rfl
  settled hstatus index habout := by
    rw [lookup_handleEvent, if_pos ⟨hstatus, e.isAbout_iff.1 habout⟩]
  untouched index h := by
    rw [lookup_handleEvent, if_neg fun hboth => h hboth.1 (e.isAbout_iff.2 hboth.2)]
  excursion hstart hend := by
    rw [excursion_handleEvent, if_neg hstart, if_neg hend]

/-! ### Events in another order -/

/-- A status leads to the same registry before and after any event, whenever it is handled. -/
theorem handleEvent_status_comm (early late : Nat) (f : Event) (h : e.command = .frameStatus) :
    ((r.handleEvent early e).1.handleEvent now f).1
      = ((r.handleEvent now f).1.handleEvent late e).1 := by
  rw [handleEvent_of_status r early e h, handleEvent_of_status _ late e h]
  by_cases hf : f.command = .frameStatus
  · rw [handleEvent_of_status _ now f hf, handleEvent_of_status _ now f hf, settleFor_comm]
  · rw [handleEvent_of_not_status _ now f hf, handleEvent_of_not_status r now f hf,
      settleFor_withExcursion, excursion_handleEvent, excursion_handleEvent,
      excursion_settleFor]

/-- The registry after events, each handled at its time. -/
def hearAll (events : List (Nat × Event)) : Registry :=
  events.foldl (fun r x => (r.handleEvent x.1 x.2).1) r

/-- The transmit statuses among events. -/
def statuses (events : List (Nat × Event)) : List (Nat × Event) :=
  events.filter (·.2.isStatus)

/-- The events that are no transmit statuses. -/
def others (events : List (Nat × Event)) : List (Nat × Event) :=
  events.filter (!·.2.isStatus)

theorem hearAll_concat (events : List (Nat × Event)) :
    r.hearAll (events ++ [(now, e)]) = ((r.hearAll events).handleEvent now e).1 :=
  List.foldl_append

/-- The sessions after a run are those after its statuses alone, and the record of excursions is
that after all other events alone. -/
theorem hearAll_eq (events : List (Nat × Event)) :
    r.hearAll events
      = (r.hearAll (statuses events)).withExcursion (r.hearAll (others events)).excursion := by
  induction events using List.reverseRecOn with
  | nil => rfl
  | append_singleton events x ih =>
    obtain ⟨now, e⟩ := x
    rw [hearAll_concat, ih]
    by_cases h : e.command = .frameStatus
    · have hstatus : e.isStatus = true := decide_eq_true h
      have hstatuses : statuses (events ++ [(now, e)]) = statuses events ++ [(now, e)] := by
        simp [statuses, hstatus]
      have hothers : others (events ++ [(now, e)]) = others events := by simp [others, hstatus]
      rw [hstatuses, hothers, hearAll_concat, handleEvent_of_status _ now e h,
        handleEvent_of_status _ now e h, settleFor_withExcursion]
    · have hother : e.isStatus = false := decide_eq_false h
      have hstatuses : statuses (events ++ [(now, e)]) = statuses events := by
        simp [statuses, hother]
      have hothers : others (events ++ [(now, e)]) = others events ++ [(now, e)] := by
        simp [others, hother]
      rw [hstatuses, hothers, hearAll_concat, handleEvent_of_not_status _ now e h,
        excursion_handleEvent, excursion_handleEvent]
      rfl

theorem hearAll_statuses (events : List (Nat × Event)) :
    r.hearAll (statuses events) = ((statuses events).map Prod.snd).foldl settleFor r := by
  rw [hearAll, List.foldl_map]
  refine List.foldl_ext _ _ r fun before x hx => ?_
  exact handleEvent_of_status before x.1 x.2 (of_decide_eq_true (List.mem_filter.1 hx).2)

/-- Events touch only what they are about. Handling one makes no call through a link, neither makes
nor loses a session, and leaves the directory and the books of all sends as they are. A session
changes only by a transmit status whose first interface index is its own, and then waits for no
status; the record of excursions changes only when an excursion starts or ends. So a status and
another event, be it a status too, may be handled in either order, and in a whole run all statuses
may be handled at other times and in another order, as long as the other events stay in theirs. -/
theorem events_touch_only_their_subject (r : Registry) :
    (∀ now e, ConfinedTo e r (r.handleEvent now e).1)
      ∧ (∀ l e, r.attend l e = ((r.handleEvent l.clock e).1,
        { l with notes := l.notes ++ (r.handleEvent l.clock e).2 }))
      ∧ (∀ early late now e f, e.command = .frameStatus →
        ((r.handleEvent early e).1.handleEvent now f).1
          = ((r.handleEvent now f).1.handleEvent late e).1)
      ∧ ∀ events reordered, others events = others reordered →
        ((statuses events).map Prod.snd).Perm ((statuses reordered).map Prod.snd) →
        r.hearAll events = r.hearAll reordered := by
  refine ⟨r.confinedTo_handleEvent, fun l e => r.attend_eq e l,
    fun early late now e f h => r.handleEvent_status_comm now e early late f h,
    fun events reordered hothers hstatuses => ?_⟩
  have hsettled := hstatuses.foldl_eq' (fun e _ f _ before => before.settleFor_comm e f) r
  rw [hearAll_eq, r.hearAll_eq reordered, hearAll_statuses, hearAll_statuses, hsettled, hothers]

end Registry

end NeighborAwareness
