import NeighborAwareness.Directory.Basic
import NeighborAwareness.Session.Basic

/-!
# The session registry

Sessions are made when they are first asked for, one for each interface, and stay. The registry
also keeps the excursion on record and hands the events of the kernel to what they are about. The
link is at hand for that as for everything else.

## Main definitions

* `Registry` : directory, sessions and excursion.
* `Registry.session` : the session of an interface, made if there is none; `Registry.lookup` and
  `Registry.insert` are its steps.
* `Registry.remainOnChannel` : asks for an excursion.
* `Registry.attend` : hands an event to what it is about.
* `Registry.handleEvent` : what an event changes, apart from the link.

## Main results

* `Registry.attend_cases` : what an event may be.
* `Registry.attend_eq` : the link has no part in what an event changes.

## Left out

The locks of the registry are taken for one lookup or insertion at a time, so nothing else of them
matters than the order of these.
-/

namespace NeighborAwareness

/-- Sessions by interface index, and what they share. -/
structure Registry where
  directory : Directory
  settings : SendSettings
  sessions : Keyed Session
  excursion : ExcursionTracker

namespace Registry

/-- A registry without sessions. -/
def start (settings : SendSettings) : Registry :=
  ⟨.empty, settings, [], .empty⟩

/-! ### Sessions -/

/-- The session of an interface, if there is one. -/
def lookup (r : Registry) (index : UInt32) : Option Session :=
  r.sessions.get? index

/-- The registry with another session in the place of the one of an interface. -/
def update (r : Registry) (index : UInt32) (s : Session) : Registry :=
  { r with sessions := r.sessions.alter index fun _ => s }

/-- Makes a session for an interface unless there is one by now. -/
def insert (r : Registry) (index : UInt32) (i : Interface) : Session × Registry × List Note :=
  match r.lookup index with
  | some s => (s, r, [])
  | none =>
    let s := Session.start i r.settings
    (s, r.update index s, [.newSession])

/-- The session of an interface of the last enumeration, made if there is none. -/
def session (r : Registry) (index : UInt32) : Except Failure Session × Registry × List Note :=
  match r.lookup index with
  | some s => (.ok s, r, [])
  | none =>
    match r.directory.interface index with
    | .error failure => (.error failure, r, [])
    | .ok i =>
      let (s, r, notes) := r.insert index i
      (.ok s, r, notes)

/-! ### Excursions -/

/-- Asks the radio of an interface to stay on a channel. -/
def remainOnChannel (r : Registry) (l : Link) (index frequency duration : UInt32) :
    Except Failure (Option UInt64) × Registry × Link :=
  match r.directory.interface index with
  | .error failure => (.error failure, r, l)
  | .ok i =>
    let (result, excursion, l) := Directory.remainOnChannel r.excursion l i frequency duration
    (result, { r with excursion }, l)

/-! ### Events -/

/-- What a start event says: frequency, duration in milliseconds and cookie, zero or none where it
says nothing; the last attribute of a kind counts. -/
structure StartReport where
  frequency : UInt32
  duration : UInt32
  cookie : Option UInt64
  deriving DecidableEq, Repr

/-- The report after one more attribute. -/
def StartReport.learn (report : StartReport) : Attribute → StartReport
  | .wiphyFreq frequency => { report with frequency }
  | .duration duration => { report with duration }
  | .cookie n => { report with cookie := some n }
  | _ => report

/-- The report of a start event. -/
def StartReport.ofRow (row : List Attribute) : StartReport :=
  row.foldl StartReport.learn ⟨0, 0, none⟩

/-- The session an event is about. -/
def sessionOf (r : Registry) (e : Event) : Option (UInt32 × Session) :=
  e.ifindex?.bind fun index => (r.lookup index).map fun s => (index, s)

/-- A transmit status. -/
def attendStatus (r : Registry) (l : Link) (e : Event) : Registry × Link :=
  match r.sessionOf e with
  | some (index, s) =>
    let (s, fate) := s.status l.clock
    (r.update index s, l.noted [.txStatus fate])
  | none => (r, l.noted [.txStatus .noSession])

/-- The radio reached the channel of an excursion. -/
def attendStart (r : Registry) (l : Link) (e : Event) : Registry × Link :=
  let report := StartReport.ofRow e.attributes
  let (excursion, notes) :=
    r.excursion.started l.clock report.frequency report.duration.toNat report.cookie
  ({ r with excursion }, l.noted notes)

/-- The radio left the channel of an excursion. -/
def attendEnd (r : Registry) (l : Link) : Registry × Link :=
  let (_, excursion, notes) := r.excursion.finished
  ({ r with excursion }, l.noted notes)

/-- The frames received in an event. Interface zero marks the echo of a send. -/
def receivedFrames (e : Event) : List Note :=
  match e.ifindex? with
  | some index =>
    if index = 0 then []
    else (e.attributes.filterMap Attribute.frame?).map (Note.frameReceived index)
  | none => []

/-- Hands an event to what it is about. -/
def attend (r : Registry) (l : Link) (e : Event) : Registry × Link :=
  if e.command = .frameStatus then r.attendStatus l e
  else if e.command = .remainOnChannel then r.attendStart l e
  else if e.command = .cancelRemainOnChannel then r.attendEnd l
  else if e.command = .frameWaitCancel then (r, l.noted [.waitCancelled (r.sessionOf e).isSome])
  else if e.command = .frame then (r, l.noted (receivedFrames e))
  else (r, l.noted [.unhandledEvent])

/-- What an event changes if it is handled at `now`, and what is noted then. -/
def handleEvent (r : Registry) (now : Nat) (e : Event) : Registry × List Note :=
  let after := r.attend { Link.start 0 [] with clock := now } e
  (after.1, after.2.notes)

/-! ### What events change -/

variable (r : Registry) (e : Event)

theorem attendStatus_cases :
    (∃ index s, e.ifindex? = some index ∧ r.lookup index = some s
        ∧ ∀ l : Link, r.attendStatus l e
          = (r.update index (s.status l.clock).1, l.noted [.txStatus (s.status l.clock).2]))
      ∨ ((∀ index, e.ifindex? = some index → r.lookup index = none)
        ∧ ∀ l : Link, r.attendStatus l e = (r, l.noted [.txStatus .noSession])) := by
  simp only [attendStatus, sessionOf]
  cases e.ifindex? with
  | none => exact .inr ⟨fun _ h => (nomatch h), fun _ => rfl⟩
  | some index =>
    rw [Option.bind_some]
    cases hlookup : r.lookup index with
    | none => exact .inr ⟨fun _ h => Option.some.inj h ▸ hlookup, fun _ => rfl⟩
    | some s => exact .inl ⟨index, s, rfl, hlookup, fun _ => rfl⟩

/-- An event is a status for a session, the start or the end of an excursion, or something that
changes nothing. -/
theorem attend_cases :
    (∃ index s, e.command = .frameStatus ∧ e.ifindex? = some index ∧ r.lookup index = some s
        ∧ ∀ l : Link, r.attend l e
          = (r.update index (s.status l.clock).1, l.noted [.txStatus (s.status l.clock).2]))
      ∨ (e.command = .remainOnChannel ∧ ∀ l, r.attend l e = r.attendStart l e)
      ∨ (e.command = .cancelRemainOnChannel ∧ ∀ l, r.attend l e = r.attendEnd l)
      ∨ ((∀ index, e.command = .frameStatus → e.ifindex? = some index → r.lookup index = none)
        ∧ e.command ≠ .remainOnChannel ∧ e.command ≠ .cancelRemainOnChannel
        ∧ ∃ notes, ∀ l : Link, r.attend l e = (r, l.noted notes)) := by
  by_cases hstatus : e.command = .frameStatus
  · have hattend (l : Link) : r.attend l e = r.attendStatus l e := if_pos hstatus
    rcases r.attendStatus_cases e with ⟨index, s, hindex, hlookup, h⟩ | ⟨hnone, h⟩
    · exact .inl ⟨index, s, hstatus, hindex, hlookup, fun l => (hattend l).trans (h l)⟩
    · exact .inr (.inr (.inr ⟨fun index _ => hnone index, by rw [hstatus]; decide,
        by rw [hstatus]; decide, _, fun l => (hattend l).trans (h l)⟩))
  by_cases hstart : e.command = .remainOnChannel
  · exact .inr (.inl ⟨hstart, fun l => by rw [attend, if_neg hstatus, if_pos hstart]⟩)
  by_cases hend : e.command = .cancelRemainOnChannel
  · exact .inr (.inr (.inl ⟨hend, fun l => by
      rw [attend, if_neg hstatus, if_neg hstart, if_pos hend]⟩))
  · refine .inr (.inr (.inr ⟨fun _ h => absurd h hstatus, hstart, hend, ?_⟩))
    simp only [attend, if_neg hstatus, if_neg hstart, if_neg hend]
    split
    · exact ⟨_, fun _ => rfl⟩
    · split <;> exact ⟨_, fun _ => rfl⟩

/-- Whatever the link, only its clock matters, and only its notes change. -/
theorem attend_eq (l : Link) :
    r.attend l e
      = ((r.handleEvent l.clock e).1, l.noted (r.handleEvent l.clock e).2) := by
  rw [handleEvent]
  rcases r.attend_cases e with ⟨_, _, -, -, -, h⟩ | ⟨-, h⟩ | ⟨-, h⟩ | ⟨-, -, -, _, h⟩
  all_goals
    rw [h, h]
    rfl

end Registry

end NeighborAwareness
