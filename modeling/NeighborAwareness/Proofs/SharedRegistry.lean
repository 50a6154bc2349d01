import Mathlib.Data.List.Induction
import NeighborAwareness.Proofs.PartitionMembers
import NeighborAwareness.Proofs.SendRuns
import NeighborAwareness.Session.Registry

/-!
# One session for each interface

Several callers ask a registry for sessions at the same time. A call looks for a session, asks the
directory if there is none, and then makes one unless somebody else has made one by now. Between
these steps the interfaces may be enumerated anew, events are handled, and sessions send. Whatever
the order, there is never more than one session for an interface, and all callers get that one.

What a run comes to is told by its log. A session as it is at some time is the one that was made,
with all that the log tells has happened to it since.

## Main definitions

* `SharedRegistry`, `SharedRegistry.step`, `SharedRegistry.run` : a registry and the calls made to
  it.
* `SharedRegistry.Deed` : what the log tells of one step.
* `SharedRegistry.Made` : the session that a log tells of.
* `SharedRegistry.Missed`, `SharedRegistry.Informed` : a call that found no session, and one that
  the directory has then told of the interface.

## Main results

* `SharedRegistry.proceeds_step` : all that a step may come to.
* `SharedRegistry.run_call` : the three steps of a call in a row are `Registry.session`.
* `SharedRegistry.Faithful.step`, `SharedRegistry.Faithful.run` : registry and log agree.
* `SharedRegistry.one_session_per_interface` : what the callers get.
-/

namespace NeighborAwareness

open Session (Operation)

namespace Registry

variable (r : Registry)

/-! ### Sessions of a registry -/

theorem ascending_update (h : Keyed.Ascending r.sessions) (index : UInt32) (s : Session) :
    Keyed.Ascending (r.update index s).sessions :=
  Keyed.ascending_alter h

theorem lookup_update (h : Keyed.Ascending r.sessions) (index other : UInt32) (s : Session) :
    (r.update index s).lookup other = if other = index then some s else r.lookup other := by
  split
  · next hindex =>
    rw [hindex]
    exact Keyed.get?_alter_self index _ r.sessions h
  · next hother => exact Keyed.get?_alter_of_ne _ r.sessions hother

/-- An event is a status for a session, or it leaves all sessions as they are. -/
theorem handleEvent_cases (now : Nat) (e : Event) :
    (∃ index s, e.command = .frameStatus ∧ e.ifindex? = some index ∧ r.lookup index = some s
        ∧ (r.handleEvent now e).1 = r.update index (s.status now).1)
      ∨ ((∀ index, e.command = .frameStatus → e.ifindex? = some index → r.lookup index = none)
        ∧ ∃ excursion, (r.handleEvent now e).1 = { r with excursion }) := by
  dsimp only [handleEvent]
  rcases r.attend_cases e with
    ⟨index, s, hstatus, hindex, hlookup, h⟩ | ⟨hstart, h⟩ | ⟨hend, h⟩ | ⟨hnone, -, -, _, h⟩
  · exact .inl ⟨index, s, hstatus, hindex, hlookup, by rw [h]⟩
  · exact .inr ⟨fun _ hstatus => by rw [hstart] at hstatus; contradiction, _, by rw [h]; rfl⟩
  · exact .inr ⟨fun _ hstatus => by rw [hend] at hstatus; contradiction, _, by rw [h]; rfl⟩
  · exact .inr ⟨hnone, r.excursion, by rw [h]⟩

end Registry

/-- How far a call for a session has come. -/
inductive CallStage where
  /-- It found no session. -/
  | missed (index : UInt32)
  /-- The directory has told it of the interface. -/
  | informed (index : UInt32) (i : Interface)
  | finished
  deriving DecidableEq, Repr

/-- A registry and the calls for sessions made to it, by number. -/
structure SharedRegistry where
  registry : Registry
  calls : List CallStage

namespace SharedRegistry

/-- What may be done next. -/
inductive Move where
  /-- A call begins by looking for the session of an interface. -/
  | look (index : UInt32)
  /-- A call that found none asks the directory. -/
  | consult (call : Nat)
  /-- A call makes a session unless there is one by now. -/
  | settle (call : Nat)
  | enumerate (l : Link)
  | hear (now : Nat) (e : Event)
  | send (index : UInt32) (l : Link) (operation : Operation)

/-- What was done. -/
inductive Deed where
  | found (call : Nat) (index : UInt32) (s : Session)
  | missed (call : Nat) (index : UInt32)
  | informed (call : Nat) (index : UInt32) (i : Interface)
  | refused (call : Nat) (index : UInt32) (failure : Failure)
  | inserted (call : Nat) (index : UInt32) (i : Interface) (s : Session) (notes : List Note)
  | enumerated (result : Except Failure (List Interface))
  | heard (now : Nat) (e : Event)
  | sent (index : UInt32) (l : Link) (operation : Operation)
  | idle

/-- A registry without sessions, and no calls. -/
def start (settings : SendSettings) : SharedRegistry :=
  ⟨.start settings, []⟩

/-- Does what is next, or nothing if a call is not that far. -/
def step (r : SharedRegistry) : Move → Deed × SharedRegistry
  | .look index =>
    match r.registry.lookup index with
    | some s => (.found r.calls.length index s, { r with calls := r.calls ++ [.finished] })
    | none => (.missed r.calls.length index, { r with calls := r.calls ++ [.missed index] })
  | .consult call =>
    match r.calls[call]? with
    | some (.missed index) =>
      match r.registry.directory.interface index with
      | .error failure =>
        (.refused call index failure, { r with calls := r.calls.set call .finished })
      | .ok i => (.informed call index i, { r with calls := r.calls.set call (.informed index i) })
    | _ => (.idle, r)
  | .settle call =>
    match r.calls[call]? with
    | some (.informed index i) =>
      let (s, registry, notes) := r.registry.insert index i
      (.inserted call index i s notes, ⟨registry, r.calls.set call .finished⟩)
    | _ => (.idle, r)
  | .enumerate l =>
    let (result, directory, _) := r.registry.directory.listInterfaces l
    (.enumerated result, { r with registry := { r.registry with directory } })
  | .hear now e => (.heard now e, { r with registry := (r.registry.handleEvent now e).1 })
  | .send index l operation =>
    match r.registry.lookup index with
    | some s =>
      (.sent index l operation,
        { r with registry := r.registry.update index (operation.perform s l).2.1 })
    | none => (.idle, r)

/-- Does one thing after the other: the log, and the registry afterwards. -/
def run (r : SharedRegistry) : List Move → List Deed × SharedRegistry
  | [] => ([], r)
  | m :: rest =>
    let (d, r) := r.step m
    let (log, r) := r.run rest
    (d :: log, r)

namespace Deed

/-- What a call returned in a step, with the index that it was made for. -/
def answer? : Deed → Option (UInt32 × Except Failure Session)
  | found _ index s => some (index, .ok s)
  | refused _ index failure => some (index, .error failure)
  | inserted _ index _ s _ => some (index, .ok s)
  | missed .. | informed .. | enumerated _ | heard .. | sent .. | idle => none

/-- Whether a new session for an interface was noted. -/
def creates (index : UInt32) : Deed → Bool
  | inserted _ other _ _ notes => other = index ∧ .newSession ∈ notes
  | found .. | missed .. | informed .. | refused .. | enumerated _ | heard .. | sent ..
  | idle => false

/-- What a step makes of the session of an interface. -/
def change (index : UInt32) (s : Session) : Deed → Session
  | heard now e =>
    if e.command = .frameStatus ∧ e.ifindex? = some index then (s.status now).1 else s
  | sent other l operation => if other = index then (operation.perform s l).2.1 else s
  | found .. | missed .. | informed .. | refused .. | inserted .. | enumerated _ | idle => s

/-- What an enumeration reported. -/
def reported? : Deed → Option (List Interface)
  | enumerated (.ok interfaces) => some interfaces
  | enumerated (.error _) | found .. | missed .. | informed .. | refused .. | inserted .. | heard ..
  | sent .. | idle => none

end Deed

/-- What the last enumeration reported. -/
def current (log : List Deed) : List Interface :=
  ((log.filterMap Deed.reported?).getLast?).getD []

/-- `Made settings log index i s` says that the log tells of just one session made for `index`, that
it was made for `i`, and that it has become `s` since. -/
def Made (settings : SendSettings) (log : List Deed) (index : UInt32) (i : Interface)
    (s : Session) : Prop :=
  ∃ front call since,
    log = front ++ .inserted call index i (.start i settings) [.newSession] :: since
      ∧ log.countP (Deed.creates index) = 1
      ∧ s = since.foldl (Deed.change index) (.start i settings)

/-- A call found no session, when none had been made. -/
def Missed (log : List Deed) (call : Nat) (index : UInt32) : Prop :=
  ∃ front back, log = front ++ .missed call index :: back
    ∧ front.countP (Deed.creates index) = 0

/-- A call found no session, and was then told of an interface that the last enumeration at that
time had reported. -/
def Informed (log : List Deed) (call : Nat) (index : UInt32) (i : Interface) : Prop :=
  ∃ front back, log = front ++ .informed call index i :: back
    ∧ Missed front call index ∧ i ∈ current front ∧ i.index = index

/-- What a registry knows is what the log tells. -/
structure Faithful (settings : SendSettings) (log : List Deed) (r : SharedRegistry) : Prop where
  ascending : Keyed.Ascending r.registry.sessions
  settings_eq : r.registry.settings = settings
  directory : r.registry.directory.partition = .ofInterfaces (current log)
  absent : ∀ index, r.registry.lookup index = none → log.countP (Deed.creates index) = 0
  present : ∀ index s, r.registry.lookup index = some s → ∃ i, Made settings log index i s
  missed : ∀ call index, r.calls[call]? = some (.missed index) → Missed log call index
  informed : ∀ call index i, r.calls[call]? = some (.informed index i) →
    Informed log call index i

variable {settings : SendSettings} {log : List Deed} {r : SharedRegistry} {index : UInt32}
  {call : Nat} {i : Interface} {s : Session}

/-! ### Logs -/

theorem current_concat (log : List Deed) (d : Deed) :
    current (log ++ [d]) = d.reported?.getD (current log) := by
  rw [current, List.filterMap_append]
  cases hreported : d.reported? with
  | none => simp [hreported, current]
  | some interfaces => simp [hreported]

theorem exists_of_mem_current (h : i ∈ current log) :
    ∃ interfaces, .enumerated (.ok interfaces) ∈ log ∧ i ∈ interfaces := by
  rw [current] at h
  cases hlast : (log.filterMap Deed.reported?).getLast? with
  | none => simp [hlast] at h
  | some interfaces =>
    rw [hlast] at h
    obtain ⟨d, hd, hreported⟩ := List.mem_filterMap.1 (List.mem_of_getLast? hlast)
    obtain ⟨result, rfl⟩ : ∃ result, d = .enumerated result := by
      cases d with
      | enumerated result => exact ⟨result, rfl⟩
      | _ => cases hreported
    cases result with
    | error failure => cases hreported
    | ok found =>
      obtain rfl := Option.some.inj hreported
      exact ⟨found, hd, h⟩

theorem Missed.append (h : Missed log call index) (more : List Deed) :
    Missed (log ++ more) call index := by
  obtain ⟨front, back, rfl, hnone⟩ := h
  exact ⟨front, back ++ more, List.append_assoc .., hnone⟩

theorem Informed.append (h : Informed log call index i) (more : List Deed) :
    Informed (log ++ more) call index i := by
  obtain ⟨front, back, rfl, hinformed⟩ := h
  exact ⟨front, back ++ more, List.append_assoc .., hinformed⟩

theorem countP_concat_of_creates_eq_false {d : Deed} (h : d.creates index = false) :
    (log ++ [d]).countP (Deed.creates index) = log.countP (Deed.creates index) := by
  simp [h]

theorem Made.concat (h : Made settings log index i s) {d : Deed} (hd : d.creates index = false) :
    Made settings (log ++ [d]) index i (d.change index s) := by
  obtain ⟨front, call, since, rfl, hcount, rfl⟩ := h
  refine ⟨front, call, since ++ [d], List.append_assoc .., ?_, ?_⟩
  · rw [countP_concat_of_creates_eq_false hd, hcount]
  · rw [List.foldl_append]
    rfl

theorem Made.new (h : log.countP (Deed.creates index) = 0) (call : Nat) (i : Interface) :
    Made settings (log ++ [.inserted call index i (.start i settings) [.newSession]]) index i
      (.start i settings) :=
  ⟨log, call, [], rfl, by simp [h, Deed.creates], rfl⟩

theorem interface_change (d : Deed) : (d.change index s).interface = s.interface := by
  cases d with
  | heard now e =>
    rw [Deed.change]
    split
    · exact s.interface_status now
    · rfl
  | sent other l operation =>
    rw [Deed.change]
    split
    · exact s.interface_perform l operation
    · rfl
  | _ => rfl

theorem Made.interface_eq (h : Made settings log index i s) : s.interface = i := by
  obtain ⟨-, -, since, -, -, rfl⟩ := h
  induction since using List.reverseRecOn with
  | nil => rfl
  | append_singleton since d ih => rw [List.foldl_append, List.foldl_cons, List.foldl_nil,
      interface_change, ih]

/-! ### One step -/

/-- `Proceeds r d after` says that `r` does `d` and is `after` then. -/
inductive Proceeds (r : SharedRegistry) : Deed → SharedRegistry → Prop
  | found {index : UInt32} {s : Session} (known : r.registry.lookup index = some s) :
      Proceeds r (.found r.calls.length index s) { r with calls := r.calls ++ [.finished] }
  | missed {index : UInt32} (unknown : r.registry.lookup index = none) :
      Proceeds r (.missed r.calls.length index) { r with calls := r.calls ++ [.missed index] }
  | refused {call : Nat} {index : UInt32} {failure : Failure}
      (missed : r.calls[call]? = some (.missed index))
      (refusal : r.registry.directory.interface index = .error failure) :
      Proceeds r (.refused call index failure) { r with calls := r.calls.set call .finished }
  | informed {call : Nat} {index : UInt32} {i : Interface}
      (missed : r.calls[call]? = some (.missed index))
      (listed : r.registry.directory.interface index = .ok i) :
      Proceeds r (.informed call index i) { r with calls := r.calls.set call (.informed index i) }
  | joined {call : Nat} {index : UInt32} {i : Interface} {s : Session}
      (informed : r.calls[call]? = some (.informed index i))
      (known : r.registry.lookup index = some s) :
      Proceeds r (.inserted call index i s []) { r with calls := r.calls.set call .finished }
  | created {call : Nat} {index : UInt32} {i : Interface}
      (informed : r.calls[call]? = some (.informed index i))
      (unknown : r.registry.lookup index = none) :
      Proceeds r
        (.inserted call index i (.start i r.registry.settings) [.newSession])
        ⟨r.registry.update index (.start i r.registry.settings), r.calls.set call .finished⟩
  | enumerated (interfaces : List Interface) :
      Proceeds r (.enumerated (.ok interfaces))
        { r with registry := { r.registry with directory := ⟨.ofInterfaces interfaces⟩ } }
  | failed (failure : Failure) : Proceeds r (.enumerated (.error failure)) r
  | status {now : Nat} {e : Event} {index : UInt32} {s : Session}
      (isStatus : e.command = .frameStatus) (about : e.ifindex? = some index)
      (known : r.registry.lookup index = some s) :
      Proceeds r (.heard now e) { r with registry := r.registry.update index (s.status now).1 }
  | heard {now : Nat} {e : Event} (excursion : ExcursionTracker)
      (unknown : ∀ index, e.command = .frameStatus → e.ifindex? = some index →
        r.registry.lookup index = none) :
      Proceeds r (.heard now e) { r with registry := { r.registry with excursion } }
  | sent {index : UInt32} {l : Link} {operation : Operation} {s : Session}
      (known : r.registry.lookup index = some s) :
      Proceeds r (.sent index l operation)
        { r with registry := r.registry.update index (operation.perform s l).2.1 }
  | idle : Proceeds r .idle r

/-- A step does one of these things. -/
theorem proceeds_step (r : SharedRegistry) (m : Move) : r.Proceeds (r.step m).1 (r.step m).2 := by
  cases m with
  | look index =>
    rw [step]
    cases hlookup : r.registry.lookup index with
    | some s => exact .found hlookup
    | none => exact .missed hlookup
  | consult call =>
    rw [step]
    split
    · next index hmissed =>
      cases hinterface : r.registry.directory.interface index with
      | error failure => exact .refused hmissed hinterface
      | ok i => exact .informed hmissed hinterface
    · exact .idle
  | settle call =>
    rw [step]
    split
    · next index i hinformed =>
      rw [Registry.insert]
      cases hlookup : r.registry.lookup index with
      | some s => exact .joined hinformed hlookup
      | none => exact .created hinformed hlookup
    · exact .idle
  | enumerate l =>
    rw [step, Directory.listInterfaces]
    rcases l.execute .getInterface [] true .newInterface with ⟨failure | rows, after⟩
    · exact .failed failure
    · exact .enumerated _
  | hear now e =>
    rw [step]
    rcases r.registry.handleEvent_cases now e with
      ⟨index, s, hstatus, hifindex, hlookup, hafter⟩ | ⟨hnone, excursion, hafter⟩
    · rw [hafter]
      exact .status hstatus hifindex hlookup
    · rw [hafter]
      exact .heard excursion hnone
  | send index l operation =>
    rw [step]
    cases hlookup : r.registry.lookup index with
    | some s => exact .sent hlookup
    | none => exact .idle

namespace Proceeds

variable {d : Deed} {after : SharedRegistry}

theorem ascending (hstep : r.Proceeds d after) (h : Keyed.Ascending r.registry.sessions) :
    Keyed.Ascending after.registry.sessions ∧ after.registry.settings = r.registry.settings := by
  cases hstep with
  | created | status | sent => exact ⟨r.registry.ascending_update h _ _, rfl⟩
  | _ => exact ⟨h, rfl⟩

theorem partition_eq (hstep : r.Proceeds d after) :
    after.registry.directory.partition
      = (d.reported?.map Partition.ofInterfaces).getD r.registry.directory.partition := by
  cases hstep <;> rfl

/-- A step makes a session for an interface that had none, or changes at most the one that there
is. -/
theorem lookup_cases (hstep : r.Proceeds d after) (h : Keyed.Ascending r.registry.sessions)
    (index : UInt32) :
    (d.creates index = false
        ∧ after.registry.lookup index = (r.registry.lookup index).map fun s => d.change index s)
      ∨ (r.registry.lookup index = none ∧ ∃ call i,
        d = .inserted call index i (.start i r.registry.settings) [.newSession]
          ∧ after.registry.lookup index = some (.start i r.registry.settings)) := by
  have hsame : r.registry.lookup index = (r.registry.lookup index).map fun s => s :=
    Option.map_id'.symm
  cases hstep with
  | @created call other i hinformed hunknown =>
    by_cases hindex : index = other
    · subst hindex
      exact .inr ⟨hunknown, call, i, rfl, by rw [r.registry.lookup_update h, if_pos rfl]⟩
    · refine .inl ⟨by simp [Deed.creates, Ne.symm hindex], ?_⟩
      rw [r.registry.lookup_update h, if_neg hindex]
      exact hsame
  | @status now e other s hstatus habout hknown =>
    refine .inl ⟨rfl, ?_⟩
    rw [r.registry.lookup_update h]
    by_cases hindex : index = other
    · subst hindex
      simp [hknown, Deed.change, hstatus, habout]
    · simp [hindex, Deed.change, habout, Ne.symm hindex]
  | @heard now e excursion hunknown =>
    refine .inl ⟨rfl, ?_⟩
    by_cases habout : e.command = .frameStatus ∧ e.ifindex? = some index
    · have hnone := hunknown index habout.1 habout.2
      rw [hnone]
      exact hnone
    · simp only [Deed.change, if_neg habout]
      exact hsame
  | @sent other l operation s hknown =>
    refine .inl ⟨rfl, ?_⟩
    rw [r.registry.lookup_update h]
    by_cases hindex : index = other
    · subst hindex
      simp [hknown, Deed.change]
    · simp [hindex, Deed.change, Ne.symm hindex]
  | joined => exact .inl ⟨by simp [Deed.creates], hsame⟩
  | _ => exact .inl ⟨rfl, hsame⟩

theorem lookup_of_answer? (hstep : r.Proceeds d after) (h : Keyed.Ascending r.registry.sessions)
    (hanswer : d.answer? = some (index, .ok s)) : after.registry.lookup index = some s := by
  cases hstep with
  | found hknown =>
    cases hanswer
    exact hknown
  | joined _ hknown =>
    cases hanswer
    exact hknown
  | created =>
    cases hanswer
    rw [r.registry.lookup_update h, if_pos rfl]
  | _ => cases hanswer

theorem calls_cases (hstep : r.Proceeds d after) {stage : CallStage}
    (h : after.calls[call]? = some stage) :
    r.calls[call]? = some stage ∨ stage = .finished
      ∨ (∃ index, stage = .missed index ∧ d = .missed call index
        ∧ r.registry.lookup index = none)
      ∨ ∃ index i, stage = .informed index i ∧ d = .informed call index i
        ∧ r.calls[call]? = some (.missed index)
        ∧ r.registry.directory.interface index = .ok i := by
  cases hstep with
  | found => grind
  | missed => grind
  | refused => grind
  | informed => grind
  | joined => grind
  | created => grind
  | _ => exact .inl h

theorem calls_of_inserted {notes : List Note}
    (hstep : r.Proceeds (.inserted call index i s notes) after) :
    r.calls[call]? = some (.informed index i) := by
  cases hstep <;> assumption

/-- A call that is refused found no session, and the directory refused it. -/
theorem calls_of_refused {failure : Failure}
    (hstep : r.Proceeds (.refused call index failure) after) :
    r.calls[call]? = some (.missed index)
      ∧ r.registry.directory.interface index = .error failure := by
  cases hstep with
  | refused hmissed hrefusal => exact ⟨hmissed, hrefusal⟩

end Proceeds

theorem isSome_lookup_handleEvent (h : Keyed.Ascending r.registry.sessions) (now : Nat) (e : Event)
    (index : UInt32) :
    ((r.registry.handleEvent now e).1.lookup index).isSome
      = (r.registry.lookup index).isSome := by
  have hstep := r.proceeds_step (.hear now e)
  rcases hstep.lookup_cases h index with ⟨-, hlookup⟩ | ⟨-, _, _, hdeed, -⟩
  · exact (congrArg Option.isSome hlookup).trans Option.isSome_map
  · cases hdeed

/-! ### A run -/

theorem run_cons (m : Move) (rest : List Move) :
    r.run (m :: rest)
      = ((r.step m).1 :: ((r.step m).2.run rest).1, ((r.step m).2.run rest).2) := rfl

namespace Faithful

/-- What the directory tells of was reported by the last enumeration. -/
theorem mem_current (h : Faithful settings log r)
    (hinterface : r.registry.directory.interface index = .ok i) :
    i ∈ current log ∧ i.index = index := by
  rw [Directory.interface, h.directory] at hinterface
  split at hinterface
  · next found hfound =>
    obtain rfl := Except.ok.inj hinterface
    exact Partition.mem_of_find?_ofInterfaces hfound
  · cases hinterface

/-- What the directory refuses was not reported by the last enumeration. -/
theorem index_ne_of_refusal (h : Faithful settings log r) {failure : Failure}
    (hinterface : r.registry.directory.interface index = .error failure) :
    failure = .of (.unknownInterface index) ∧ ∀ i ∈ current log, i.index ≠ index := by
  rw [Directory.interface, h.directory] at hinterface
  split at hinterface
  · cases hinterface
  · next hnone =>
    exact ⟨(Except.error.inj hinterface).symm, Partition.find?_ofInterfaces_eq_none_iff.1 hnone⟩

theorem start (settings : SendSettings) : Faithful settings [] (SharedRegistry.start settings) where
  ascending := .nil
  settings_eq := rfl
  directory := rfl
  absent _ _ := rfl
  present _ _ h := by cases h
  missed _ _ h := by simp [SharedRegistry.start] at h
  informed _ _ _ h := by simp [SharedRegistry.start] at h

/-- One step. -/
theorem step (h : Faithful settings log r) (m : Move) :
    Faithful settings (log ++ [(r.step m).1]) (r.step m).2 := by
  have hstep := r.proceeds_step m
  obtain ⟨hascending, hsettings⟩ := hstep.ascending h.ascending
  refine ⟨hascending, hsettings.trans h.settings_eq, ?_, fun index hnone => ?_,
    fun index s hsome => ?_, fun call index hcall => ?_, fun call index i hcall => ?_⟩
  · rw [hstep.partition_eq, current_concat, h.directory]
    cases (r.step m).1.reported? <;> rfl
  · rcases hstep.lookup_cases h.ascending index with ⟨hcreates, hlookup⟩ | ⟨-, _, _, -, hlookup⟩
    · rw [hlookup, Option.map_eq_none_iff] at hnone
      rw [countP_concat_of_creates_eq_false hcreates, h.absent index hnone]
    · rw [hlookup] at hnone
      cases hnone
  · rcases hstep.lookup_cases h.ascending index with
      ⟨hcreates, hlookup⟩ | ⟨hunknown, call, i, hdeed, hlookup⟩
    · rw [hlookup, Option.map_eq_some_iff] at hsome
      obtain ⟨before, hbefore, rfl⟩ := hsome
      obtain ⟨i, hmade⟩ := h.present index before hbefore
      exact ⟨i, hmade.concat hcreates⟩
    · obtain rfl := Option.some.inj (hsome.symm.trans hlookup)
      rw [hdeed, h.settings_eq]
      exact ⟨i, .new (h.absent index hunknown) call i⟩
  · rcases hstep.calls_cases hcall with
      hcall | hstage | ⟨_, hstage, hdeed, hunknown⟩ | ⟨_, _, hstage, -⟩
    · exact (h.missed call index hcall).append _
    · cases hstage
    · cases hstage
      rw [hdeed]
      exact ⟨log, [], rfl, h.absent index hunknown⟩
    · cases hstage
  · rcases hstep.calls_cases hcall with
      hcall | hstage | ⟨_, hstage, -⟩ | ⟨_, _, hstage, hdeed, hmissed, hinterface⟩
    · exact (h.informed call index i hcall).append _
    · cases hstage
    · cases hstage
    · cases hstage
      rw [hdeed]
      exact ⟨log, [], rfl, h.missed call index hmissed, h.mem_current hinterface⟩

/-- A run. -/
theorem run (h : Faithful settings log r) (moves : List Move) :
    Faithful settings (log ++ (r.run moves).1) (r.run moves).2 := by
  induction moves generalizing r log with
  | nil =>
    rw [SharedRegistry.run, List.append_nil]
    exact h
  | cons m rest ih =>
    have hrest := ih (h.step m)
    rwa [List.append_assoc] at hrest

end Faithful

/-- Each entry of a log was made by a step, and the log up to it by the moves before. -/
theorem exists_step_of_run {moves : List Move} {front back : List Deed} {d : Deed}
    (h : (r.run moves).1 = front ++ d :: back) :
    ∃ before m after, moves = before ++ m :: after ∧ (r.run before).1 = front
      ∧ ((r.run before).2.step m).1 = d := by
  induction moves generalizing r front with
  | nil => simp [run] at h
  | cons m rest ih =>
    rw [run_cons] at h
    cases front with
    | nil => exact ⟨[], m, rest, rfl, rfl, (List.cons.inj h).1⟩
    | cons first front =>
      obtain ⟨hfirst, hrest⟩ := List.cons.inj h
      obtain ⟨before, n, after, rfl, hfront, hd⟩ := ih hrest
      refine ⟨m :: before, n, after, rfl, ?_, hd⟩
      rw [run_cons, hfirst, hfront]

/-- The three steps of a call in a row are the asking for a session. -/
theorem run_call (r : SharedRegistry) (index : UInt32) :
    let call := r.calls.length
    let after := r.run [.look index, .consult call, .settle call]
    after.1.findSome? Deed.answer? = some (index, (r.registry.session index).1)
      ∧ after.2.registry = (r.registry.session index).2.1 := by
  intro call after
  cases hlookup : r.registry.lookup index with
  | some s =>
    simp [after, call, run, step, Registry.session, hlookup, List.findSome?_cons, Deed.answer?]
  | none =>
    cases hinterface : r.registry.directory.interface index with
    | error failure =>
      simp [after, call, run, step, Registry.session, hlookup, hinterface, List.findSome?_cons,
        Deed.answer?]
    | ok i =>
      simp [after, call, run, step, Registry.session, hlookup, hinterface, List.findSome?_cons,
        Deed.answer?]

variable (settings)

/-- However many callers ask for sessions, and whatever happens between the steps of their calls:
all sessions returned for an interface are the only one that was ever made for it, as it has become
by then, and it keeps the interface that the directory told the call which made it, between looking
for a session and making one. A call is refused only if it found no session and the last enumeration
did not report the interface. No event makes a session, and there are sessions only for interfaces
that an enumeration reported. A call with nothing between its steps is `Registry.session`. -/
theorem one_session_per_interface (moves : List Move) :
    let log := ((start settings).run moves).1
    let after := ((start settings).run moves).2
    (∀ front d back index s, log = front ++ d :: back → d.answer? = some (index, .ok s) →
        ∃ i, Made settings (front ++ [d]) index i s ∧ s.interface = i
          ∧ log.countP (Deed.creates index) = 1)
      ∧ (∀ front call index i s notes back, log = front ++ .inserted call index i s notes :: back →
        Informed front call index i)
      ∧ (∀ front call index failure back, log = front ++ .refused call index failure :: back →
        failure = .of (.unknownInterface index) ∧ Missed front call index
          ∧ ∀ i ∈ current front, i.index ≠ index)
      ∧ (∀ now e index, ((after.registry.handleEvent now e).1.lookup index).isSome
        = (after.registry.lookup index).isSome)
      ∧ (∀ index, (after.registry.lookup index).isSome = true →
        ∃ interfaces, .enumerated (.ok interfaces) ∈ log ∧ ∃ i ∈ interfaces, i.index = index)
      ∧ ∀ index,
        let call := after.calls.length
        let next := after.run [.look index, .consult call, .settle call]
        next.1.findSome? Deed.answer? = some (index, (after.registry.session index).1)
          ∧ next.2.registry = (after.registry.session index).2.1 := by
  intro log after
  have hafter : Faithful settings log after := (Faithful.start settings).run moves
  -- Every entry was made by a step from a registry that agrees with the log up to the entry.
  have hentry {front : List Deed} {d : Deed} {back : List Deed} (h : log = front ++ d :: back) :
      ∃ r next, Faithful settings front r ∧ r.Proceeds d next
        ∧ Faithful settings (front ++ [d]) next := by
    obtain ⟨before, m, -, -, rfl, rfl⟩ := exists_step_of_run h
    have hbefore := (Faithful.start settings).run before
    exact ⟨_, _, hbefore, proceeds_step _ m, hbefore.step m⟩
  have hinformed {front : List Deed} {call : Nat} {index : UInt32} {i : Interface} {s : Session}
      {notes : List Note} {back : List Deed}
      (h : log = front ++ .inserted call index i s notes :: back) :
      Informed front call index i := by
    obtain ⟨r, next, hbefore, hstep, -⟩ := hentry h
    exact hbefore.informed call index i hstep.calls_of_inserted
  refine ⟨fun front d back index s h hanswer => ?_, fun _ _ _ _ _ _ _ h => hinformed h,
    fun front call index failure back h => ?_,
    fun now e index => isSome_lookup_handleEvent hafter.ascending now e index,
    fun index hsome => ?_, fun index => after.run_call index⟩
  · obtain ⟨r, next, hbefore, hstep, hnext⟩ := hentry h
    obtain ⟨i, hmade⟩ := hnext.present index s (hstep.lookup_of_answer? hbefore.ascending hanswer)
    refine ⟨i, hmade, hmade.interface_eq, ?_⟩
    cases hlookup : after.registry.lookup index with
    | some last =>
      obtain ⟨-, -, -, -, -, hcount, -⟩ := hafter.present index last hlookup
      exact hcount
    | none =>
      obtain ⟨-, -, -, -, hcount, -⟩ := hmade
      have hnone := hafter.absent index hlookup
      rw [h, List.append_cons, List.countP_append, hcount] at hnone
      omega
  · obtain ⟨r, next, hbefore, hstep, -⟩ := hentry h
    obtain ⟨hmissed, hrefusal⟩ := hstep.calls_of_refused
    obtain ⟨hfailure, hunlisted⟩ := hbefore.index_ne_of_refusal hrefusal
    exact ⟨hfailure, hbefore.missed call index hmissed, hunlisted⟩
  · obtain ⟨s, hs⟩ := Option.isSome_iff_exists.1 hsome
    obtain ⟨i, front, call, since, h, -, -⟩ := hafter.present index s hs
    obtain ⟨early, between, rfl, -, hcurrent, hindex⟩ := hinformed h
    obtain ⟨interfaces, henumerated, hi⟩ := exists_of_mem_current hcurrent
    refine ⟨interfaces, ?_, i, hi, hindex⟩
    rw [h]
    exact List.mem_append_left _ (List.mem_append_left _ henumerated)

/-- The enumeration of a single interface. -/
def single (index : UInt32) (name : String) : Move :=
  .enumerate (.start 0 [⟨0, none, [[.ifindex index, .ifname name]], none⟩])

/-- Two callers find no session. The one that asks the directory later makes the session, and the
other one gets it, although it was told of an earlier enumeration. -/
example :
    (((start ⟨2437, 20, 20, 30⟩).run [single 3 "first", .look 3, .look 3, .consult 0,
      single 3 "second", .consult 1, .settle 1, .settle 0]).1.filterMap Deed.answer?).map
        (fun x => (x.1, x.2.toOption.map fun s => s.interface.name))
      = [(3, some "second"), (3, some "second")] := by
  decide +kernel

end SharedRegistry

end NeighborAwareness
