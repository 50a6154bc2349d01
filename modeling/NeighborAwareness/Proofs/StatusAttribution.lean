import NeighborAwareness.Proofs.SendRuns

/-!
# Which sends find their statuses

The kernel reports one transmit status for each frame that it accepted, without saying which frame
it is about. A session keeps a single flag that a send waits for its status. When all statuses of an
operation arrive before the next one, the first of them clears the flag and the others are
unmatched. So every status finds its send as long as no operation has more than one frame accepted,
which fails for beacons, as each of them is followed by a discovery frame.

## Main definitions

* `Session.Prompt` : each accepted frame is reported once, and before the next operation.
* `Session.attribution` : which of several statuses in a row find a send.

## Main results

* `Session.awaiting_perform` : when a session waits for a status after an operation.
* `Session.matched_of_prompt` : the statuses that find a send, by induction on the run.
* `Session.two_accepted_iff` : which operations have more than one frame accepted.
* `Session.statuses_matched_of_prompt` : all statuses find a send just if no operation had more than
  one frame accepted.
-/

namespace NeighborAwareness

/-- Whether a status was taken as that of a send. -/
def StatusFate.isMatched : StatusFate → Bool
  | onTime => true
  | slow => true
  | unmatched => false
  | noSession => false

namespace Session

/-- How many frames of an operation the link accepted. -/
def Sending.accepted (x : Sending) : Nat :=
  x.sent.countP Transmission.succeeded

/-- `Prompt outstanding records` says that the `outstanding` frames accepted before `records`, and
all frames accepted later, are reported once each before the operation that comes next. -/
inductive Prompt : Nat → List Record → Prop
  | done : Prompt 0 []
  | sending (x : Sending) {rest : List Record} : Prompt x.accepted rest →
      Prompt 0 (.sending x :: rest)
  | status {outstanding : Nat} (arrived : Nat) (fate : StatusFate) {rest : List Record} :
      Prompt outstanding rest → Prompt (outstanding + 1) (.status arrived fate :: rest)

/-- Of some statuses in a row, only the first may find a send, if one is `awaiting` it. -/
def attribution (awaiting : Bool) : Nat → List Bool
  | 0 => []
  | count + 1 => awaiting :: List.replicate count false

theorem attribution_false (count : Nat) : attribution false count = List.replicate count false := by
  cases count <;> rfl

theorem all_attribution_iff (count : Nat) :
    (∀ found ∈ attribution true count, found = true) ↔ count ≤ 1 := by
  rcases count with _ | _ | count <;> simp [attribution, List.replicate_succ]

variable (s : Session) (l : Link)

/-! ### One step -/

theorem awaiting_learn (t : Transmission) :
    (s.learn t).awaiting = (s.awaiting || t.succeeded) := by
  rw [learn, Transmission.succeeded]
  cases t.outcome with
  | ok sequence => exact (Bool.or_true _).symm
  | error failure => exact (Bool.or_false _).symm

theorem awaiting_foldl_learn (sent : List Transmission) :
    (sent.foldl learn s).awaiting = (s.awaiting || sent.any Transmission.succeeded) := by
  induction sent generalizing s with
  | nil => exact (Bool.or_false _).symm
  | cons t sent ih => rw [List.foldl_cons, ih, awaiting_learn, List.any_cons, Bool.or_assoc]

/-- After an operation the session waits for a status if it did before, or if a frame was
accepted. -/
theorem awaiting_perform (operation : Operation) :
    (operation.perform s l).2.1.awaiting
      = (s.awaiting
        || (l.transmissions (operation.perform s l).2.2).any Transmission.succeeded) := by
  obtain ⟨scratch, -, hsession⟩ := operation.perform_carries s l
  rw [hsession]
  exact s.awaiting_foldl_learn _

/-- A status finds a send if the session waits for one, which it then does no more. -/
theorem isMatched_status (now : Nat) :
    (s.status now).2.isMatched = s.awaiting ∧ (s.status now).1.awaiting = false := by
  rw [status]
  cases hawaiting : s.awaiting with
  | true =>
    rw [if_pos rfl]
    refine ⟨?_, rfl⟩
    dsimp only
    split <;> rfl
  | false => exact ⟨rfl, hawaiting⟩

/-- The statuses of an operation are attributed as if the session had not been waiting before. -/
theorem attribution_perform (operation : Operation) :
    let sent := l.transmissions (operation.perform s l).2.2
    attribution (operation.perform s l).2.1.awaiting (sent.countP Transmission.succeeded)
      = attribution true (sent.countP Transmission.succeeded) := by
  intro sent
  rcases Nat.eq_zero_or_pos (sent.countP Transmission.succeeded) with hnone | hsome
  · rw [hnone]
    rfl
  · obtain ⟨t, ht, hsucceeded⟩ := List.countP_pos_iff.1 hsome
    have hany : sent.any Transmission.succeeded = true := List.any_eq_true.2 ⟨t, ht, hsucceeded⟩
    rw [awaiting_perform, hany, Bool.or_true]

/-! ### A run -/

/-- The statuses that find a send in a run: the first of those reported for each operation. -/
theorem matched_of_prompt {outstanding : Nat} (steps : List Step)
    (h : Prompt outstanding (s.run l steps).1) :
    (fates (s.run l steps).1).map StatusFate.isMatched
      = attribution s.awaiting outstanding
        ++ (sendings (s.run l steps).1).flatMap fun x => attribution true x.accepted := by
  -- An operation begins with nothing outstanding, so it does not matter whether the session still
  -- waits for a status of an earlier one.
  induction steps generalizing s l outstanding with
  | nil =>
    cases h
    rfl
  | cons x rest ih =>
    rw [run_cons] at h ⊢
    cases x with
    | send wait answers operation =>
      obtain _ | ⟨_, hrest⟩ | _ := h
      have hmatched := ih _ _ hrest
      have hfirst := s.attribution_perform (l.later wait answers) operation
      exact hmatched.trans (congrArg (· ++ _) hfirst)
    | status wait =>
      rw [step_status] at h ⊢
      obtain _ | _ | ⟨_, _, hrest⟩ := h
      obtain ⟨hmatched, hcleared⟩ := s.isMatched_status (l.clock + wait)
      have hlater := ih _ _ hrest
      rw [hcleared, attribution_false] at hlater
      exact congr (congrArg List.cons hmatched) hlater

/-- Of some frames, all are accepted if the last one is, and not all otherwise. -/
theorem Dispatched.accepted_cases {ask : Dispatch → Call} {frames : List Dispatch}
    {sent : List Transmission} {result : Except Failure Unit}
    (h : Dispatched ask frames sent result) :
    (result = .ok () ∧ sent.countP Transmission.succeeded = frames.length)
      ∨ (result ≠ .ok () ∧ sent.countP Transmission.succeeded < frames.length) := by
  induction h with
  | done => exact .inl ⟨rfl, rfl⟩
  | failed frames failure _ hfailed =>
    refine .inr ⟨fun hok => (nomatch hok), ?_⟩
    rw [List.countP_cons_of_neg (by rw [hfailed]; exact Bool.false_ne_true)]
    exact Nat.succ_pos _
  | sent _ hsucceeded _ ih =>
    rw [List.countP_cons_of_pos hsucceeded, List.length_cons]
    rcases ih with ⟨hok, hall⟩ | ⟨hfailed, hsome⟩
    · exact .inl ⟨hok, congrArg (· + 1) hall⟩
    · exact .inr ⟨hfailed, Nat.succ_lt_succ hsome⟩

/-- An operation has more than one frame accepted just if it is a beacon that succeeds without being
suppressed. -/
theorem two_accepted_iff (operation : Operation) :
    let sent := l.transmissions (operation.perform s l).2.2
    1 < sent.countP Transmission.succeeded
      ↔ (∃ sync, operation = .beacon sync) ∧ (operation.perform s l).1 = .ok () ∧ sent ≠ [] := by
  intro sent
  rcases operation.perform_cases s l with
    ⟨-, -, hsent⟩ | ⟨-, failure, -, hsent⟩ | ⟨-, frames, scratch, hplan, -, hdispatched, -⟩
  · simp [sent, hsent]
  · simp [sent, hsent]
  · have hsome : sent ≠ [] := hdispatched.ne_nil (operation.plan_ne_nil s hplan)
    have haccepted := @Dispatched.accepted_cases s.ask frames sent _ hdispatched
    rcases operation.length_plan s hplan with ⟨hbeacon, htwo⟩ | ⟨hother, hone⟩
    · rcases haccepted with ⟨hok, hall⟩ | ⟨hfailed, hfew⟩
      · exact ⟨fun _ => ⟨hbeacon, hok, hsome⟩, fun _ => by omega⟩
      · exact ⟨fun _ => by omega, fun h => absurd h.2.1 hfailed⟩
    · have hle : sent.countP Transmission.succeeded ≤ 1 := by
        rcases haccepted with ⟨-, hall⟩ | ⟨-, hfew⟩ <;> omega
      exact ⟨fun h => by omega, fun h => absurd h.1 hother⟩

/-- What holds of every operation holds of all operations of a run. -/
theorem forall_mem_sendings_run {P : Sending → Prop} (steps : List Step)
    (h : ∀ (s : Session) (l : Link) (operation : Operation),
      P ⟨l.clock, operation, (operation.perform s l).1,
        l.transmissions (operation.perform s l).2.2⟩) :
    ∀ x ∈ sendings (s.run l steps).1, P x := by
  induction steps generalizing s l with
  | nil => exact fun x hx => absurd hx List.not_mem_nil
  | cons x rest ih =>
    rw [run_cons]
    cases x with
    | send wait answers operation => exact List.forall_mem_cons.2 ⟨h _ _ _, ih _ _⟩
    | status wait => exact ih _ _

/-- In a run where each accepted frame is reported once and before the next operation, the first
status of each operation finds its send, and no other does. So all do just if no operation had more
than one frame accepted, which is what happens when a beacon succeeds without being suppressed. -/
theorem statuses_matched_of_prompt (first : Link) (steps : List Step)
    (h : Prompt 0 (s.run first steps).1) :
    let records := (s.run first steps).1
    ((fates records).map StatusFate.isMatched
        = (sendings records).flatMap fun x => attribution true x.accepted)
      ∧ ((∀ fate ∈ fates records, fate.isMatched = true) ↔ ∀ x ∈ sendings records, x.accepted ≤ 1)
      ∧ ∀ x ∈ sendings records, 1 < x.accepted
        ↔ (∃ sync, x.operation = .beacon sync) ∧ x.result = .ok () ∧ x.sent ≠ [] := by
  intro records
  have hmatched : (fates records).map StatusFate.isMatched
      = (sendings records).flatMap fun x => attribution true x.accepted :=
    s.matched_of_prompt first steps h
  refine ⟨hmatched, ?_, s.forall_mem_sendings_run first steps two_accepted_iff⟩
  calc (∀ fate ∈ fates records, fate.isMatched = true)
      ↔ ∀ found ∈ (fates records).map StatusFate.isMatched, found = true := by
        rw [List.forall_mem_map]
    _ ↔ ∀ x ∈ sendings records, ∀ found ∈ attribution true x.accepted, found = true := by
        rw [hmatched, List.forall_mem_flatMap]
    _ ↔ ∀ x ∈ sendings records, x.accepted ≤ 1 :=
        forall₂_congr fun x _ => all_attribution_iff x.accepted

/-- A session of an interface of which nothing else is known. -/
def blankSession : Session :=
  start .blank ⟨2437, 20, 20, 30⟩

/-- A frame is sent and its status arrives; then a beacon is sent and two statuses arrive. -/
def mixedSteps : List Step :=
  [.send 0 [] (.raw [0xD0, 0x00] 2437 20), .status 1000,
    .send 200000 [] (.beacon true), .status 1000, .status 1000]

theorem prompt_mixedSteps : Prompt 0 (blankSession.run (.start 0 []) mixedSteps).1 :=
  .sending _ (.status _ _ (.sending _ (.status _ _ (.status _ _ .done))))

theorem fates_mixedSteps :
    fates (blankSession.run (.start 0 []) mixedSteps).1 = [.onTime, .onTime, .unmatched] := by
  decide +kernel

/-- In this run some operation had more than one frame accepted. -/
theorem statuses_matched_of_prompt_mixed :
    let records := (blankSession.run (.start 0 []) mixedSteps).1
    Prompt 0 records
      ∧ [true, true, false] = (sendings records).flatMap (fun x => attribution true x.accepted)
      ∧ ∃ x ∈ sendings records, (∃ sync, x.operation = .beacon sync) ∧ x.result = .ok () := by
  intro records
  obtain ⟨hmatched, hall, hpair⟩ :=
    blankSession.statuses_matched_of_prompt (.start 0 []) mixedSteps prompt_mixedSteps
  rw [fates_mixedSteps] at hmatched hall
  refine ⟨prompt_mixedSteps, hmatched, ?_⟩
  have hlost : ¬ ∀ x ∈ sendings records, x.accepted ≤ 1 := mt hall.2 (by decide)
  simp only [Classical.not_forall, Nat.not_le] at hlost
  obtain ⟨x, hx, htwo⟩ := hlost
  obtain ⟨hbeacon, hok, -⟩ := (hpair x hx).1 htwo
  exact ⟨x, hx, hbeacon, hok⟩

/-- It is not so that all statuses find a send whenever each accepted frame is reported once and
before the next operation. -/
theorem not_all_statuses_matched :
    ¬ ∀ (i : Interface) (settings : SendSettings) (first : Link) (steps : List Step),
      Prompt 0 ((start i settings).run first steps).1 →
      ∀ fate ∈ fates ((start i settings).run first steps).1, fate ≠ .unmatched := by
  intro hall
  apply hall .blank ⟨2437, 20, 20, 30⟩ (.start 0 []) mixedSteps prompt_mixedSteps .unmatched
  · have hfates := fates_mixedSteps
    rw [blankSession] at hfates
    rw [hfates]
    decide
  · rfl

end Session

end NeighborAwareness
