import NeighborAwareness.Capture.Monitor
import NeighborAwareness.Proofs.FirstSightings

/-!
# The loop of a capture

A monitor reads packets and processes each of them before it reads the next. Reads that are
interrupted are repeated, and any other error ends the capture. What is in a packet never does, not
even if there is nothing in it.

## Main definitions

* `Reading.packet?`, `Reading.ending?` : the packet that a read gives, and the error with which it
  ends the capture.
* `Monitor.capturesAt` : packets with the times at which they are processed.
* `Monitor.closedBy` : why a capture is closed by an error.

## Main results

* `Monitor.collect_append` : the loop goes on behind reads that do not end it.
* `Monitor.only_read_errors_end` : what is processed, and what ends the loop.
-/

namespace NeighborAwareness

namespace Reading

/-- The packet that a read gives, cut to the memory it is read into. -/
def packet? : Reading → Option Bytes
  | data octets => some (octets.take Monitor.maxPacket)
  | failed _ => none

/-- The number of the error with which a read ends the capture. -/
def ending? : Reading → Option Nat
  | data _ => none
  | failed number => if number = Errno.interrupted then none else some number

end Reading

namespace Monitor

/-! ### The loop -/

/-- Packets that come through a pipeline, each with the time at which it is processed. -/
def capturesAt (p : Pipeline) (clock : Nat → Nat) : List Bytes → List Capture
  | [] => []
  | packet :: packets => ⟨p, packet, clock 0⟩ :: capturesAt p (fun n => clock (n + 1)) packets

/-- A monitor whose reads will give `reads`. -/
def reading (m : Monitor) (reads : List Reading) : Monitor :=
  { m with socket := { m.socket with script := { m.socket.script with reads } } }

/-- Why a capture on an interface is closed by an error. -/
def closedBy (ifname : String) (number : Nat) : Failure :=
  (Failure.of (.system number)).under (.captureClosed ifname)

variable {m : Monitor} {p : Pipeline} {c : Collector} {clock : Nat → Nat}

theorem collect_of_error {failure : Failure} {next : Monitor}
    (h : m.receive = (.error failure, next)) : m.collect p c clock = (failure, [], c) := by
  rw [collect.eq_def]
  split <;> rename_i hreceive <;> rw [h] at hreceive <;> cases hreceive
  rfl

theorem collect_of_ok {packet : Bytes} {next : Monitor} (h : m.receive = (.ok packet, next)) :
    m.collect p c clock
      = let first := c.capture p packet (clock 0)
        let rest := next.collect p first.2 fun n => clock (n + 1)
        (rest.1, (⟨p, packet, clock 0⟩, first.1) :: rest.2.1, rest.2.2) := by
  rw [collect.eq_def]
  split <;> rename_i hreceive <;> rw [h] at hreceive <;> cases hreceive
  rfl

/-! ### Reads -/

theorem receive_interrupted (m : Monitor) (reads : List Reading) :
    (m.reading (.failed Errno.interrupted :: reads)).receive = (m.reading reads).receive := rfl

theorem receive_data (m : Monitor) (octets : Bytes) (reads : List Reading) :
    (m.reading (.data octets :: reads)).receive
      = (.ok (octets.take maxPacket), m.reading reads) := rfl

theorem receive_failed (m : Monitor) {number : Nat} (h : number ≠ Errno.interrupted)
    (reads : List Reading) :
    (m.reading (.failed number :: reads)).receive
      = (.error (closedBy m.ifname number), m.reading reads) := by
  have hkept : uninterrupted (.failed number :: reads) = .failed number :: reads :=
    List.dropWhile_cons_of_neg (by simpa using h)
  have hreads : uninterrupted (m.reading (.failed number :: reads)).socket.script.reads
      = .failed number :: reads := hkept
  rw [receive, hreads]
  rfl

theorem receive_nil (m : Monitor) :
    (m.reading []).receive = (.error (closedBy m.ifname Errno.networkDown), m.reading []) := rfl

theorem collect_interrupted (m : Monitor) (p : Pipeline) (c : Collector) (clock : Nat → Nat)
    (reads : List Reading) :
    (m.reading (.failed Errno.interrupted :: reads)).collect p c clock
      = (m.reading reads).collect p c clock := by
  rcases hreceive : (m.reading reads).receive with ⟨failure | packet, next⟩
  · rw [collect_of_error hreceive, collect_of_error ((m.receive_interrupted reads).trans hreceive)]
  · rw [collect_of_ok hreceive, collect_of_ok ((m.receive_interrupted reads).trans hreceive)]

/-- Behind reads that do not end it, the loop goes on with what they have left. -/
theorem collect_append (m : Monitor) (p : Pipeline) (c : Collector) (clock : Nat → Nat)
    {front : List Reading} (hfront : ∀ r ∈ front, r.ending? = none) (back : List Reading) :
    let packets := front.filterMap Reading.packet?
    let first := c.captureAll (capturesAt p clock packets)
    let rest := (m.reading back).collect p first.2 fun n => clock (n + packets.length)
    (m.reading (front ++ back)).collect p c clock = (rest.1, first.1 ++ rest.2.1, rest.2.2) := by
  induction front generalizing c clock with
  | nil => rfl
  | cons r front ih =>
    have hrest : ∀ r ∈ front, r.ending? = none :=
      fun r hr => hfront r (List.mem_cons_of_mem _ hr)
    cases r with
    | data octets =>
      rw [List.cons_append, collect_of_ok (m.receive_data octets (front ++ back))]
      dsimp only
      rw [ih _ _ hrest]
      rfl
    | failed number =>
      have hnumber : number = Errno.interrupted := by
        have hnone := hfront _ List.mem_cons_self
        simpa [Reading.ending?] using hnone
      rw [List.cons_append, hnumber, collect_interrupted, ih c clock hrest]
      rfl

theorem fst_collect (m : Monitor) (p : Pipeline) (c : Collector) (clock : Nat → Nat)
    (reads : List Reading) :
    ((m.reading reads).collect p c clock).1
      = closedBy m.ifname ((reads.findSome? Reading.ending?).getD Errno.networkDown) := by
  induction reads generalizing c clock with
  | nil => rw [collect_of_error m.receive_nil]; rfl
  | cons r reads ih =>
    cases r with
    | data octets =>
      rw [collect_of_ok (m.receive_data octets reads), List.findSome?_cons]
      exact ih _ _
    | failed number =>
      by_cases hnumber : number = Errno.interrupted
      · rw [hnumber, collect_interrupted, List.findSome?_cons]
        exact ih c clock
      · rw [collect_of_error (m.receive_failed hnumber reads), List.findSome?_cons, Reading.ending?,
          if_neg hnumber]
        rfl

theorem collect_filter_interrupted (m : Monitor) (p : Pipeline) (c : Collector)
    (clock : Nat → Nat) (reads : List Reading) :
    (m.reading (reads.filter (· ≠ .failed Errno.interrupted))).collect p c clock
      = (m.reading reads).collect p c clock := by
  induction reads generalizing c clock with
  | nil => rfl
  | cons r reads ih =>
    cases r with
    | data octets =>
      rw [List.filter_cons_of_pos (by simp), collect_of_ok (m.receive_data octets _),
        collect_of_ok (m.receive_data octets reads)]
      dsimp only
      rw [ih]
    | failed number =>
      by_cases hnumber : number = Errno.interrupted
      · rw [hnumber, List.filter_cons_of_neg (by simp), collect_interrupted, ih]
      · rw [List.filter_cons_of_pos (by simpa using hnumber),
          collect_of_error (m.receive_failed hnumber _),
          collect_of_error (m.receive_failed hnumber reads)]

/-! ### What is captured -/

/-- Only an error that is no interruption ends a capture. Of any reads, the loop processes just the
packets before the first such error, each once and in their order, as if they were processed one
after the other; then it reports that the capture on its interface was closed by that error. When
nothing is left to read, the interface is reported to be down. Interruptions make no difference,
wherever they come, and what ends the loop has nothing to do with what is in a packet. A capture
while the clock stands still, of which events are told at once, is such a loop. -/
theorem only_read_errors_end (m : Monitor) (p : Pipeline) (c : Collector) (clock : Nat → Nat) :
    let run := fun reads => (m.reading reads).collect p c clock
    let processed := fun reads : List Reading =>
      c.captureAll (capturesAt p clock (reads.filterMap Reading.packet?))
    (∀ front number back, (∀ r ∈ front, r.ending? = none) → number ≠ Errno.interrupted →
        run (front ++ .failed number :: back)
          = ((Failure.of (.system number)).under (.captureClosed m.ifname), processed front))
      ∧ (∀ reads, (∀ r ∈ reads, r.ending? = none) →
        run reads
          = ((Failure.of (.system Errno.networkDown)).under (.captureClosed m.ifname),
            processed reads))
      ∧ (∀ reads other : List Reading, reads.filter (· ≠ .failed Errno.interrupted)
          = other.filter (· ≠ .failed Errno.interrupted) → run reads = run other)
      ∧ (∀ front octets back, (run (front ++ .data octets :: back)).1 = (run (front ++ back)).1)
      ∧ ∀ sightings time, let collected := m.collect p ⟨sightings, none⟩ fun _ => time
        m.run p sightings time
          = (collected.1, collected.2.1.map Prod.snd, collected.2.2.sightings) := by
  intro run processed
  refine ⟨fun front number back hfront hnumber => ?_, fun reads hreads => ?_,
    fun reads other hsame => ?_, fun front octets back => ?_, fun _ _ => rfl⟩
  · have hrun := m.collect_append p c clock hfront (.failed number :: back)
    simp only [collect_of_error (m.receive_failed hnumber back), List.append_nil] at hrun
    exact hrun
  · have hrun := m.collect_append p c clock hreads []
    simp only [collect_of_error m.receive_nil, List.append_nil] at hrun
    exact hrun
  · calc run reads
        = run (reads.filter (· ≠ .failed Errno.interrupted)) :=
          (m.collect_filter_interrupted p c clock reads).symm
      _ = run (other.filter (· ≠ .failed Errno.interrupted)) := by rw [hsame]
      _ = run other := m.collect_filter_interrupted p c clock other
  · simp only [run, fst_collect, List.findSome?_append, List.findSome?_cons, Reading.ending?]

/-- A read is interrupted, an empty packet comes, and then the device goes away. Only the packet is
processed, and what would have come afterwards is not read. -/
theorem only_read_errors_end_unplugged :
    let m : Monitor := ⟨"mon0", ⟨0, .idle⟩⟩
    let front := [Reading.failed Errno.interrupted, .data []]
    (∀ r ∈ front, r.ending? = none) ∧ 19 ≠ Errno.interrupted
      ∧ (m.reading (front ++ .failed 19 :: [.data [0, 0]])).collect ⟨0, []⟩ (.start none) id
        = ((Failure.of (.system 19)).under (.captureClosed "mon0"),
          [(⟨⟨0, []⟩, [], 0⟩, Pipeline.silent .undecodable)], .start none) := by
  intro m front
  have hfront : ∀ r ∈ front, r.ending? = none := by decide
  have hnumber : 19 ≠ Errno.interrupted := by decide
  obtain ⟨hrun, -⟩ := only_read_errors_end m ⟨0, []⟩ (.start none) id
  exact ⟨hfront, hnumber, hrun front 19 [.data [0, 0]] hfront hnumber⟩

end Monitor

end NeighborAwareness
