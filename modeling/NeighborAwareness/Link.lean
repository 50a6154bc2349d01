import NeighborAwareness.Nl80211.Attribute
import NeighborAwareness.Note

/-!
# The request link

Everything asked of the radio interface goes through one link. A link holds the answers to the
calls still to be made, the clock that the calls advance, and what has been called and noted so
far. Calls that find no answer prepared are granted with nothing in reply.

## Main definitions

* `Answer` : how one call is answered.
* `Call` : one call.
* `Link` : the link, with `Link.execute`, `Link.send`, `Link.subscribe` and `Link.bringUp`.
* `Transmission`, `Link.transmissions` : the calls on the way from one link to another, with what
  came of them.
-/

namespace NeighborAwareness

/-- How the link answers one call. -/
structure Answer where
  /-- How long the call takes, in microseconds. -/
  took : Nat
  failure : Option Failure
  /-- The messages in reply. -/
  rows : List (List Attribute)
  /-- The sequence number the call goes out under, if not the next one. -/
  sequence : Option UInt32
  deriving DecidableEq, Repr

/-- Grants a call at once, with nothing in reply. -/
def Answer.granted : Answer :=
  ⟨0, none, [], none⟩

/-- One call through the link. -/
inductive Call where
  /-- A request whose replies are awaited. -/
  | execute (command : Command) (attributes : List Attribute) (dump : Bool) (reply : Command)
  /-- A request that nobody waits for. -/
  | send (command : Command) (attributes : List Attribute)
  /-- A request for events, of which only the acceptance is awaited. -/
  | subscribe (command : Command) (attributes : List Attribute)
  | bringUp (index : UInt32)
  deriving DecidableEq, Repr

/-- The link to the radio interface. -/
structure Link where
  answers : List Answer
  /-- Microseconds since the program began. -/
  clock : Nat
  /-- The Unix second in which the program began. -/
  epoch : Int
  lastSequence : UInt32
  /-- The calls made, each with the time at which it was made. -/
  calls : List (Nat × Call)
  notes : List Note
  deriving DecidableEq, Repr

namespace Link

/-- Microseconds in a second. -/
def second : Nat := 1000000

/-- A link through which nothing has been called. -/
def start (epoch : Int) (answers : List Answer) : Link :=
  ⟨answers, 0, epoch, 0, [], []⟩

/-- The link after notes were taken. -/
def noted (l : Link) (notes : List Note) : Link :=
  { l with notes := l.notes ++ notes }

/-- The link with new answers in the place of those left over, and nothing called or noted. -/
def prepared (l : Link) (answers : List Answer) : Link :=
  { l with answers, calls := [], notes := [] }

/-- The link at `time`, or as it is if that is past. -/
def waitUntil (l : Link) (time : Nat) : Link :=
  { l with clock := max l.clock time }

/-- The Unix second by the wall clock, zero before the Unix epoch. -/
def wallSeconds (l : Link) : UInt64 :=
  UInt64.ofNat (Int.fdiv (l.epoch * second + l.clock) second).toNat

/-! ### Calls -/

/-- Makes a call: the answer, and the link when the call returns. -/
def take (l : Link) (call : Call) : Answer × Link :=
  let answer := l.answers.headD .granted
  (answer,
    { l with
      answers := l.answers.tail
      clock := l.clock + answer.took
      calls := l.calls ++ [(l.clock, call)] })

/-- A request: its replies, or the failure. -/
def execute (l : Link) (command : Command) (attributes : List Attribute) (dump : Bool)
    (reply : Command) : Except Failure (List (List Attribute)) × Link :=
  let (answer, l) := l.take (.execute command attributes dump reply)
  match answer.failure with
  | some failure => (.error failure, l)
  | none => (.ok answer.rows, l)

/-- The sequence number of a call that is answered, or its failure. Only calls that succeed use a
number up. -/
def number (l : Link) (answer : Answer) : Except Failure UInt32 × Link :=
  match answer.failure with
  | some failure => (.error failure, l)
  | none =>
    let sequence := answer.sequence.getD (l.lastSequence + 1)
    (.ok sequence, { l with lastSequence := sequence })

/-- A request that nobody waits for. -/
def send (l : Link) (command : Command) (attributes : List Attribute) :
    Except Failure UInt32 × Link :=
  let (answer, l) := l.take (.send command attributes)
  l.number answer

/-- A request for events. -/
def subscribe (l : Link) (command : Command) (attributes : List Attribute) :
    Except Failure UInt32 × Link :=
  let (answer, l) := l.take (.subscribe command attributes)
  l.number answer

/-- Brings an interface up. -/
def bringUp (l : Link) (index : UInt32) : Except Failure Unit × Link :=
  let (answer, l) := l.take (.bringUp index)
  match answer.failure with
  | some failure => (.error failure, l)
  | none => (.ok (), l)

theorem calls_take (l : Link) (call : Call) :
    (l.take call).2.calls = l.calls ++ [(l.clock, call)] := rfl

end Link

/-! ### Transmissions -/

/-- One call through a link, and what came of it. -/
structure Transmission where
  began : Nat
  took : Nat
  call : Call
  /-- The sequence number that the call went out under, or why it failed. -/
  outcome : Except Failure UInt32

/-- Whether the link accepted it. -/
def Transmission.succeeded (t : Transmission) : Bool :=
  t.outcome.isOk

/-- When the call was over. -/
def Transmission.returned (t : Transmission) : Nat :=
  t.began + t.took

namespace Link

/-- The calls in `calls`, made through `l` one after the other, and what comes of them. -/
def replay (l : Link) : List (Nat × Call) → List Transmission
  | [] => []
  | (began, call) :: calls =>
    let (answer, l) := l.take call
    let (outcome, l) := l.number answer
    ⟨began, answer.took, call, outcome⟩ :: l.replay calls

/-- The transmissions made on the way from `l` to `after`. -/
def transmissions (l after : Link) : List Transmission :=
  l.replay (after.calls.drop l.calls.length)

end Link

end NeighborAwareness
