import NeighborAwareness.Netlink.Mailbox

/-!
# Exchanges

Whoever sent a request reads messages until the request is settled. Messages of other requests may
come in between; they are passed over, and a late rejection among them is noted.

## Main definitions

* `Judgement`, `judge` : what a message means for a request.
* `Mailbox.settle` : reads until a request is settled.
-/

namespace NeighborAwareness

/-- What a message means for a request. -/
inductive Judgement (α : Type) where
  /-- It is part of the answer. -/
  | content (a : α)
  /-- It belongs to another request, perhaps with something to note. -/
  | stale (notes : List Note)
  /-- The answer is complete. -/
  | settled
  /-- The request was rejected. -/
  | rejected (code : Int32)
  deriving DecidableEq, Repr

/-- What a message means for the request `sequence`. A rejection belongs to the request it repeats,
every other message to the one in its header. -/
def judge {α : Type} (sequence : UInt32) (m : Message α) : Judgement α :=
  match m.body with
  | .rejected code rejected =>
    if rejected = sequence then .rejected code else .stale [.lateError rejected code]
  | .content a => if m.header.sequence = sequence then .content a else .stale []
  | .acknowledged | .finished => if m.header.sequence = sequence then .settled else .stale []

/-- Reads until the request `sequence` is settled or there is nothing to read; `take` adds the parts
of the answer to what is already known, and may refuse one. -/
def Mailbox.settle {α β : Type} (content : ContentReader α) (sequence : UInt32) (request : String)
    (take : β → α → Except Failure β) (known : β) (m : Mailbox) :
    Except Failure β × List Note × Mailbox :=
  match h : m.receive content with
  | (.nothing, m) => (.ok known, [], m)
  | (.broken failure, m) => (.error failure, [], m)
  | (.message message, after) =>
    have := Mailbox.backlog_receive h
    match judge sequence message with
    | .settled => (.ok known, [], after)
    | .rejected code => (.error (.of (.kernel code request)), [.requestFailed request code], after)
    | .stale notes =>
      let (result, more, m) := after.settle content sequence request take known
      (result, notes ++ more, m)
    | .content a =>
      match take known a with
      | .error failure => (.error failure, [], after)
      | .ok known => after.settle content sequence request take known
termination_by m.backlog

end NeighborAwareness
