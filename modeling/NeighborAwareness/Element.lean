import NeighborAwareness.Bytes.LittleEndian
import NeighborAwareness.Failure

/-!
# Element lists

An element is an identifier, a 16 bit length and that many octets. A list of elements is their
concatenation, with nothing before, between or after them.

A list is read in two ways that have to agree: `ElementList.ofBytes` walks the octets once and
refuses all of them if any element is malformed, and `ElementList.toList` walks accepted octets to
hand the elements out.

## Main definitions

* `Element`, `Element.encode`, `Element.encodeAll` : an element and its octets.
* `Element.append`, `Element.write` : the same behind octets that are there, as a function and as
  a program that changes them.
* `Element.split` : the element in front of octets, and what follows it.
* `ElementList.ofBytes`, `ElementList.toList` : checked octets and their elements.
* `ElementList.next` : one step of an iteration.
* `Element.split?`, `ElementList.walk?` : splitting and walking with a check of every range.

## Main results

* `Element.length_split` : splitting an element off leaves fewer octets.
* `Element.split?_eq` : no part of an element is out of range.
-/

namespace NeighborAwareness

/-- One element of a list. -/
structure Element where
  id : UInt8
  data : Bytes
  deriving DecidableEq, Repr

namespace Element

/-- The identifier and the two length octets. -/
def headerLength : Nat := 3

/-- The largest length the two length octets can say. -/
def maxData : Nat := 0xFFFF

/-- The octets of an element. Data too long for the length field is refused. -/
def encode (e : Element) : Except Failure Bytes :=
  if e.data.length ≤ maxData then
    .ok (e.id :: LittleEndian.encode 2 e.data.length ++ e.data)
  else
    .error (.of (.payloadTooLarge e.data.length maxData))

/-- Whether the data does not fit the length field. -/
def isTooLong (e : Element) : Bool :=
  maxData < e.data.length

/-- The failure to encode an element whose data does not fit. -/
def tooLong (e : Element) : Failure :=
  .of (.payloadTooLarge e.data.length maxData)

/-- Writes an element behind the octets that are there, after a look at its length. -/
def write (e : Element) : ExceptT Failure (StateM Bytes) Unit := do
  if e.isTooLong then throw e.tooLong
  modify (· ++ [e.id])
  modify (· ++ LittleEndian.encode 2 e.data.length)
  modify (· ++ e.data)

/-- `out` followed by the octets of an element. -/
def append (out : Bytes) (e : Element) : Except Failure Bytes :=
  (e.encode).map (out ++ ·)

/-- The octets of a list of elements, or the failure of the first that has none. -/
def encodeAll : List Element → Except Failure Bytes
  | [] => .ok []
  | e :: rest => do
    let front ← e.encode
    let back ← encodeAll rest
    return front ++ back

/-- The element in front of `bytes` and the octets after it. -/
def split (bytes : Bytes) : Except Failure (Element × Bytes) :=
  match bytes with
  | id :: low :: high :: body =>
    let declared := LittleEndian.decode [low, high]
    let data := body.take declared
    if data.length = declared then .ok (⟨id, data⟩, body.drop declared)
    else .error (.of (.truncatedElement id declared body.length))
  | short => .error (.of (.shortElement short.length))

/-- Splitting an element off leaves fewer octets. -/
theorem length_split {bytes rest : Bytes} {e : Element} (h : split bytes = .ok (e, rest)) :
    rest.length < bytes.length := by
  unfold split at h
  split at h
  · dsimp only at h
    split at h
    · simp only [Except.ok.injEq, Prod.mk.injEq] at h
      rw [← h.2]
      simp only [List.length_drop, List.length_cons]
      omega
    · simp at h
  · simp at h

/-! ### With a check of every range -/

/-- The element in front of octets, and the octets after it. -/
def split? (bytes : Bytes) : Option (Except Failure (Element × Bytes)) :=
  if bytes.length < headerLength then some (.error (.of (.shortElement bytes.length)))
  else do
    let id ← bytes[0]?
    let low ← bytes[1]?
    let high ← bytes[2]?
    let body ← Bytes.slice? bytes headerLength bytes.length
    let declared := LittleEndian.decode [low, high]
    if body.length < declared then
      return .error (.of (.truncatedElement id declared body.length))
    else
      let data ← Bytes.slice? body 0 declared
      let rest ← Bytes.slice? body declared body.length
      return .ok (⟨id, data⟩, rest)

/-- No part of an element is out of range. -/
theorem split?_eq (bytes : Bytes) : split? bytes = some (split bytes) := by
  match bytes with
  | [] => rfl
  | [_] => rfl
  | [_, _] => rfl
  | id :: low :: high :: body =>
    have hlength : ¬ (id :: low :: high :: body).length < headerLength := by
      rw [List.length_cons, List.length_cons, List.length_cons, headerLength]
      omega
    have hbody : Bytes.slice? (id :: low :: high :: body) headerLength
        (id :: low :: high :: body).length = some body :=
      Bytes.slice?_back (Nat.le_of_not_lt hlength)
    simp only [split?, if_neg hlength, hbody, List.getElem?_cons_zero, List.getElem?_cons_succ,
      Option.bind_eq_bind, Option.bind_some, split, List.length_take]
    by_cases hshort : body.length < LittleEndian.decode [low, high]
    · rw [if_pos hshort, if_neg (by omega)]
      rfl
    · rw [if_neg hshort, if_pos (by omega), Bytes.slice?_front (by omega),
        Bytes.slice?_back (by omega)]
      rfl

theorem length_split? {bytes rest : Bytes} {e : Element}
    (h : split? bytes = some (.ok (e, rest))) : rest.length < bytes.length := by
  rw [split?_eq] at h
  exact length_split (Option.some.inj h)

end Element

/-- Octets that were found to be a list of elements. -/
structure ElementList where
  bytes : Bytes
  deriving DecidableEq, Repr

namespace ElementList

/-- The failure of the first malformed element, none when all of `bytes` is elements. -/
def check (bytes : Bytes) : Option Failure :=
  if bytes.isEmpty then none
  else
    match h : Element.split bytes with
    | .error failure => some failure
    | .ok (_, rest) =>
      have := Element.length_split h
      check rest
termination_by bytes.length

/-- Accepts octets that are a list of elements, all or nothing. -/
def ofBytes (bytes : Bytes) : Except Failure ElementList :=
  match check bytes with
  | none => .ok ⟨bytes⟩
  | some failure => .error failure

/-- The elements at the front of `bytes`, up to the first malformed one. -/
def elements (bytes : Bytes) : List Element :=
  if bytes.isEmpty then []
  else
    match h : Element.split bytes with
    | .error _ => []
    | .ok (e, rest) =>
      have := Element.length_split h
      e :: elements rest
termination_by bytes.length

/-- A walk over octets, element by element: the elements, and the failure that ended it, if one
did. -/
def walk? (bytes : Bytes) : Option (List Element × Option Failure) :=
  if bytes.isEmpty then some ([], none)
  else
    match h : Element.split? bytes with
    | none => none
    | some (.error failure) => some ([], some failure)
    | some (.ok (e, rest)) =>
      have := Element.length_split? h
      (walk? rest).map fun (es, failure) => (e :: es, failure)
termination_by bytes.length

/-- The elements, in order. -/
def toList (l : ElementList) : List Element :=
  elements l.bytes

/-- The element that an iteration hands out from the octets it has left, and what it then has
left. -/
def next (left : Bytes) : Option Element × Bytes :=
  if left.isEmpty then (none, left)
  else
    match Element.split left with
    | .error _ => (none, left)
    | .ok (e, rest) => (some e, rest)

/-- How many elements there are. -/
def length (l : ElementList) : Nat :=
  l.toList.length

/-- Whether there are no elements. -/
def isEmpty (l : ElementList) : Bool :=
  l.bytes.isEmpty

end ElementList

end NeighborAwareness
