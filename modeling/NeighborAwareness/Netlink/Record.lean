import NeighborAwareness.Bytes.LittleEndian
import NeighborAwareness.Failure

/-!
# Netlink records

Netlink data is a run of records: a 16 bit length that counts the four header octets and the data,
a 16 bit type, the data, and zeros up to the next multiple of four. The two highest bits of a type
are flags and not looked at.

Two readers differ in what they demand. Inside a message every record must be there with its
padding. Inside an attribute the padding of the last record may be cut short, and up to three
octets may be left over.

## Main definitions

* `Record`, `Record.encode` : a record and its octets.
* `Record.readAll?` : records inside a message.
* `Record.nested` : records inside an attribute.

## Main results

* `Record.length_split` : splitting a record off leaves fewer octets.
* `Record.foldl_latest` : of what is told repeatedly, the last counts.
-/

namespace NeighborAwareness

/-- A typed run of octets. -/
structure Record where
  type : UInt16
  data : Bytes
  deriving DecidableEq, Repr

namespace Record

/-- Octets of the length and the type. -/
def headerLength : Nat := 4

/-- The next multiple of four. -/
def aligned (n : Nat) : Nat :=
  (n + 3) / 4 * 4

/-- A type without its two flags. -/
def plainType (n : Nat) : UInt16 :=
  UInt16.ofNat n &&& 0x3FFF

/-- The octets of a record. The length field has 16 bits and wraps. -/
def encode (r : Record) : Bytes :=
  let length := headerLength + r.data.length
  LittleEndian.encode 2 length ++ LittleEndian.encode 2 r.type.toNat ++ r.data
    ++ List.replicate (aligned length - length) 0

/-- The record in front of `bytes` with its declared length, and the octets behind its data. The
failure names type, declared length and octets left. -/
def split (bytes : Bytes) : Except Cause (Option (Record × Nat × Bytes)) :=
  match bytes with
  | l0 :: l1 :: t0 :: t1 :: body =>
    let declared := LittleEndian.decode [l0, l1]
    let type := plainType (LittleEndian.decode [t0, t1])
    let data := body.take (declared - headerLength)
    if headerLength ≤ declared ∧ data.length = declared - headerLength then
      .ok (some (⟨type, data⟩, declared, body.drop (declared - headerLength)))
    else .error (.nestedOverrun type declared bytes.length)
  | _ => .ok none

/-- Splitting a record off leaves fewer octets. -/
theorem length_split {bytes rest : Bytes} {r : Record} {declared : Nat}
    (h : split bytes = .ok (some (r, declared, rest))) : rest.length < bytes.length := by
  unfold split at h
  split at h
  · dsimp only at h
    split at h
    · simp only [Except.ok.injEq, Option.some.injEq, Prod.mk.injEq] at h
      rw [← h.2.2]
      simp only [List.length_drop, List.length_cons]
      omega
    · simp at h
  · simp at h

/-! ### Learning from records -/

/-- Whoever is told something again and again knows in the end what the last record told that told
anything. -/
theorem foldl_latest {σ β : Type} {learn : σ → Record → σ} {known : σ → Option β}
    {tells : Record → Option β} (h : ∀ s r, known (learn s r) = (tells r).or (known s)) (s : σ)
    (records : List Record) :
    known (records.foldl learn s) = ((records.filterMap tells).getLast?).or (known s) := by
  induction records generalizing s with
  | nil => rfl
  | cons r records ih =>
    rw [List.foldl_cons, ih, h]
    cases htells : tells r with
    | none => rw [List.filterMap_cons_none htells, Option.none_or]
    | some b =>
      rw [List.filterMap_cons_some htells, List.getLast?_cons]
      cases (records.filterMap tells).getLast? <;> rfl

/-! ### Records inside a message -/

/-- The records that octets are, nothing when the last one or its padding is not all there. -/
def readAll? (bytes : Bytes) : Option (List Record) :=
  if bytes.isEmpty then some []
  else
    match h : split bytes with
    | .ok (some (r, declared, rest)) =>
      let padding := aligned declared - declared
      if (rest.take padding).length = padding then
        have := length_split h
        (readAll? (rest.drop padding)).map (r :: ·)
      else none
    | _ => none
termination_by bytes.length
decreasing_by
  simp only [List.length_drop]
  omega

/-! ### Records inside an attribute -/

/-- The records of an attribute, or the first that claims a wrong length. -/
def nested (bytes : Bytes) : Except Cause (List Record) :=
  match h : split bytes with
  | .error cause => .error cause
  | .ok none => .ok []
  | .ok (some (r, declared, rest)) =>
    have := length_split h
    (nested (rest.drop (aligned declared - declared))).map fun more => r :: more
termination_by bytes.length
decreasing_by
  simp only [List.length_drop]
  omega

end Record

end NeighborAwareness
