import NeighborAwareness.Bytes.Basic

/-!
# UTF-8 text

Names arrive as octets that should be UTF-8. A single machine reads them octet by octet; what it
reports are pieces, each a character or a sequence that broke off. Strict reading refuses broken
sequences, lenient reading shows each of them as one replacement character.

A broken sequence ends before the first octet that cannot continue it, so it is a longest start of
some character, and that octet is looked at again as the beginning of the next piece.

## Main definitions

* `Utf8.encode` : the octets of a text.
* `Utf8.pieces` : the characters and broken sequences of an octet string.
* `Utf8.decode?` : the text of well formed octets.
* `Utf8.decodeLenient` : the text of any octets.
-/

namespace NeighborAwareness.Utf8

/-- The octets of a text. -/
def encode (text : String) : Bytes :=
  text.toList.flatMap String.utf8EncodeChar

/-- A character whose first octets have been read: how many more it needs, the range of the next
one, and the bits collected so far. -/
structure Pending where
  owed : Nat
  low : UInt8
  high : UInt8
  bits : Nat
  deriving DecidableEq, Repr

/-- What an octet string is made of: characters, and `none` for a broken sequence. -/
abbrev Piece := Option Char

/-- The effect of an octet where a character may begin. -/
def begin (b : UInt8) : List Piece × Option Pending :=
  if b < 0x80 then ([some (Char.ofNat b.toNat)], none)
  else if b < 0xC2 then ([none], none)
  else if b < 0xE0 then ([], some ⟨1, 0x80, 0xBF, b.toNat - 0xC0⟩)
  else if b = 0xE0 then ([], some ⟨2, 0xA0, 0xBF, 0⟩)
  else if b = 0xED then ([], some ⟨2, 0x80, 0x9F, 0xD⟩)
  else if b < 0xF0 then ([], some ⟨2, 0x80, 0xBF, b.toNat - 0xE0⟩)
  else if b = 0xF0 then ([], some ⟨3, 0x90, 0xBF, 0⟩)
  else if b < 0xF4 then ([], some ⟨3, 0x80, 0xBF, b.toNat - 0xF0⟩)
  else if b = 0xF4 then ([], some ⟨3, 0x80, 0x8F, 4⟩)
  else ([none], none)

/-- The effect of an octet after `state`: the pieces it completes, and what is pending then. -/
def step (state : Option Pending) (b : UInt8) : List Piece × Option Pending :=
  match state with
  | none => begin b
  | some p =>
    if p.low ≤ b ∧ b ≤ p.high then
      let bits := p.bits * 64 + (b.toNat - 0x80)
      if p.owed ≤ 1 then ([some (Char.ofNat bits)], none)
      else ([], some ⟨p.owed - 1, 0x80, 0xBF, bits⟩)
    else
      let (made, next) := begin b
      (none :: made, next)

/-- The pieces of an octet string that follows `state`. -/
def run : Option Pending → Bytes → List Piece
  | none, [] => []
  | some _, [] => [none]
  | state, b :: rest =>
    let (made, next) := step state b
    made ++ run next rest

/-- The characters and broken sequences of an octet string, in order. -/
def pieces (bytes : Bytes) : List Piece :=
  run none bytes

/-- The text of well formed octets, nothing when a sequence is broken. -/
def decode? (bytes : Bytes) : Option String :=
  ((pieces bytes).mapM id).map String.ofList

/-- Stands for a broken sequence. -/
def replacement : Char := '\uFFFD'

/-- The text of any octets, each broken sequence as one replacement character. -/
def decodeLenient (bytes : Bytes) : String :=
  String.ofList ((pieces bytes).map fun piece => piece.getD replacement)

end NeighborAwareness.Utf8
