/-!
# Blank characters

The characters with the Unicode white space property, and texts without them at either end.
-/

namespace NeighborAwareness

/-- The Unicode white space property. -/
def Text.isBlank (c : Char) : Bool :=
  let n := c.toNat
  (0x09 ≤ n && n ≤ 0x0D) || n == 0x20 || n == 0x85 || n == 0xA0 || n == 0x1680
    || (0x2000 ≤ n && n ≤ 0x200A) || n == 0x2028 || n == 0x2029 || n == 0x202F
    || n == 0x205F || n == 0x3000

/-- Characters without those satisfying `p` at the end. -/
def Text.dropEnd (p : Char → Bool) (cs : List Char) : List Char :=
  (cs.reverse.dropWhile p).reverse

/-- Characters without blank ones at either end. -/
def Text.trim (cs : List Char) : List Char :=
  Text.dropEnd Text.isBlank (cs.dropWhile Text.isBlank)

end NeighborAwareness
