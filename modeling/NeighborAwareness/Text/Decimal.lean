/-!
# Decimal numerals

Numerals of ASCII digits, as they stand in settings and at the end of interface names.

## Main definitions

* `Decimal.value` : the number that digits spell.
* `Decimal.read?` : the number of a text that is digits only.
* `Decimal.split?` : the digits in front of a text.
-/

namespace NeighborAwareness.Decimal

/-- The number spelled by digits, the highest first. -/
def value (digits : List Char) : Nat :=
  digits.foldl (fun n c => 10 * n + (c.toNat - '0'.toNat)) 0

/-- The number of a text that is one or more digits and nothing else. -/
def read? (text : List Char) : Option Nat :=
  if !text.isEmpty && text.all Char.isDigit then some (value text) else none

/-- The digits in front of a text, at least one, and what follows them. -/
def split? (text : List Char) : Option (List Char × List Char) :=
  let digits := text.takeWhile Char.isDigit
  if digits.isEmpty then none else some (digits, text.dropWhile Char.isDigit)

theorem append_of_split? {text digits rest : List Char} (h : split? text = some (digits, rest)) :
    digits ++ rest = text := by
  simp only [split?] at h
  split at h
  · simp at h
  · simp only [Option.some.injEq, Prod.mk.injEq] at h
    rw [← h.1, ← h.2, List.takeWhile_append_dropWhile]

end NeighborAwareness.Decimal
