import NeighborAwareness.Text.Utf8

/-!
# Reading UTF-8 text that was written

A character is written as one octet, or as a leading octet and up to three continuation octets. The
machine that reads octets goes through them without reporting anything broken and then reports the
character, whatever octets follow. So a text that was written reads back.

## Main results

* `Utf8.run_utf8EncodeChar` : the octets of a character are read as that character.
* `Utf8.pieces_encode_append` : the octets of a text are read as its characters.
* `Utf8.toList_decodeLenient_encode_append` : a text that was written reads back, whatever octets
  follow it.
-/

namespace NeighborAwareness.Utf8

/-! ### Leading octets -/

theorem begin_single {b : UInt8} (h : b.toNat < 0x80) :
    begin b = ([some (Char.ofNat b.toNat)], none) := by
  rw [begin, if_pos (UInt8.lt_iff_toNat_lt.2 h)]

theorem begin_pair {b : UInt8} (hlow : 0xC2 ≤ b.toNat) (hhigh : b.toNat < 0xE0) :
    begin b = ([], some ⟨1, 0x80, 0xBF, b.toNat - 0xC0⟩) := by
  simp only [begin, UInt8.lt_iff_toNat_lt, UInt8.reduceToNat]
  rw [if_neg (by omega), if_neg (by omega), if_pos hhigh]

/-- The leading octet of three. The second octet must not make the code too small, nor that of a
surrogate. -/
theorem begin_triple {b : UInt8} (hlow : 0xE0 ≤ b.toNat) (hhigh : b.toNat < 0xF0) :
    begin b = ([], some ⟨2, if b.toNat = 0xE0 then 0xA0 else 0x80,
      if b.toNat = 0xED then 0x9F else 0xBF, b.toNat - 0xE0⟩) := by
  simp only [begin, UInt8.lt_iff_toNat_lt, ← UInt8.toNat_inj, UInt8.reduceToNat]
  rw [if_neg (by omega), if_neg (by omega), if_neg (by omega)]
  by_cases hfirst : b.toNat = 0xE0
  · simp [hfirst]
  · by_cases hsurrogate : b.toNat = 0xED
    · simp [hsurrogate]
    · simp [hfirst, hsurrogate, hhigh]

/-- The leading octet of four. The second octet must not make the code too small or too large. -/
theorem begin_quadruple {b : UInt8} (hlow : 0xF0 ≤ b.toNat) (hhigh : b.toNat < 0xF5) :
    begin b = ([], some ⟨3, if b.toNat = 0xF0 then 0x90 else 0x80,
      if b.toNat = 0xF4 then 0x8F else 0xBF, b.toNat - 0xF0⟩) := by
  simp only [begin, UInt8.lt_iff_toNat_lt, ← UInt8.toNat_inj, UInt8.reduceToNat]
  rw [if_neg (by omega), if_neg (by omega), if_neg (by omega), if_neg (by omega), if_neg (by omega),
    if_neg (by omega)]
  by_cases hfirst : b.toNat = 0xF0
  · simp [hfirst]
  · by_cases hlast : b.toNat = 0xF4
    · simp [hlast]
    · simp [hfirst, hlast, show b.toNat < 0xF4 by omega]

/-! ### Continuation octets -/

variable {low high : UInt8} {bits n : Nat}

theorem step_last (hlow : low.toNat ≤ n % 64 + 128) (hhigh : n % 64 + 128 ≤ high.toNat) :
    step (some ⟨1, low, high, bits⟩) (UInt8.ofNat (n % 64 + 128))
      = ([some (Char.ofNat (bits * 64 + n % 64))], none) := by
  have hoctet : (UInt8.ofNat (n % 64 + 128)).toNat = n % 64 + 128 := by
    rw [UInt8.toNat_ofNat']
    omega
  simp only [step, UInt8.le_iff_toNat_le, hoctet]
  rw [if_pos ⟨hlow, hhigh⟩, if_pos (Nat.le_refl 1), Nat.add_sub_cancel]

theorem step_more (owed : Nat) (hlow : low.toNat ≤ n % 64 + 128)
    (hhigh : n % 64 + 128 ≤ high.toNat) :
    step (some ⟨owed + 2, low, high, bits⟩) (UInt8.ofNat (n % 64 + 128))
      = ([], some ⟨owed + 1, 0x80, 0xBF, bits * 64 + n % 64⟩) := by
  have hoctet : (UInt8.ofNat (n % 64 + 128)).toNat = n % 64 + 128 := by
    rw [UInt8.toNat_ofNat']
    omega
  simp only [step, UInt8.le_iff_toNat_le, hoctet]
  rw [if_pos ⟨hlow, hhigh⟩, if_neg (by omega), Nat.add_sub_cancel]
  rfl

/-! ### Texts -/

theorem run_cons (state : Option Pending) (b : UInt8) (rest : Bytes) :
    run state (b :: rest) = (step state b).1 ++ run (step state b).2 rest := by
  cases state <;> rfl

/-- The octets of a character are read as that character. -/
theorem run_utf8EncodeChar (c : Char) (rest : Bytes) :
    run none (String.utf8EncodeChar c ++ rest) = some c :: run none rest := by
  have hc : Char.ofNat c.val.toNat = c := Char.ofNat_toNat c
  have hvalid : c.val.toNat < 0xD800 ∨ 0xDFFF < c.val.toNat ∧ c.val.toNat < 0x110000 := c.valid
  rw [String.utf8EncodeChar]
  generalize c.val.toNat = v at hc hvalid
  split
  · -- one octet
    have hoctet : (UInt8.ofNat v).toNat = v := by
      rw [UInt8.toNat_ofNat']
      omega
    rw [List.singleton_append, run_cons, step, begin_single (by omega), hoctet, hc]
    rfl
  · split
    · have hoctet : (UInt8.ofNat (v / 64 % 32 + 192)).toNat = v / 64 + 192 := by
        rw [UInt8.toNat_ofNat']
        omega
      have hbits : (v / 64 + 192 - 0xC0) * 64 + v % 64 = v := by omega
      rw [List.cons_append, List.singleton_append, run_cons, step,
        begin_pair (by omega) (by omega), hoctet, run_cons,
        step_last (by simp) (by simp; omega), hbits, hc]
      rfl
    · split
      · have hoctet : (UInt8.ofNat (v / 4096 % 16 + 224)).toNat = v / 4096 + 224 := by
          rw [UInt8.toNat_ofNat']
          omega
        have hbits : ((v / 4096 + 224 - 0xE0) * 64 + v / 64 % 64) * 64 + v % 64 = v := by omega
        rw [List.cons_append, List.cons_append, List.singleton_append, run_cons, step,
          begin_triple (by omega) (by omega), hoctet, run_cons,
          step_more 0 (by split <;> simp; omega) (by split <;> simp <;> omega), run_cons,
          step_last (by simp) (by simp; omega), hbits, hc]
        rfl
      · have hoctet : (UInt8.ofNat (v / 262144 % 8 + 240)).toNat = v / 262144 + 240 := by
          rw [UInt8.toNat_ofNat']
          omega
        have hbits : (((v / 262144 + 240 - 0xF0) * 64 + v / 4096 % 64) * 64 + v / 64 % 64) * 64
            + v % 64 = v := by omega
        rw [List.cons_append, List.cons_append, List.cons_append, List.singleton_append, run_cons,
          step, begin_quadruple (by omega) (by omega), hoctet, run_cons,
          step_more 1 (by split <;> simp; omega) (by split <;> simp <;> omega), run_cons,
          step_more 0 (by simp) (by simp; omega), run_cons,
          step_last (by simp) (by simp; omega), hbits, hc]
        rfl

/-- The octets of a text are read as its characters, whatever follows. -/
theorem pieces_encode_append (text : String) (rest : Bytes) :
    pieces (encode text ++ rest) = text.toList.map some ++ pieces rest := by
  rw [encode, pieces, pieces]
  induction text.toList with
  | nil => rfl
  | cons c cs ih => rw [List.flatMap_cons, List.append_assoc, run_utf8EncodeChar, ih]; rfl

/-- A text that was written reads back, whatever follows. -/
theorem toList_decodeLenient_encode_append (text : String) (rest : Bytes) :
    (decodeLenient (encode text ++ rest)).toList = text.toList ++ (decodeLenient rest).toList := by
  simp only [decodeLenient, pieces_encode_append, List.map_append, List.map_map,
    String.toList_ofList]
  exact congrArg (· ++ _) (List.map_id' text.toList)

theorem decode?_encode (text : String) : decode? (encode text) = some text := by
  have hpieces : pieces (encode text) = text.toList.map some := by
    have h := pieces_encode_append text []
    rwa [List.append_nil, pieces, pieces, run, List.append_nil] at h
  have hall (cs : List Char) : (cs.map some).mapM id = some cs := by
    induction cs with
    | nil => rfl
    | cons c cs ih => rw [List.map_cons, List.mapM_cons, ih]; rfl
  rw [decode?, hpieces, hall, Option.map_some, String.ofList_toList]

end NeighborAwareness.Utf8
