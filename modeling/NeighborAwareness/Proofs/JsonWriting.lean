import NeighborAwareness.Proofs.JsonGrammar

/-!
# Texts and numerals in JSON

A string spells a text when its parts do so character by character, each given by itself or by its
UTF-16 units. Quoted texts and decimal numerals are spellings.

## Main results

* `StringPart.characters?_eq_some_iff` : the text of a string is the one that it spells.
* `JsonValue.exists_parts_of_quote` : the quoted form of a text is a string that spells it.
* `JsonValue.isNumber_toDigits` : a decimal numeral is a number.
-/

namespace NeighborAwareness

/-! ### The texts of strings -/

namespace StringPart

/-- A character as the UTF-16 units of it. -/
def unitsOf (c : Char) : List StringPart :=
  if c.toNat < 0x10000 then [.unit (UInt16.ofNat c.toNat)]
  else [.unit (UInt16.ofNat (0xD800 + (c.toNat - 0x10000) / 0x400)),
    .unit (UInt16.ofNat (0xDC00 + (c.toNat - 0x10000) % 0x400))]

/-- The texts that string parts spell: every character stands for itself, directly or escaped, or is
given by its units. -/
inductive Spells : List StringPart → List Char → Prop
  | nil : Spells [] []
  | char {parts : List StringPart} {text : List Char} (c : Char) (h : Spells parts text) :
    Spells (.char c :: parts) (c :: text)
  | units {parts : List StringPart} {text : List Char} (c : Char) (h : Spells parts text) :
    Spells (unitsOf c ++ parts) (c :: text)

end StringPart

namespace JsonValue

open StringPart (Spells unitsOf)

variable {parts : List StringPart} {text : List Char} {u v : UInt16}

theorem isLow_iff : isLow u = true ↔ 0xDC00 ≤ u.toNat ∧ u.toNat < 0xE000 := by
  simp [isLow, UInt16.le_iff_toNat_le, UInt16.lt_iff_toNat_lt]

theorem isHigh_iff : isHigh u = true ↔ 0xD800 ≤ u.toNat ∧ u.toNat < 0xDC00 := by
  simp [isHigh, UInt16.le_iff_toNat_le, UInt16.lt_iff_toNat_lt]

theorem isValidChar_toNat (hlow : ¬isLow u = true) (hhigh : ¬isHigh u = true) :
    u.toNat.isValidChar := by
  have hbound := u.toNat_lt
  rw [isLow_iff] at hlow
  rw [isHigh_iff] at hhigh
  unfold Nat.isValidChar
  omega

theorem toNat_charOfNat {n : Nat} (h : n.isValidChar) : (Char.ofNat n).toNat = n := by
  rw [Char.ofNat, dif_pos h]
  rfl

theorem characters?_unitsOf_append (c : Char) (parts : List StringPart) :
    characters? (unitsOf c ++ parts) = (characters? parts).map (c :: ·) := by
  have hvalid : c.toNat.isValidChar := c.valid
  unfold Nat.isValidChar at hvalid
  unfold unitsOf
  split
  · rename_i hsmall
    have hunit : (UInt16.ofNat c.toNat).toNat = c.toNat := UInt16.toNat_ofNat_of_lt' hsmall
    have hlow : ¬isLow (UInt16.ofNat c.toNat) = true := by rw [isLow_iff, hunit]; omega
    have hhigh : ¬isHigh (UInt16.ofNat c.toNat) = true := by rw [isHigh_iff, hunit]; omega
    rw [List.singleton_append, characters?.eq_def]
    dsimp only
    rw [if_neg hlow, if_neg hhigh, hunit, Char.ofNat_toNat]
  · rename_i hlarge
    obtain ⟨n, hn⟩ : ∃ n, c.toNat = 0x10000 + n := ⟨c.toNat - 0x10000, by omega⟩
    rw [hn, Nat.add_sub_cancel_left]
    have hhigh : (UInt16.ofNat (0xD800 + n / 0x400)).toNat = 0xD800 + n / 0x400 :=
      UInt16.toNat_ofNat_of_lt' (by simp only [UInt16.size]; omega)
    have hlow : (UInt16.ofNat (0xDC00 + n % 0x400)).toNat = 0xDC00 + n % 0x400 :=
      UInt16.toNat_ofNat_of_lt' (by simp only [UInt16.size]; omega)
    have hopens : isHigh (UInt16.ofNat (0xD800 + n / 0x400)) = true := by
      rw [isHigh_iff, hhigh]; omega
    have hcloses : isLow (UInt16.ofNat (0xDC00 + n % 0x400)) = true := by
      rw [isLow_iff, hlow]; omega
    have hopen : ¬isLow (UInt16.ofNat (0xD800 + n / 0x400)) = true := by
      rw [isLow_iff, hhigh]; omega
    have hpaired : paired (UInt16.ofNat (0xD800 + n / 0x400)) (UInt16.ofNat (0xDC00 + n % 0x400))
        = c := by
      rw [paired, hhigh, hlow, Nat.add_sub_cancel_left, Nat.add_sub_cancel_left, Nat.add_assoc,
        Nat.div_add_mod', ← hn, Char.ofNat_toNat]
    rw [List.cons_append, List.cons_append, List.nil_append, characters?, if_neg hopen,
      if_pos hopens, if_pos hcloses, hpaired]

theorem unitsOf_ofNat (hlow : ¬isLow u = true) (hhigh : ¬isHigh u = true) :
    unitsOf (Char.ofNat u.toNat) = [.unit u] := by
  rw [unitsOf, toNat_charOfNat (isValidChar_toNat hlow hhigh), if_pos u.toNat_lt,
    UInt16.ofNat_toNat]

theorem unitsOf_paired (hhigh : isHigh u = true) (hlow : isLow v = true) :
    unitsOf (paired u v) = [.unit u, .unit v] := by
  rw [isHigh_iff] at hhigh
  rw [isLow_iff] at hlow
  obtain ⟨high, hu⟩ : ∃ n, u.toNat = 0xD800 + n := ⟨u.toNat - 0xD800, by omega⟩
  obtain ⟨low, hv⟩ : ∃ n, v.toNat = 0xDC00 + n := ⟨v.toNat - 0xDC00, by omega⟩
  have hcode : (paired u v).toNat = 0x10000 + (high * 0x400 + low) := by
    rw [paired, hu, hv, Nat.add_sub_cancel_left, Nat.add_sub_cancel_left, Nat.add_assoc]
    exact toNat_charOfNat (by unfold Nat.isValidChar; omega)
  have hdiv : (high * 0x400 + low) / 0x400 = high := by omega
  have hmod : (high * 0x400 + low) % 0x400 = low := by omega
  rw [unitsOf, hcode, if_neg (by omega), Nat.add_sub_cancel_left, hdiv, hmod, ← hu, ← hv,
    UInt16.ofNat_toNat, UInt16.ofNat_toNat]

/-- The text of a string is the one that it spells. -/
theorem characters?_eq_some_iff : characters? parts = some text ↔ Spells parts text := by
  constructor
  · intro h
    fun_induction characters? parts generalizing text with
    | case1 =>
      obtain rfl := Option.some.inj h
      exact .nil
    | case2 c rest ih =>
      obtain ⟨chars, hrest, rfl⟩ := Option.map_eq_some_iff.1 h
      exact .char c (ih hrest)
    | case4 u hlow hhigh v rest hcloses ih =>
      obtain ⟨chars, hrest, rfl⟩ := Option.map_eq_some_iff.1 h
      have hspells := Spells.units (paired u v) (ih hrest)
      rwa [unitsOf_paired hhigh hcloses] at hspells
    | case7 u rest hlow hhigh ih =>
      obtain ⟨chars, hrest, rfl⟩ := Option.map_eq_some_iff.1 h
      have hspells := Spells.units (Char.ofNat u.toNat) (ih hrest)
      rwa [unitsOf_ofNat hlow hhigh] at hspells
    | _ => cases h
  · intro h
    induction h with
    | nil => rfl
    | char c h ih => rw [characters?, ih]; rfl
    | units c h ih => rw [characters?_unitsOf_append, ih]; rfl

theorem spells_unique {other : List Char} (h : Spells parts text) (hother : Spells parts other) :
    text = other := by
  rw [← characters?_eq_some_iff] at h hother
  exact Option.some.inj (h.symm.trans hother)

/-! ### Quoted texts -/

/-- A text without control characters, quotes and backslashes spells itself. -/
theorem writtenAll_map_char (h : ∀ c ∈ text, ' ' ≤ c ∧ c ≠ '"' ∧ c ≠ '\\') :
    StringPart.WrittenAll (text.map .char) text := by
  induction text with
  | nil => exact .nil
  | cons c text ih =>
    obtain ⟨hc, hquote, hbackslash⟩ := h c List.mem_cons_self
    exact .cons (.plain hc hquote hbackslash) (ih fun d hd => h d (List.mem_cons_of_mem _ hd))

theorem spells_map_char (text : List Char) : Spells (text.map .char) text := by
  induction text with
  | nil => exact .nil
  | cons c text ih => exact .char c ih

theorem hexUnit?_octet : ∀ n < 0x20, hexUnit? '0' '0' (Hex.digit ((UInt8.ofNat n).toNat / 16))
    (Hex.digit ((UInt8.ofNat n).toNat % 16)) = some (UInt16.ofNat n) := by
  decide

theorem exists_part_of_escape (c : Char) :
    ∃ part, StringPart.Written part (escape c) ∧ (part = .char c ∨ unitsOf c = [part]) := by
  unfold escape
  split
  · exact ⟨_, .escaped (by decide), .inl rfl⟩
  · exact ⟨_, .escaped (by decide), .inl rfl⟩
  · exact ⟨_, .escaped (by decide), .inl rfl⟩
  · exact ⟨_, .escaped (by decide), .inl rfl⟩
  · exact ⟨_, .escaped (by decide), .inl rfl⟩
  · exact ⟨_, .escaped (by decide), .inl rfl⟩
  · exact ⟨_, .escaped (by decide), .inl rfl⟩
  · rename_i hquote hbackslash _ _ _ _ _
    split
    · rename_i hcontrol
      have hsmall : c.toNat < 0x20 := hcontrol
      refine ⟨.unit (UInt16.ofNat c.toNat), ?_, .inr (if_pos (by omega))⟩
      rw [Hex.encode, String.toList_ofList]
      exact .unit (hexUnit?_octet c.toNat hsmall)
    · rename_i hcontrol
      exact ⟨.char c, .plain (Char.not_lt.1 hcontrol) hquote hbackslash, .inl rfl⟩

theorem exists_parts_of_escape (text : List Char) :
    ∃ parts, StringPart.WrittenAll parts (text.flatMap escape) ∧ Spells parts text := by
  induction text with
  | nil => exact ⟨[], .nil, .nil⟩
  | cons c text ih =>
    obtain ⟨parts, hparts, hspells⟩ := ih
    obtain ⟨part, hpart, hc⟩ := exists_part_of_escape c
    refine ⟨part :: parts, .cons hpart hparts, ?_⟩
    rcases hc with rfl | hc
    · exact .char c hspells
    · have hunits := Spells.units c hspells
      rwa [hc] at hunits

/-- The quoted form of a text is a string that spells it. -/
theorem exists_parts_of_quote (text : String) :
    ∃ parts spelled, (quote text).toList = '"' :: spelled ++ ['"']
      ∧ StringPart.WrittenAll parts spelled ∧ Spells parts text.toList := by
  obtain ⟨parts, hparts, hspells⟩ := exists_parts_of_escape text.toList
  exact ⟨parts, _, String.toList_ofList, hparts, hspells⟩

/-! ### Decimal numerals -/

theorem isDigits_toDigits (n : Nat) : IsDigits (Nat.toDigits 10 n) :=
  ⟨Nat.toDigits_ne_nil, fun _ => Nat.isDigit_of_mem_toDigits (by decide) (by decide)⟩

theorem value_toDigits (n : Nat) : Decimal.value (Nat.toDigits 10 n) = n := by
  have h := @Nat.ofDigitChars_ten_toDigits n
  rwa [Nat.ofDigitChars_eq_foldl] at h

theorem head?_toDigits_ne {n : Nat} (hn : 0 < n) : (Nat.toDigits 10 n).head? ≠ some '0' := by
  induction n using Nat.strong_induction_on with
  | _ n ih =>
    obtain hsmall | hlarge := Nat.lt_or_ge n 10
    · have hdigits : ∀ m < 10, 0 < m → [m.digitChar].head? ≠ some '0' := by decide
      rw [Nat.toDigits_of_lt_base hsmall]
      exact hdigits n hsmall hn
    · have hfront := ih (n / 10) (by omega) (by omega)
      rw [Nat.toDigits_of_base_le (by decide) hlarge, List.head?_append]
      cases htext : Nat.toDigits 10 (n / 10) with
      | nil => exact absurd htext Nat.toDigits_ne_nil
      | cons c text => rwa [htext] at hfront

/-- A decimal numeral is a number. -/
theorem isNumber_toDigits (n : Nat) : IsNumber (Nat.toDigits 10 n) := by
  have hwhole : IsInteger (Nat.toDigits 10 n) := by
    obtain rfl | hn := Nat.eq_zero_or_pos n
    · exact .zero
    have hhead := head?_toDigits_ne hn
    have hdigits := isDigits_toDigits n
    cases htext : Nat.toDigits 10 n with
    | nil => exact absurd htext Nat.toDigits_ne_nil
    | cons c text =>
      rw [htext] at hhead hdigits
      exact .digits (fun hc => hhead (congrArg some hc)) hdigits
  have hunsigned := IsUnsigned.intro hwhole .absent .absent
  rw [List.append_nil, List.append_nil] at hunsigned
  exact .positive hunsigned

/-! ### Lists of texts -/

theorem separated_intercalate {α ι : Type} {Spelled : α → List Char → Prop} {item : ι → α}
    {spelling : ι → List Char} (h : ∀ i, Spelled (item i) (spelling i)) {indices : List ι}
    (hne : indices ≠ []) :
    Separated Spelled (indices.map item) ([','].intercalate (indices.map spelling)) := by
  have hspace := isSpaces_nil
  induction indices with
  | nil => exact absurd rfl hne
  | cons i indices ih =>
    cases indices with
    | nil =>
      have hlast := Separated.last hspace (h i) hspace
      rw [List.nil_append, List.append_nil] at hlast
      rwa [List.map_singleton, List.map_singleton, List.intercalate_singleton]
    | cons k indices =>
      have hcons := Separated.cons hspace (h i) hspace (ih (List.cons_ne_nil _ _))
      rw [List.nil_append, List.append_nil] at hcons
      change Separated Spelled _ ([','].intercalate (spelling i :: spelling k :: _))
      rw [List.intercalate_cons_cons, List.append_assoc]
      exact hcons

end JsonValue

end NeighborAwareness
