import Mathlib.Data.List.TakeWhile
import NeighborAwareness.Text.Json

/-!
# The grammar of JSON texts

What a JSON text is, said without the reader: values, items and members as they may be spelled, with
space between the tokens. The reader accepts these texts and no others, and reads each as what it
spells.

## Main definitions

* `JsonValue.IsNumber` : the spellings of numbers.
* `StringPart.Written`, `StringPart.WrittenAll` : the spellings of strings.
* `JsonValue.Written`, `JsonValue.Document` : the spellings of values, and the texts of documents.

## Main results

* `JsonValue.number?_append`, `JsonValue.isNumber_of_number?` : the reader of numbers.
* `JsonValue.string?_append`, `JsonValue.writtenAll_of_string?` : the reader of strings.
* `JsonValue.readsValues`, `JsonValue.spellsValues` : the reader of values.
* `JsonValue.parse?_eq_some_iff` : a text is read as a document exactly when it spells it.
-/

namespace NeighborAwareness

/-! ### Numbers -/

namespace JsonValue

/-- One or more digits. -/
def IsDigits (text : List Char) : Prop :=
  text ≠ [] ∧ ∀ c ∈ text, c.isDigit = true

/-- The integers without sign; only zero begins with a zero. -/
inductive IsInteger : List Char → Prop
  | zero : IsInteger ['0']
  | digits {c : Char} {text : List Char} (hc : c ≠ '0') (h : IsDigits (c :: text)) :
    IsInteger (c :: text)

/-- The fractions, possibly none. -/
inductive IsFraction : List Char → Prop
  | absent : IsFraction []
  | digits {text : List Char} (h : IsDigits text) : IsFraction ('.' :: text)

/-- The exponents, possibly none. -/
inductive IsExponent : List Char → Prop
  | absent : IsExponent []
  | digits {c : Char} {sign text : List Char} (hc : c = 'e' ∨ c = 'E')
    (hsign : sign = [] ∨ sign = ['+'] ∨ sign = ['-']) (h : IsDigits text) :
    IsExponent (c :: sign ++ text)

/-- The numbers without sign. -/
inductive IsUnsigned : List Char → Prop
  | intro {whole fraction exponent : List Char} (hwhole : IsInteger whole)
    (hfraction : IsFraction fraction) (hexponent : IsExponent exponent) :
    IsUnsigned (whole ++ fraction ++ exponent)

/-- The numbers. -/
inductive IsNumber : List Char → Prop
  | positive {text : List Char} (h : IsUnsigned text) : IsNumber text
  | negative {text : List Char} (h : IsUnsigned text) : IsNumber ('-' :: text)

/-- Whether a character does not go on with a number that is complete. -/
def EndsNumber (c : Char) : Prop :=
  c.isDigit = false ∧ c ≠ '.' ∧ c ≠ 'e' ∧ c ≠ 'E'

instance (c : Char) : Decidable (EndsNumber c) :=
  inferInstanceAs (Decidable (c.isDigit = false ∧ c ≠ '.' ∧ c ≠ 'e' ∧ c ≠ 'E'))

variable {text digits rest literal : List Char}

theorem split?_append (h : IsDigits digits) (hrest : ∀ c ∈ rest.head?, c.isDigit = false) :
    Decimal.split? (digits ++ rest) = some (digits, rest) := by
  have htake : (digits ++ rest).takeWhile Char.isDigit = digits := by
    rw [List.takeWhile_append_of_pos h.2]
    cases rest with
    | nil => exact List.append_nil _
    | cons c rest => rw [List.takeWhile_cons_of_neg (by simp [hrest c rfl]), List.append_nil]
  have hdrop : (digits ++ rest).dropWhile Char.isDigit = rest := by
    rw [List.dropWhile_append_of_pos h.2]
    cases rest with
    | nil => rfl
    | cons c rest => rw [List.dropWhile_cons_of_neg (by simp [hrest c rfl])]
  have hne : digits.isEmpty = false := List.isEmpty_eq_false_iff.2 h.1
  simp only [Decimal.split?, htake, hdrop, hne, Bool.false_eq_true, if_false]

theorem isDigits_of_split? (h : Decimal.split? text = some (digits, rest)) :
    IsDigits digits ∧ text = digits ++ rest := by
  refine ⟨?_, (Decimal.append_of_split? h).symm⟩
  simp only [Decimal.split?] at h
  split at h
  · cases h
  · rename_i hne
    obtain ⟨rfl, -⟩ := Prod.mk.inj (Option.some.inj h)
    exact ⟨by simpa using hne, List.all_eq_true.1 List.all_takeWhile⟩

theorem integer?_append (h : IsInteger digits) (hrest : ∀ c ∈ rest.head?, c.isDigit = false) :
    integer? (digits ++ rest) = some (digits, rest) := by
  cases h with
  | zero => rfl
  | @digits c text hc h =>
    rw [integer?.eq_def]
    split
    · rename_i heq
      exact absurd (List.cons.inj heq).1 hc
    · exact split?_append h hrest

theorem isInteger_of_integer? (h : integer? text = some (literal, rest)) :
    IsInteger literal ∧ text = literal ++ rest := by
  unfold integer? at h
  split at h
  · obtain ⟨rfl, rfl⟩ := Prod.mk.inj (Option.some.inj h)
    exact ⟨.zero, rfl⟩
  · rename_i hzero
    obtain ⟨hdigits, rfl⟩ := isDigits_of_split? h
    cases literal with
    | nil => exact absurd rfl hdigits.1
    | cons c literal =>
      refine ⟨.digits (fun hc => hzero (literal ++ rest) ?_) hdigits, rfl⟩
      rw [hc]
      rfl

theorem fraction?_append (h : IsFraction literal)
    (hrest : ∀ c ∈ rest.head?, c.isDigit = false ∧ c ≠ '.') :
    fraction? (literal ++ rest) = some (literal, rest) := by
  cases h with
  | absent =>
    rw [List.nil_append, fraction?.eq_def]
    split
    · exact absurd rfl (hrest '.' rfl).2
    · rfl
  | digits h =>
    rw [List.cons_append, fraction?, split?_append h fun c hc => (hrest c hc).1]
    rfl

theorem isFraction_of_fraction? (h : fraction? text = some (literal, rest)) :
    IsFraction literal ∧ text = literal ++ rest := by
  unfold fraction? at h
  split at h
  · obtain ⟨⟨digits, after⟩, hsplit, heq⟩ := Option.map_eq_some_iff.1 h
    obtain ⟨rfl, rfl⟩ := Prod.mk.inj heq
    obtain ⟨hdigits, rfl⟩ := isDigits_of_split? hsplit
    exact ⟨.digits hdigits, rfl⟩
  · obtain ⟨rfl, rfl⟩ := Prod.mk.inj (Option.some.inj h)
    exact ⟨.absent, rfl⟩

theorem exponentSign_append {sign : List Char} (hsign : sign = [] ∨ sign = ['+'] ∨ sign = ['-'])
    (h : IsDigits digits) (rest : List Char) :
    exponentSign (sign ++ (digits ++ rest)) = (sign, digits ++ rest) := by
  rcases hsign with rfl | rfl | rfl
  · obtain ⟨hne, hall⟩ := h
    cases digits with
    | nil => exact absurd rfl hne
    | cons c digits =>
      have hc := hall c List.mem_cons_self
      rw [exponentSign.eq_def]
      split
      · rename_i heq
        rw [(List.cons.inj heq).1] at hc
        contradiction
      · rename_i heq
        rw [(List.cons.inj heq).1] at hc
        contradiction
      · rfl
  · rfl
  · rfl

theorem sign_of_exponentSign (text : List Char) :
    ∃ sign rest, exponentSign text = (sign, rest) ∧ text = sign ++ rest
      ∧ (sign = [] ∨ sign = ['+'] ∨ sign = ['-']) := by
  unfold exponentSign
  split
  · exact ⟨_, _, rfl, rfl, .inr (.inl rfl)⟩
  · exact ⟨_, _, rfl, rfl, .inr (.inr rfl)⟩
  · exact ⟨_, _, rfl, rfl, .inl rfl⟩

theorem exponent?_append (h : IsExponent literal) (hrest : ∀ c ∈ rest.head?, EndsNumber c) :
    exponent? (literal ++ rest) = some (literal, rest) := by
  cases h with
  | absent =>
    cases rest with
    | nil => rfl
    | cons c rest =>
      obtain ⟨-, -, he, hE⟩ := hrest c rfl
      simp [exponent?, he, hE]
  | @digits c sign text hc hsign h =>
    have hletter : (c == 'e' || c == 'E') = true := by simpa using hc
    rw [List.cons_append, List.cons_append, exponent?, if_pos hletter, List.append_assoc,
      exponentSign_append hsign h]
    dsimp only
    rw [split?_append h fun c hc => (hrest c hc).1]
    rfl

theorem isExponent_of_exponent? (h : exponent? text = some (literal, rest)) :
    IsExponent literal ∧ text = literal ++ rest := by
  unfold exponent? at h
  split at h
  · obtain ⟨rfl, rfl⟩ := Prod.mk.inj (Option.some.inj h)
    exact ⟨.absent, rfl⟩
  · rename_i c text
    split at h
    · rename_i hletter
      obtain ⟨sign, after, hsplit, rfl, hsign⟩ := sign_of_exponentSign text
      simp only [hsplit] at h
      obtain ⟨⟨digits, after⟩, hfound, heq⟩ := Option.map_eq_some_iff.1 h
      obtain ⟨rfl, rfl⟩ := Prod.mk.inj heq
      obtain ⟨hdigits, rfl⟩ := isDigits_of_split? hfound
      refine ⟨.digits (by simpa using hletter) hsign hdigits, ?_⟩
      simp only [List.cons_append, List.append_assoc]
    · obtain ⟨rfl, rfl⟩ := Prod.mk.inj (Option.some.inj h)
      exact ⟨.absent, rfl⟩

theorem head?_append_of_isFraction (h : IsFraction digits) {p : Char → Prop} (hpoint : p '.')
    (hrest : ∀ c ∈ rest.head?, p c) : ∀ c ∈ (digits ++ rest).head?, p c := by
  cases h with
  | absent => exact hrest
  | digits h =>
    rintro c hc
    obtain rfl := Option.some.inj hc
    exact hpoint

theorem head?_append_of_isExponent (h : IsExponent digits) {p : Char → Prop} (hletter : p 'e')
    (hcapital : p 'E') (hrest : ∀ c ∈ rest.head?, p c) : ∀ c ∈ (digits ++ rest).head?, p c := by
  cases h with
  | absent => exact hrest
  | digits hc hsign h =>
    rintro c' hc'
    obtain rfl := Option.some.inj hc'
    rcases hc with rfl | rfl
    · exact hletter
    · exact hcapital

theorem unsigned?_append (h : IsUnsigned literal) (hrest : ∀ c ∈ rest.head?, EndsNumber c) :
    unsigned? (literal ++ rest) = some (literal, rest) := by
  obtain ⟨hwhole, hfraction, hexponent⟩ := h
  rename_i whole fraction exponent
  have hafter : ∀ c ∈ (exponent ++ rest).head?, c.isDigit = false ∧ c ≠ '.' :=
    head?_append_of_isExponent hexponent (by decide) (by decide)
      fun c hc => ⟨(hrest c hc).1, (hrest c hc).2.1⟩
  have hbehind : ∀ c ∈ (fraction ++ (exponent ++ rest)).head?, c.isDigit = false :=
    head?_append_of_isFraction hfraction (by decide) fun c hc => (hafter c hc).1
  rw [unsigned?, List.append_assoc, List.append_assoc, integer?_append hwhole hbehind]
  simp only [Option.bind_eq_bind, Option.bind_some, fraction?_append hfraction hafter,
    exponent?_append hexponent hrest, Option.pure_def, List.append_assoc]

theorem isUnsigned_of_unsigned? (h : unsigned? text = some (literal, rest)) :
    IsUnsigned literal ∧ text = literal ++ rest := by
  simp only [unsigned?, Option.bind_eq_bind, Option.bind_eq_some_iff, Option.pure_def,
    Option.some.injEq, Prod.mk.injEq, Prod.exists] at h
  obtain ⟨whole, behind, hinteger, fraction, after, hpoint, exponent, last, hletter, rfl, rfl⟩ := h
  obtain ⟨hwhole, rfl⟩ := isInteger_of_integer? hinteger
  obtain ⟨hfraction, rfl⟩ := isFraction_of_fraction? hpoint
  obtain ⟨hexponent, rfl⟩ := isExponent_of_exponent? hletter
  exact ⟨⟨hwhole, hfraction, hexponent⟩, by simp only [List.append_assoc]⟩

theorem exists_cons_of_isUnsigned (h : IsUnsigned literal) :
    ∃ c rest, literal = c :: rest ∧ c.isDigit = true := by
  obtain ⟨hwhole, -, -⟩ := h
  cases hwhole with
  | zero => exact ⟨_, _, rfl, by decide⟩
  | digits hc h => exact ⟨_, _, rfl, h.2 _ List.mem_cons_self⟩

/-- A number is read up to where it ends. -/
theorem number?_append (h : IsNumber literal) (hrest : ∀ c ∈ rest.head?, EndsNumber c) :
    number? (literal ++ rest) = some (literal, rest) := by
  cases h with
  | positive h =>
    obtain ⟨c, after, rfl, hc⟩ := exists_cons_of_isUnsigned h
    rw [List.cons_append, number?.eq_def]
    split
    · rename_i heq
      rw [(List.cons.inj heq).1] at hc
      contradiction
    · exact unsigned?_append h hrest
  | negative h =>
    rw [List.cons_append, number?, unsigned?_append h hrest]
    rfl

/-- What is read as a number is one. -/
theorem isNumber_of_number? (h : number? text = some (literal, rest)) :
    IsNumber literal ∧ text = literal ++ rest := by
  unfold number? at h
  split at h
  · obtain ⟨⟨found, after⟩, hfound, heq⟩ := Option.map_eq_some_iff.1 h
    obtain ⟨rfl, rfl⟩ := Prod.mk.inj heq
    obtain ⟨hunsigned, rfl⟩ := isUnsigned_of_unsigned? hfound
    exact ⟨.negative hunsigned, rfl⟩
  · obtain ⟨hunsigned, rfl⟩ := isUnsigned_of_unsigned? h
    exact ⟨.positive hunsigned, rfl⟩

end JsonValue

/-! ### Strings -/

/-- The letters behind a backslash, with the characters that they stand for. -/
def StringPart.escapes : List (Char × Char) :=
  [('"', '"'), ('\\', '\\'), ('/', '/'), ('b', '\x08'), ('f', '\x0C'), ('n', '\n'), ('r', '\r'),
    ('t', '\t')]

/-- The spellings of a part: any character from the space on but quote and backslash stands for
itself, some stand behind a backslash, and a unit is given by four hexadecimal digits. -/
inductive StringPart.Written : StringPart → List Char → Prop
  | plain {c : Char} (hc : ' ' ≤ c) (hquote : c ≠ '"') (hbackslash : c ≠ '\\') :
    Written (.char c) [c]
  | escaped {e c : Char} (h : (e, c) ∈ escapes) : Written (.char c) ['\\', e]
  | unit {a b c d : Char} {u : UInt16} (h : JsonValue.hexUnit? a b c d = some u) :
    Written (.unit u) ['\\', 'u', a, b, c, d]

/-- The spellings of parts, one behind the other. -/
inductive StringPart.WrittenAll : List StringPart → List Char → Prop
  | nil : WrittenAll [] []
  | cons {part : StringPart} {parts : List StringPart} {text texts : List Char}
    (h : Written part text) (hrest : WrittenAll parts texts) :
    WrittenAll (part :: parts) (text ++ texts)

namespace JsonValue

open StringPart (Written WrittenAll escapes)

variable {text rest : List Char} {part : StringPart} {parts : List StringPart}

theorem escaped?_eq_some_iff {e c : Char} : escaped? e = some c ↔ (e, c) ∈ escapes := by
  constructor
  · intro h
    unfold escaped? at h
    split at h <;> first | (obtain rfl := Option.some.inj h; decide) | cases h
  · intro h
    simp only [escapes, List.mem_cons, Prod.mk.injEq, List.not_mem_nil, or_false] at h
    rcases h with ⟨rfl, rfl⟩ | ⟨rfl, rfl⟩ | ⟨rfl, rfl⟩ | ⟨rfl, rfl⟩ | ⟨rfl, rfl⟩ | ⟨rfl, rfl⟩
      | ⟨rfl, rfl⟩ | ⟨rfl, rfl⟩ <;> rfl

theorem string?_append_of_written (h : Written part text) (rest : List Char) :
    string? (text ++ rest) = (string? rest).map fun (parts, rest) => (part :: parts, rest) := by
  cases h with
  | @plain c hc hquote hbackslash =>
    rw [List.cons_append, List.nil_append, string?.eq_def]
    split
    · contradiction
    · rename_i heq
      exact absurd (List.cons.inj heq).1 hquote
    · rename_i heq
      exact absurd (List.cons.inj heq).1 hbackslash
    · rename_i heq
      exact absurd (List.cons.inj heq).1 hbackslash
    · rename_i heq
      obtain ⟨rfl, rfl⟩ := List.cons.inj heq
      rw [if_neg (Char.not_lt.2 hc)]
      cases string? rest <;> rfl
  | @escaped e c h =>
    have hu : e ≠ 'u' := by
      rintro rfl
      cases escaped?_eq_some_iff.2 h
    rw [List.cons_append, List.cons_append, List.nil_append, string?.eq_def]
    split
    · contradiction
    · rename_i heq
      exact absurd (List.cons.inj heq).1 (by decide)
    · rename_i heq
      exact absurd (List.cons.inj (List.cons.inj heq).2).1 hu
    · rename_i heq
      obtain ⟨rfl, rfl⟩ := List.cons.inj (List.cons.inj heq).2
      rw [escaped?_eq_some_iff.2 h]
      cases string? rest <;> rfl
    · rename_i hno heq
      obtain ⟨hc, htext⟩ := List.cons.inj heq
      exact (hno _ _ hc.symm htext.symm).elim
  | @unit a b c d u h =>
    rw [List.cons_append, List.cons_append, List.cons_append, List.cons_append, List.cons_append,
      List.cons_append, List.nil_append, string?, h]
    cases string? rest <;> rfl

/-- A string is read up to the quote that closes it. -/
theorem string?_append (h : WrittenAll parts text) (rest : List Char) :
    string? (text ++ '"' :: rest) = some (parts, rest) := by
  induction h with
  | nil => rfl
  | cons h hrest ih => rw [List.append_assoc, string?_append_of_written h, ih]; rfl

/-- What is read as a string spells its parts. -/
theorem writtenAll_of_string? (h : string? text = some (parts, rest)) :
    ∃ spelled, WrittenAll parts spelled ∧ text = spelled ++ '"' :: rest := by
  fun_induction string? text generalizing parts with
  | case1 => cases h
  | case2 text =>
    obtain ⟨rfl, rfl⟩ := Prod.mk.inj (Option.some.inj h)
    exact ⟨[], .nil, rfl⟩
  | case3 a b c d text ih =>
    simp only [Option.bind_eq_bind, Option.bind_eq_some_iff, Option.pure_def, Option.some.injEq,
      Prod.mk.injEq, Prod.exists] at h
    obtain ⟨u, hunit, parts, rest, hrest, rfl, rfl⟩ := h
    obtain ⟨spelled, hspelled, rfl⟩ := ih hrest
    exact ⟨_, .cons (.unit hunit) hspelled, rfl⟩
  | case4 e text hu ih =>
    simp only [Option.bind_eq_bind, Option.bind_eq_some_iff, Option.pure_def, Option.some.injEq,
      Prod.mk.injEq, Prod.exists] at h
    obtain ⟨c, hletter, parts, rest, hrest, rfl, rfl⟩ := h
    obtain ⟨spelled, hspelled, rfl⟩ := ih hrest
    exact ⟨_, .cons (.escaped (escaped?_eq_some_iff.1 hletter)) hspelled, rfl⟩
  | case5 => cases h
  | case6 c text =>
    rename_i hquote _ hescape hcontrol ih
    simp only [Option.bind_eq_bind, Option.bind_eq_some_iff, Option.pure_def, Option.some.injEq,
      Prod.mk.injEq, Prod.exists] at h
    obtain ⟨parts, rest, hrest, rfl, rfl⟩ := h
    obtain ⟨spelled, hspelled, rfl⟩ := ih hrest
    -- A backslash with nothing behind it would leave the string open.
    have hbackslash : c ≠ '\\' := fun hc => by
      cases htext : spelled ++ '"' :: rest with
      | nil => cases spelled <;> cases htext
      | cons e text => exact hescape e text hc htext
    exact ⟨_, .cons (.plain (Char.not_lt.1 hcontrol) hquote hbackslash) hspelled, rfl⟩

/-! ### Space -/

/-- Whether a text is space only. -/
def IsSpaces (text : List Char) : Prop :=
  ∀ c ∈ text, isSpace c = true

variable {before after : List Char}

theorem isSpaces_nil : IsSpaces [] :=
  fun _ hc => nomatch hc

theorem skipSpace_append (h : IsSpaces before) (text : List Char) :
    skipSpace (before ++ text) = skipSpace text :=
  List.dropWhile_append_of_pos h

theorem skipSpace_cons {c : Char} (hc : isSpace c = false) (text : List Char) :
    skipSpace (c :: text) = c :: text :=
  List.dropWhile_cons_of_neg (by simp [hc])

theorem exists_spaces (text : List Char) :
    ∃ before, IsSpaces before ∧ text = before ++ skipSpace text :=
  ⟨text.takeWhile isSpace, List.all_eq_true.1 List.all_takeWhile,
    List.takeWhile_append_dropWhile.symm⟩

theorem exists_spaces_of_skipSpace_eq (h : skipSpace text = rest) :
    ∃ before, IsSpaces before ∧ text = before ++ rest :=
  h ▸ exists_spaces text

theorem skipSpace_eq_nil_iff : skipSpace text = [] ↔ IsSpaces text :=
  List.dropWhile_eq_nil_iff

theorem endsNumber_of_append (h : IsSpaces after) (hrest : ∀ c ∈ rest.head?, EndsNumber c) :
    ∀ c ∈ (after ++ rest).head?, EndsNumber c := by
  cases after with
  | nil => exact hrest
  | cons c after =>
    intro c' hc'
    obtain rfl := Option.some.inj hc'
    have hspace := h _ List.mem_cons_self
    simp only [isSpace, Bool.or_eq_true, beq_iff_eq, or_assoc] at hspace
    rcases hspace with rfl | rfl | rfl | rfl <;> decide

theorem endsNumber_of_append_cons {c : Char} (h : IsSpaces after) (hc : EndsNumber c)
    (rest : List Char) : ∀ d ∈ (after ++ c :: rest).head?, EndsNumber d :=
  endsNumber_of_append h fun _ hd => Option.some.inj hd ▸ hc

/-! ### Values -/

/-- Texts separated by commas, at least one, with space around each. -/
inductive Separated {α : Type} (Spells : α → List Char → Prop) : List α → List Char → Prop
  | last {x : α} {before text after : List Char} (hbefore : IsSpaces before)
    (h : Spells x text) (hafter : IsSpaces after) : Separated Spells [x] (before ++ text ++ after)
  | cons {x : α} {xs : List α} {before text after texts : List Char} (hbefore : IsSpaces before)
    (h : Spells x text) (hafter : IsSpaces after) (hrest : Separated Spells xs texts) :
    Separated Spells (x :: xs) (before ++ text ++ after ++ ',' :: texts)

/-- The spellings of a member: its key in quotes and its value, with a colon between them. -/
inductive Member (Spells : JsonValue → List Char → Prop) :
    List StringPart × JsonValue → List Char → Prop
  | intro {key : List StringPart} {value : JsonValue} {keyText middle gap text : List Char}
    (hkey : WrittenAll key keyText) (hmiddle : IsSpaces middle) (hgap : IsSpaces gap)
    (h : Spells value text) :
    Member Spells (key, value) ('"' :: keyText ++ '"' :: middle ++ ':' :: gap ++ text)

/-- The spellings of a value, without space around it. -/
inductive Written : JsonValue → List Char → Prop
  | null : Written .null ['n', 'u', 'l', 'l']
  | true : Written (.bool true) ['t', 'r', 'u', 'e']
  | false : Written (.bool false) ['f', 'a', 'l', 's', 'e']
  | number {literal : List Char} (h : IsNumber literal) : Written (.number literal) literal
  | string {parts : List StringPart} {text : List Char} (h : WrittenAll parts text) :
    Written (.string parts) ('"' :: text ++ ['"'])
  | emptyList {space : List Char} (h : IsSpaces space) : Written (.list []) ('[' :: space ++ [']'])
  | list {items : List JsonValue} {texts : List Char} (h : Separated Written items texts) :
    Written (.list items) ('[' :: texts ++ [']'])
  | emptyObject {space : List Char} (h : IsSpaces space) :
    Written (.object []) ('\x7b' :: space ++ ['\x7d'])
  | object {members : List (List StringPart × JsonValue)} {texts : List Char}
    (h : Separated (Member Written) members texts) :
    Written (.object members) ('\x7b' :: texts ++ ['\x7d'])

/-- The texts of a document: the spellings of a value with space around them. -/
def Document (value : JsonValue) (text : List Char) : Prop :=
  ∃ before spelled after, IsSpaces before ∧ Written value spelled ∧ IsSpaces after
    ∧ text = before ++ spelled ++ after

variable {value : JsonValue} {items : List JsonValue} {members : List (List StringPart × JsonValue)}
variable {texts : List Char} {depth : Nat}

theorem exists_cons_of_isNumber (h : IsNumber text) :
    ∃ c rest, text = c :: rest ∧ (c = '-' ∨ c.isDigit = true) := by
  cases h with
  | positive h =>
    obtain ⟨c, rest, rfl, hc⟩ := exists_cons_of_isUnsigned h
    exact ⟨c, rest, rfl, .inr hc⟩
  | negative h => exact ⟨_, _, rfl, .inl rfl⟩

/-- A value begins with neither space nor a bracket that closes. -/
theorem exists_cons_of_written (h : Written value text) :
    ∃ c rest, text = c :: rest ∧ isSpace c = false ∧ c ≠ ']' := by
  cases h with
  | number h =>
    obtain ⟨c, rest, rfl, hc⟩ := exists_cons_of_isNumber h
    refine ⟨c, rest, rfl, ?_⟩
    rcases hc with rfl | hc
    · decide
    · constructor
      · apply Bool.eq_false_iff.2
        intro hspace
        simp only [isSpace, Bool.or_eq_true, beq_iff_eq, or_assoc] at hspace
        rcases hspace with rfl | rfl | rfl | rfl <;> contradiction
      · rintro rfl
        contradiction
  | _ => exact ⟨_, _, rfl, by decide⟩

theorem skipSpace_append_of_written (hbefore : IsSpaces before) (h : Written value text)
    (rest : List Char) : skipSpace (before ++ text ++ rest) = text ++ rest := by
  obtain ⟨c, text, rfl, hc, -⟩ := exists_cons_of_written h
  rw [List.append_assoc, skipSpace_append hbefore, List.cons_append, skipSpace_cons hc]

/-! ### Every spelling is read -/

/-- Whether the values that `depth` suffices for are read as they are spelled. -/
def ReadsValues (depth : Nat) : Prop :=
  ∀ ⦃value : JsonValue⦄ ⦃before text rest : List Char⦄, IsSpaces before → Written value text →
    text.length ≤ depth → (∀ c ∈ rest.head?, EndsNumber c) →
      value? depth (before ++ text ++ rest) = some (value, rest)

/-- Items are read as they are spelled. Every item gives up one step of the depth and stands in front
of a character that no other item reads, so the characters are enough. -/
theorem items?_append (h : Separated Written items texts) (hdepth : texts.length < depth)
    (hvalues : ∀ d < depth, ReadsValues d) (rest : List Char) :
    items? depth (texts ++ ']' :: rest) = some (items, rest) := by
  induction h generalizing depth with
  | @last item before text after hbefore h hafter =>
    obtain _ | depth := depth
    · exact absurd hdepth (Nat.not_lt_zero _)
    simp only [List.length_append] at hdepth
    have hends := endsNumber_of_append_cons hafter (by decide : EndsNumber ']') rest
    have hvalue := hvalues depth (Nat.lt_succ_self _) hbefore h (by omega) hends
    rw [List.append_assoc _ after, items?, hvalue]
    simp only [skipSpace_append hafter, skipSpace_cons (c := ']') (by decide)]
  | @cons item items before text after texts hbefore h hafter hrest ih =>
    obtain _ | depth := depth
    · exact absurd hdepth (Nat.not_lt_zero _)
    simp only [List.length_append, List.length_cons] at hdepth
    have hends := endsNumber_of_append_cons hafter (by decide : EndsNumber ',')
      (texts ++ ']' :: rest)
    have hvalue := hvalues depth (Nat.lt_succ_self _) hbefore h (by omega) hends
    have hitems : items? depth (texts ++ ']' :: rest) = some (items, rest) :=
      ih (by omega) fun d hd => hvalues d (by omega)
    rw [List.append_assoc _ _ (']' :: rest), List.append_assoc _ after, List.cons_append, items?,
      hvalue]
    simp only [skipSpace_append hafter, skipSpace_cons (c := ',') (by decide), hitems,
      Option.map_some]

/-- A member is read as it is spelled, up to what decides whether another follows. -/
theorem members?_append_of_member {member : List StringPart × JsonValue}
    (h : Member Written member text) (hbefore : IsSpaces before) (hdepth : text.length ≤ depth)
    (hvalues : ReadsValues depth) (hrest : ∀ c ∈ rest.head?, EndsNumber c) :
    members? (depth + 1) (before ++ text ++ rest) = match skipSpace rest with
      | ',' :: rest => (members? depth rest).map fun (members, rest) => (member :: members, rest)
      | '\x7d' :: rest => some ([member], rest)
      | _ => none := by
  obtain @⟨key, value, keyText, middle, gap, text, hkey, hmiddle, hgap, h⟩ := h
  simp only [List.length_append, List.length_cons] at hdepth
  have hvalue := hvalues hgap h (by omega) hrest
  rw [List.append_assoc before, members?, skipSpace_append hbefore, List.append_assoc]
  simp only [List.cons_append, List.append_assoc, skipSpace_cons (c := '"') (by decide),
    string?_append hkey, skipSpace_append hmiddle, skipSpace_cons (c := ':') (by decide)]
  rw [← List.append_assoc]
  generalize value? depth (gap ++ text ++ rest) = found at hvalue ⊢
  subst hvalue
  rfl

theorem members?_append (h : Separated (Member Written) members texts)
    (hdepth : texts.length < depth) (hvalues : ∀ d < depth, ReadsValues d) (rest : List Char) :
    members? depth (texts ++ '\x7d' :: rest) = some (members, rest) := by
  induction h generalizing depth with
  | @last member before text after hbefore h hafter =>
    obtain _ | depth := depth
    · exact absurd hdepth (Nat.not_lt_zero _)
    simp only [List.length_append] at hdepth
    have hends := endsNumber_of_append_cons hafter (by decide : EndsNumber '\x7d') rest
    rw [List.append_assoc _ after,
      members?_append_of_member h hbefore (by omega) (hvalues depth (Nat.lt_succ_self _)) hends]
    simp only [skipSpace_append hafter, skipSpace_cons (c := '\x7d') (by decide)]
  | @cons member members before text after texts hbefore h hafter hrest ih =>
    obtain _ | depth := depth
    · exact absurd hdepth (Nat.not_lt_zero _)
    simp only [List.length_append, List.length_cons] at hdepth
    have hends := endsNumber_of_append_cons hafter (by decide : EndsNumber ',')
      (texts ++ '\x7d' :: rest)
    have hmembers : members? depth (texts ++ '\x7d' :: rest) = some (members, rest) :=
      ih (by omega) fun d hd => hvalues d (by omega)
    rw [List.append_assoc _ _ ('\x7d' :: rest), List.append_assoc _ after, List.cons_append,
      members?_append_of_member h hbefore (by omega) (hvalues depth (Nat.lt_succ_self _)) hends]
    simp only [skipSpace_append hafter, skipSpace_cons (c := ',') (by decide), hmembers,
      Option.map_some]

theorem value?_of_isNumber (hspace : skipSpace text = rest)
    (hhead : ∃ c tail, rest = c :: tail ∧ (c = '-' ∨ c.isDigit = true)) (depth : Nat) :
    value? (depth + 1) text
      = (number? rest).map fun (literal, rest) => (.number literal, rest) := by
  obtain ⟨c, tail, rfl, hc⟩ := hhead
  rw [value?, hspace]
  split <;> try rfl
  all_goals
    rename_i heq
    rw [(List.cons.inj heq).1] at hc
    exact absurd hc (by decide)

theorem value?_of_items (hspace : skipSpace text = '[' :: rest)
    (hno : ∀ tail, skipSpace rest ≠ ']' :: tail) (depth : Nat) :
    value? (depth + 1) text = (items? depth rest).map fun (items, rest) => (.list items, rest) := by
  simp only [value?, hspace]

theorem value?_of_members (hspace : skipSpace text = '\x7b' :: rest)
    (hno : ∀ tail, skipSpace rest ≠ '\x7d' :: tail) (depth : Nat) :
    value? (depth + 1) text
      = (members? depth rest).map fun (members, rest) => (.object members, rest) := by
  simp only [value?, hspace]

theorem skipSpace_ne_of_separated {α : Type} {Spells : α → List Char → Prop} {xs : List α}
    {closing : Char} (hfirst : ∀ x text, Spells x text →
      ∃ c tail, text = c :: tail ∧ isSpace c = false ∧ c ≠ closing)
    (h : Separated Spells xs texts) (rest tail : List Char) :
    skipSpace (texts ++ rest) ≠ closing :: tail := by
  have hfront : ∃ before c tail, IsSpaces before ∧ texts = before ++ c :: tail
      ∧ isSpace c = false ∧ c ≠ closing := by
    cases h with
    | last hbefore h hafter =>
      obtain ⟨c, tail, rfl, hc⟩ := hfirst _ _ h
      exact ⟨_, c, _, hbefore, by simp only [List.append_assoc, List.cons_append]; rfl, hc⟩
    | cons hbefore h hafter hrest =>
      obtain ⟨c, tail, rfl, hc⟩ := hfirst _ _ h
      exact ⟨_, c, _, hbefore, by simp only [List.append_assoc, List.cons_append]; rfl, hc⟩
  obtain ⟨before, c, front, hbefore, rfl, hspace, hc⟩ := hfront
  rw [List.append_assoc, skipSpace_append hbefore, List.cons_append, skipSpace_cons hspace]
  exact fun heq => hc (List.cons.inj heq).1

/-- Values are read as they are spelled. -/
theorem readsValues (depth : Nat) : ReadsValues depth := by
  -- Items and members take steps of their own, so the values in them are several steps down.
  induction depth using Nat.strong_induction_on with
  | _ depth ih =>
    intro value before text rest hbefore h hdepth hrest
    have hspace := skipSpace_append_of_written hbefore h rest
    obtain _ | depth := depth
    · obtain ⟨c, text, rfl, -⟩ := exists_cons_of_written h
      exact absurd hdepth (Nat.not_succ_le_zero _)
    cases h with
    | null => rw [value?, hspace]; rfl
    | true => rw [value?, hspace]; rfl
    | false => rw [value?, hspace]; rfl
    | number h =>
      have hhead : ∃ c tail, text ++ rest = c :: tail ∧ (c = '-' ∨ c.isDigit = true) := by
        obtain ⟨c, tail, rfl, hc⟩ := exists_cons_of_isNumber h
        exact ⟨c, _, rfl, hc⟩
      rw [value?_of_isNumber hspace hhead, number?_append h hrest]
      rfl
    | @string parts text h =>
      rw [value?, hspace]
      simp only [List.cons_append, List.append_assoc, List.nil_append, string?_append h,
        Option.map_some]
    | @emptyList space h =>
      rw [value?, hspace]
      simp only [List.cons_append, List.append_assoc, List.nil_append, skipSpace_append h,
        skipSpace_cons (c := ']') (by decide)]
    | @list items texts h =>
      simp only [List.cons_append, List.append_assoc, List.nil_append] at hspace ⊢
      simp only [List.length_append, List.length_cons, List.length_nil] at hdepth
      have hno := skipSpace_ne_of_separated (fun _ _ => exists_cons_of_written) h (']' :: rest)
      rw [value?_of_items hspace hno, items?_append h (by omega) fun d hd => ih d (by omega)]
      rfl
    | @emptyObject space h =>
      rw [value?, hspace]
      simp only [List.cons_append, List.append_assoc, List.nil_append, skipSpace_append h,
        skipSpace_cons (c := '\x7d') (by decide)]
    | @object members texts h =>
      simp only [List.cons_append, List.append_assoc, List.nil_append] at hspace ⊢
      simp only [List.length_append, List.length_cons, List.length_nil] at hdepth
      have hfirst : ∀ member text, Member Written member text →
          ∃ c tail, text = c :: tail ∧ isSpace c = false ∧ c ≠ '\x7d' := by
        rintro _ _ ⟨-, -, -, -⟩
        exact ⟨_, _, rfl, by decide⟩
      have hno := skipSpace_ne_of_separated hfirst h ('\x7d' :: rest)
      rw [value?_of_members hspace hno, members?_append h (by omega) fun d hd => ih d (by omega)]
      rfl

/-! ### What is read is spelled -/

/-- Whether the values that are read within `depth` steps spell themselves. -/
def SpellsValues (depth : Nat) : Prop :=
  ∀ ⦃value : JsonValue⦄ ⦃text rest : List Char⦄, value? depth text = some (value, rest) →
    ∃ before spelled, IsSpaces before ∧ Written value spelled ∧ text = before ++ spelled ++ rest

theorem separated_of_items? (hvalues : ∀ d < depth, SpellsValues d)
    (h : items? depth text = some (items, rest)) :
    ∃ texts, Separated Written items texts ∧ text = texts ++ ']' :: rest := by
  induction depth generalizing text items with
  | zero => cases h
  | succ depth ih =>
    rw [items?] at h
    split at h
    · cases h
    rename_i item after hvalue
    obtain ⟨before, spelled, hbefore, hspelled, rfl⟩ := hvalues depth (Nat.lt_succ_self _) hvalue
    split at h
    · rename_i behind hcomma
      obtain ⟨space, hspace, rfl⟩ := exists_spaces_of_skipSpace_eq hcomma
      obtain ⟨⟨found, last⟩, hfound, heq⟩ := Option.map_eq_some_iff.1 h
      obtain ⟨rfl, rfl⟩ := Prod.mk.inj heq
      obtain ⟨texts, htexts, rfl⟩ := ih (fun d hd => hvalues d (by omega)) hfound
      exact ⟨_, .cons hbefore hspelled hspace htexts, by
        simp only [List.append_assoc, List.cons_append]⟩
    · rename_i behind hbracket
      obtain ⟨space, hspace, rfl⟩ := exists_spaces_of_skipSpace_eq hbracket
      obtain ⟨rfl, rfl⟩ := Prod.mk.inj (Option.some.inj h)
      exact ⟨_, .last hbefore hspelled hspace, by simp only [List.append_assoc]⟩
    · cases h

theorem separated_of_members? (hvalues : ∀ d < depth, SpellsValues d)
    (h : members? depth text = some (members, rest)) :
    ∃ texts, Separated (Member Written) members texts ∧ text = texts ++ '\x7d' :: rest := by
  induction depth generalizing text members with
  | zero => cases h
  | succ depth ih =>
    rw [members?] at h
    split at h
    rotate_left
    · cases h
    rename_i inner hquote
    obtain ⟨before, hbefore, rfl⟩ := exists_spaces_of_skipSpace_eq hquote
    split at h
    · cases h
    rename_i key behind hstring
    obtain ⟨keyText, hkey, rfl⟩ := writtenAll_of_string? hstring
    split at h
    rotate_left
    · cases h
    rename_i inner hcolon
    obtain ⟨middle, hmiddle, rfl⟩ := exists_spaces_of_skipSpace_eq hcolon
    split at h
    · cases h
    rename_i value after hvalue
    obtain ⟨gap, spelled, hgap, hspelled, rfl⟩ := hvalues depth (Nat.lt_succ_self _) hvalue
    have hmember : Member Written (key, value) _ := ⟨hkey, hmiddle, hgap, hspelled⟩
    split at h
    · rename_i behind hcomma
      obtain ⟨space, hspace, rfl⟩ := exists_spaces_of_skipSpace_eq hcomma
      obtain ⟨⟨found, last⟩, hfound, heq⟩ := Option.map_eq_some_iff.1 h
      obtain ⟨rfl, rfl⟩ := Prod.mk.inj heq
      obtain ⟨texts, htexts, rfl⟩ := ih (fun d hd => hvalues d (by omega)) hfound
      exact ⟨_, .cons hbefore hmember hspace htexts, by
        simp only [List.append_assoc, List.cons_append]⟩
    · rename_i behind hbrace
      obtain ⟨space, hspace, rfl⟩ := exists_spaces_of_skipSpace_eq hbrace
      obtain ⟨rfl, rfl⟩ := Prod.mk.inj (Option.some.inj h)
      exact ⟨_, .last hbefore hmember hspace, by simp only [List.append_assoc, List.cons_append]⟩
    · cases h

/-- What is read as a value spells it. -/
theorem spellsValues (depth : Nat) : SpellsValues depth := by
  induction depth using Nat.strong_induction_on with
  | _ depth ih =>
    intro value text rest h
    obtain _ | depth := depth
    · cases h
    have hvalues : ∀ d < depth, SpellsValues d := fun d hd => ih d (by omega)
    obtain ⟨before, hbefore, htext⟩ := exists_spaces text
    suffices hspelled : ∃ spelled, Written value spelled ∧ skipSpace text = spelled ++ rest by
      obtain ⟨spelled, hwritten, heq⟩ := hspelled
      exact ⟨before, spelled, hbefore, hwritten, by rw [List.append_assoc, ← heq, ← htext]⟩
    rw [value?] at h
    split at h
    · obtain ⟨rfl, rfl⟩ := Prod.mk.inj (Option.some.inj h)
      exact ⟨_, .null, ‹_›⟩
    · obtain ⟨rfl, rfl⟩ := Prod.mk.inj (Option.some.inj h)
      exact ⟨_, .true, ‹_›⟩
    · obtain ⟨rfl, rfl⟩ := Prod.mk.inj (Option.some.inj h)
      exact ⟨_, .false, ‹_›⟩
    · rename_i tail hquote
      obtain ⟨⟨parts, after⟩, hfound, heq⟩ := Option.map_eq_some_iff.1 h
      obtain ⟨rfl, rfl⟩ := Prod.mk.inj heq
      obtain ⟨spelled, hspelled, rfl⟩ := writtenAll_of_string? hfound
      exact ⟨_, .string hspelled, by
        simp only [hquote, List.append_assoc, List.cons_append, List.nil_append]⟩
    · rename_i tail hbracket
      split at h
      · rename_i after hclosed
        obtain ⟨space, hspace, rfl⟩ := exists_spaces_of_skipSpace_eq hclosed
        obtain ⟨rfl, rfl⟩ := Prod.mk.inj (Option.some.inj h)
        exact ⟨_, .emptyList hspace, by
          simp only [hbracket, List.append_assoc, List.cons_append, List.nil_append]⟩
      · obtain ⟨⟨items, after⟩, hfound, heq⟩ := Option.map_eq_some_iff.1 h
        obtain ⟨rfl, rfl⟩ := Prod.mk.inj heq
        obtain ⟨texts, htexts, rfl⟩ := separated_of_items? hvalues hfound
        exact ⟨_, .list htexts, by
          simp only [hbracket, List.append_assoc, List.cons_append, List.nil_append]⟩
    · rename_i tail hbrace
      split at h
      · rename_i after hclosed
        obtain ⟨space, hspace, rfl⟩ := exists_spaces_of_skipSpace_eq hclosed
        obtain ⟨rfl, rfl⟩ := Prod.mk.inj (Option.some.inj h)
        exact ⟨_, .emptyObject hspace, by
          simp only [hbrace, List.append_assoc, List.cons_append, List.nil_append]⟩
      · obtain ⟨⟨members, after⟩, hfound, heq⟩ := Option.map_eq_some_iff.1 h
        obtain ⟨rfl, rfl⟩ := Prod.mk.inj heq
        obtain ⟨texts, htexts, rfl⟩ := separated_of_members? hvalues hfound
        exact ⟨_, .object htexts, by
          simp only [hbrace, List.append_assoc, List.cons_append, List.nil_append]⟩
    · obtain ⟨⟨literal, after⟩, hfound, heq⟩ := Option.map_eq_some_iff.1 h
      obtain ⟨rfl, rfl⟩ := Prod.mk.inj heq
      obtain ⟨hnumber, heq⟩ := isNumber_of_number? hfound
      exact ⟨_, .number hnumber, heq⟩

/-- A text is read as a document exactly when it spells it. -/
theorem parse?_eq_some_iff : parse? text = some value ↔ Document value text := by
  constructor
  · intro h
    unfold parse? at h
    split at h
    · rename_i found after hfound
      obtain ⟨before, spelled, hbefore, hspelled, htext⟩ := spellsValues _ hfound
      split at h
      · rename_i hafter
        obtain rfl := Option.some.inj h
        exact ⟨before, spelled, after, hbefore, hspelled,
          skipSpace_eq_nil_iff.1 (List.isEmpty_iff.1 hafter), htext⟩
      · cases h
    · cases h
  · rintro ⟨before, spelled, after, hbefore, hspelled, hafter, rfl⟩
    have hends : ∀ c ∈ after.head?, EndsNumber c := by
      rw [← List.append_nil after]
      exact endsNumber_of_append hafter (by rintro _ ⟨⟩)
    have hvalue := readsValues (2 * (before ++ spelled ++ after).length + 1) hbefore hspelled
      (by simp only [List.length_append]; omega) hends
    simp only [parse?, hvalue, skipSpace_eq_nil_iff.2 hafter, List.isEmpty_nil, if_true]

end JsonValue

end NeighborAwareness
