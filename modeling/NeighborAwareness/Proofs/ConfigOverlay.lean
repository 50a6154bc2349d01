import Mathlib.Data.Finset.Insert
import NeighborAwareness.Config
import NeighborAwareness.Proofs.JsonWriting
import NeighborAwareness.Proofs.WrittenText

/-!
# Defaults, file and environment

A file overlays the defaults with the settings that it gives, however its members are ordered,
spelled and mixed with others; a setting given twice or with a value that does not suit it spoils
the file. The environment variable overlays the dwell time of follow-ups and nothing else.

## Main definitions

* `Config.content` : what a configuration holds for a setting.
* `Config.taking` : a configuration with some settings taken from another.
* `Config.Overlays` : the members that spell some settings of a configuration.
* `Config.SpellsStay` : the texts that give a dwell time.

## Main results

* `Config.assignMembers?_eq_some_iff` : what members make of a configuration.
* `Config.overlaid_by_file_and_variable` : files, files that were written, and the variable.
-/

namespace NeighborAwareness

open JsonValue (IsDigits Document)
open StringPart (Spells)

/-! ### Contents of settings -/

/-- What a setting holds. -/
inductive Content where
  | number (n : Nat)
  | name (text : String)
  deriving DecidableEq, Repr

/-- The values that spell a content: the digits of a number, and a string for a name. -/
inductive Content.Spelled : Content → JsonValue → Prop
  | number {literal : List Char} {n : Nat} (h : IsDigits literal) (hn : Decimal.value literal = n) :
    Spelled (.number n) (.number literal)
  | name {parts : List StringPart} {text : String} (h : Spells parts text.toList) :
    Spelled (.name text) (.string parts)

namespace Setting

/-- How many numbers a setting can hold, unless it holds a name. -/
def limit? : Setting → Option Nat
  | frequency | beaconDwell | discoveryDwell | followUpDwell => some Config.wordLimit
  | beaconPeriod | eventDeadline | queueLength => some Config.longLimit
  | monitorName => none

/-- Whether a value suits a setting: digits that spell a number of its range, or a string that
spells a text. -/
def Suits (s : Setting) (value : JsonValue) : Prop :=
  match s.limit? with
  | some limit =>
    ∃ literal, value = .number literal ∧ IsDigits literal ∧ Decimal.value literal < limit
  | none => ∃ parts name, value = .string parts ∧ Spells parts name

/-- Whether the key of a member is the one of a setting. -/
def Keys (s : Setting) (member : List StringPart × JsonValue) : Prop :=
  Spells member.1 s.key.toList

theorem ofKey?_key (s : Setting) : ofKey? s.key.toList = some s := by
  cases s <;> decide

theorem key_injective {s t : Setting} (h : s.key.toList = t.key.toList) : s = t := by
  have hs := ofKey?_key s
  rw [h, ofKey?_key] at hs
  exact (Option.some.inj hs).symm

theorem key_of_ofKey? {s : Setting} {key : List Char} (h : ofKey? key = some s) :
    key = s.key.toList := by
  have hkey := List.find?_some h
  exact (beq_iff_eq.1 hkey).symm

theorem ofKey?_eq_none_iff {key : List Char} :
    ofKey? key = none ↔ ∀ s : Setting, s.key.toList ≠ key := by
  constructor
  · rintro h s rfl
    cases (ofKey?_key s).symm.trans h
  · intro h
    cases hkey : ofKey? key with
    | none => rfl
    | some s => exact absurd (key_of_ofKey? hkey).symm (h s)

end Setting

namespace Config

variable {c d base : Config} {s : Setting} {value : JsonValue}
variable {members : List (List StringPart × JsonValue)} {F : Finset Setting}

/-- What a configuration holds for a setting. -/
def content (c : Config) : Setting → Content
  | .frequency => .number c.frequency.toNat
  | .beaconDwell => .number c.beaconDwell.toNat
  | .discoveryDwell => .number c.discoveryDwell.toNat
  | .followUpDwell => .number c.followUpDwell.toNat
  | .beaconPeriod => .number c.beaconPeriod.toNat
  | .monitorName => .name c.monitorName
  | .eventDeadline => .number c.eventDeadline.toNat
  | .queueLength => .number c.queueLength.toNat

theorem eq_of_content (h : ∀ s, c.content s = d.content s) : c = d := by
  cases c
  cases d
  rw [Config.mk.injEq]
  exact ⟨UInt32.toNat_inj.1 (Content.number.inj (h .frequency)),
    UInt32.toNat_inj.1 (Content.number.inj (h .beaconDwell)),
    UInt32.toNat_inj.1 (Content.number.inj (h .discoveryDwell)),
    UInt32.toNat_inj.1 (Content.number.inj (h .followUpDwell)),
    UInt64.toNat_inj.1 (Content.number.inj (h .beaconPeriod)), Content.name.inj (h .monitorName),
    UInt64.toNat_inj.1 (Content.number.inj (h .eventDeadline)),
    UInt64.toNat_inj.1 (Content.number.inj (h .queueLength))⟩

/-- A configuration with the settings of a set taken from another. -/
def taking (base : Config) (F : Finset Setting) (c : Config) : Config where
  frequency := if .frequency ∈ F then c.frequency else base.frequency
  beaconDwell := if .beaconDwell ∈ F then c.beaconDwell else base.beaconDwell
  discoveryDwell := if .discoveryDwell ∈ F then c.discoveryDwell else base.discoveryDwell
  followUpDwell := if .followUpDwell ∈ F then c.followUpDwell else base.followUpDwell
  beaconPeriod := if .beaconPeriod ∈ F then c.beaconPeriod else base.beaconPeriod
  monitorName := if .monitorName ∈ F then c.monitorName else base.monitorName
  eventDeadline := if .eventDeadline ∈ F then c.eventDeadline else base.eventDeadline
  queueLength := if .queueLength ∈ F then c.queueLength else base.queueLength

theorem content_taking (base c : Config) (F : Finset Setting) (s : Setting) :
    (base.taking F c).content s = if s ∈ F then c.content s else base.content s := by
  cases s <;> (simp only [taking, content]; split <;> rfl)

/-! ### Values -/

theorem read?_eq_some_iff {literal : List Char} {n : Nat} :
    Decimal.read? literal = some n ↔ IsDigits literal ∧ Decimal.value literal = n := by
  simp [Decimal.read?, IsDigits]

theorem natural?_eq_some_iff {limit n : Nat} :
    value.natural? limit = some n ↔ (Content.number n).Spelled value ∧ n < limit := by
  constructor
  · intro h
    cases value with
    | number literal =>
      obtain ⟨hread, hn⟩ := Option.filter_eq_some_iff.1 h
      obtain ⟨hdigits, hvalue⟩ := read?_eq_some_iff.1 hread
      exact ⟨.number hdigits hvalue, of_decide_eq_true hn⟩
    | _ => cases h
  · rintro ⟨⟨hdigits, hvalue⟩, hn⟩
    exact Option.filter_eq_some_iff.2 ⟨read?_eq_some_iff.2 ⟨hdigits, hvalue⟩, decide_eq_true hn⟩

theorem word?_eq_some_iff {n : UInt32} :
    word? value = some n ↔ (Content.number n.toNat).Spelled value := by
  constructor
  · intro h
    obtain ⟨m, hm, rfl⟩ := Option.map_eq_some_iff.1 h
    obtain ⟨hspelled, hlimit⟩ := natural?_eq_some_iff.1 hm
    rwa [UInt32.toNat_ofNat_of_lt' hlimit]
  · intro h
    have hn : n.toNat < wordLimit := n.toNat_lt
    rw [word?, natural?_eq_some_iff.2 ⟨h, hn⟩, Option.map_some, UInt32.ofNat_toNat]

theorem long?_eq_some_iff {n : UInt64} :
    long? value = some n ↔ (Content.number n.toNat).Spelled value := by
  constructor
  · intro h
    obtain ⟨m, hm, rfl⟩ := Option.map_eq_some_iff.1 h
    obtain ⟨hspelled, hlimit⟩ := natural?_eq_some_iff.1 hm
    rwa [UInt64.toNat_ofNat_of_lt' hlimit]
  · intro h
    have hn : n.toNat < longLimit := n.toNat_lt
    rw [long?, natural?_eq_some_iff.2 ⟨h, hn⟩, Option.map_some, UInt64.ofNat_toNat]

theorem text?_eq_some_iff {name : String} :
    value.text? = some name ↔ (Content.name name).Spelled value := by
  constructor
  · intro h
    cases value with
    | string parts =>
      obtain ⟨text, htext, rfl⟩ := Option.map_eq_some_iff.1 h
      refine .name ?_
      rw [String.toList_ofList]
      exact JsonValue.characters?_eq_some_iff.1 htext
    | _ => cases h
  · rintro (- | hspells)
    rw [JsonValue.text?, JsonValue.characters?_eq_some_iff.2 hspells, Option.map_some,
      String.ofList_toList]

/-- A value is assigned exactly when it spells what the setting holds then; the other settings stay
as they are. -/
theorem assign?_eq_some_iff : base.assign? value s = some d ↔
    (d.content s).Spelled value ∧ ∀ t, t ≠ s → d.content t = base.content t := by
  constructor
  · intro h
    cases s
    all_goals
      obtain ⟨n, hvalue, rfl⟩ := Option.map_eq_some_iff.1 h
      refine ⟨?_, fun t ht => by cases t <;> first | rfl | exact absurd rfl ht⟩
      first
        | exact word?_eq_some_iff.1 hvalue
        | exact long?_eq_some_iff.1 hvalue
        | exact text?_eq_some_iff.1 hvalue
  · rintro ⟨hvalue, hothers⟩
    cases s
    all_goals
      rw [assign?]
      first
        | rw [word?_eq_some_iff.2 hvalue]
        | rw [long?_eq_some_iff.2 hvalue]
        | rw [text?_eq_some_iff.2 hvalue]
      refine congrArg some (eq_of_content fun t => ?_)
      have hother := hothers t
      cases t <;> first | rfl | exact (hother (by decide)).symm

theorem suits_of_spelled (h : (c.content s).Spelled value) : s.Suits value := by
  cases s
  case monitorName =>
    obtain - | hspells := h
    exact ⟨_, _, rfl, hspells⟩
  case beaconPeriod | eventDeadline | queueLength =>
    obtain ⟨hdigits, hvalue⟩ := h
    exact ⟨_, rfl, hdigits, hvalue ▸ UInt64.toNat_lt _⟩
  all_goals
    obtain ⟨hdigits, hvalue⟩ := h
    exact ⟨_, rfl, hdigits, hvalue ▸ UInt32.toNat_lt _⟩

/-! ### Members -/

/-- The members that spell exactly the settings `F` of a configuration, once each and in any order.
The keys of the other members are texts that are keys of no setting; their values are free. -/
inductive Overlays (c : Config) : Finset Setting → List (List StringPart × JsonValue) → Prop
  | nil : Overlays c ∅ []
  | setting {F : Finset Setting} {s : Setting} {key : List StringPart} {value : JsonValue}
    {members : List (List StringPart × JsonValue)} (hs : s ∉ F) (hkey : Spells key s.key.toList)
    (hvalue : (c.content s).Spelled value) (h : Overlays c F members) :
    Overlays c (insert s F) ((key, value) :: members)
  | foreign {F : Finset Setting} {key : List StringPart} {text : List Char} {value : JsonValue}
    {members : List (List StringPart × JsonValue)} (hkey : Spells key text)
    (hforeign : ∀ s : Setting, s.key.toList ≠ text) (h : Overlays c F members) :
    Overlays c F ((key, value) :: members)

theorem assignMembers?_of_overlays (h : Overlays c F members) {given : List Setting}
    (hgiven : ∀ s ∈ F, s ∉ given) (base : Config) :
    base.assignMembers? given members = some (base.taking F c) := by
  -- The base varies: behind a member of a setting it is the base with that setting taken.
  induction h generalizing base given with
  | nil => exact congrArg some (eq_of_content fun s => by rw [content_taking]; rfl)
  | @setting F s key value members hs hkey hvalue h ih =>
    have hassign : base.assign? value s = some (base.taking {s} c) := by
      refine assign?_eq_some_iff.2 ⟨?_, fun t ht => ?_⟩
      · rwa [content_taking, if_pos (Finset.mem_singleton_self s)]
      · rw [content_taking, if_neg fun hmem => ht (Finset.mem_singleton.1 hmem)]
    have hrest : ∀ t ∈ F, t ∉ s :: given := fun t ht hmem => by
      obtain rfl | hmem := List.mem_cons.1 hmem
      · exact hs ht
      · exact hgiven t (Finset.mem_insert_of_mem ht) hmem
    rw [assignMembers?, JsonValue.characters?_eq_some_iff.2 hkey]
    simp only [Setting.ofKey?_key, hgiven s (Finset.mem_insert_self s F), if_false, hassign,
      ih hrest]
    refine congrArg some (eq_of_content fun t => ?_)
    simp only [content_taking, Finset.mem_insert, Finset.mem_singleton]
    by_cases ht : t ∈ F <;> simp only [ht, if_true, if_false, or_true, or_false]
  | foreign hkey hforeign h ih =>
    rw [assignMembers?, JsonValue.characters?_eq_some_iff.2 hkey]
    simp only [Setting.ofKey?_eq_none_iff.2 hforeign, ih hgiven]

theorem overlays_of_assignMembers? {given : List Setting}
    (h : base.assignMembers? given members = some d) :
    ∃ F, Overlays d F members ∧ (∀ s ∈ F, s ∉ given) ∧ d = base.taking F d := by
  fun_induction assignMembers? base given members with
  | case1 base given =>
    obtain rfl := Option.some.inj h
    exact ⟨∅, .nil, fun s hs => absurd hs (Finset.notMem_empty s),
      eq_of_content fun s => by rw [content_taking]; rfl⟩
  | case3 base given parts value rest key hkey hno ih =>
    obtain ⟨F, hF, hgiven, hd⟩ := ih h
    exact ⟨F, .foreign (JsonValue.characters?_eq_some_iff.1 hkey) (Setting.ofKey?_eq_none_iff.1 hno)
      hF, hgiven, hd⟩
  | case6 base given parts value rest key hkey s hs hnew next hassign ih =>
    obtain ⟨F, hF, hgiven, hd⟩ := ih h
    obtain ⟨hvalue, hothers⟩ := assign?_eq_some_iff.1 hassign
    -- The setting counts as given, so the rest leaves it as the member has it.
    have hsF : s ∉ F := fun hmem => hgiven s hmem List.mem_cons_self
    have hcontent : ∀ t, t ∉ F → d.content t = next.content t := fun t ht => by
      conv_lhs => rw [hd, content_taking, if_neg ht]
    have hspells := JsonValue.characters?_eq_some_iff.1 hkey
    rw [Setting.key_of_ofKey? hs] at hspells
    refine ⟨insert s F, .setting hsF hspells (hcontent s hsF ▸ hvalue) hF, fun t ht => ?_,
      eq_of_content fun t => ?_⟩
    · obtain rfl | ht := Finset.mem_insert.1 ht
      · exact hnew
      · exact fun hmem => hgiven t ht (List.mem_cons_of_mem _ hmem)
    · rw [content_taking]
      split
      · rfl
      · rename_i ht
        rw [Finset.mem_insert, not_or] at ht
        rw [hcontent t ht.2, hothers t ht.1]
  | _ => cases h

/-- What members make of a configuration, if they make one. -/
theorem assignMembers?_eq_some_iff {given : List Setting} :
    base.assignMembers? given members = some d ↔
      ∃ F, Overlays d F members ∧ (∀ s ∈ F, s ∉ given) ∧ d = base.taking F d := by
  constructor
  · exact overlays_of_assignMembers?
  · rintro ⟨F, hF, hgiven, hd⟩
    conv_rhs => rw [hd]
    exact assignMembers?_of_overlays hF hgiven base

/-- A member with the key of a setting spells what the setting holds. -/
theorem spelled_of_overlays (h : Overlays c F members)
    {member : List StringPart × JsonValue} (hmem : member ∈ members) (hs : s.Keys member) :
    s ∈ F ∧ (c.content s).Spelled member.2 := by
  induction h with
  | nil => cases hmem
  | @setting F t key value members ht hkey hvalue h ih =>
    obtain rfl | hmem := List.mem_cons.1 hmem
    · obtain rfl := Setting.key_injective (JsonValue.spells_unique hkey hs)
      exact ⟨Finset.mem_insert_self _ _, hvalue⟩
    · exact ⟨Finset.mem_insert_of_mem (ih hmem).1, (ih hmem).2⟩
  | foreign hkey hforeign h ih =>
    obtain rfl | hmem := List.mem_cons.1 hmem
    · exact absurd (JsonValue.spells_unique hs hkey) (hforeign s)
    · exact ih hmem

theorem not_keys_twice_of_overlays (h : Overlays c F members) :
    members.Pairwise fun first second => ∀ s : Setting, s.Keys first → ¬s.Keys second := by
  induction h with
  | nil => exact .nil
  | setting hs hkey hvalue h ih =>
    refine ih.cons fun second hmem s hfirst hsecond => ?_
    obtain rfl := Setting.key_injective (JsonValue.spells_unique hfirst hkey)
    exact hs (spelled_of_overlays h hmem hsecond).1
  | foreign hkey hforeign h ih =>
    exact ih.cons fun second _ s hfirst => absurd (JsonValue.spells_unique hfirst hkey) (hforeign s)

/-! ### Files that were written -/

theorem exists_value_of_valueText (c : Config) (s : Setting) :
    ∃ value, value.Written (c.valueText s).toList ∧ (c.content s).Spelled value := by
  have hnumber (n : Nat) : ∃ value, JsonValue.Written value (toString n).toList
      ∧ (Content.number n).Spelled value := by
    rw [Nat.toString_eq_repr, Nat.toList_repr]
    exact ⟨_, .number (JsonValue.isNumber_toDigits n),
      .number (JsonValue.isDigits_toDigits n) (JsonValue.value_toDigits n)⟩
  cases s
  case monitorName =>
    obtain ⟨parts, spelled, htext, hparts, hspells⟩ := JsonValue.exists_parts_of_quote c.monitorName
    exact ⟨.string parts, htext ▸ .string hparts, .name hspells⟩
  all_goals exact hnumber _

/-- The text of a member in a file. -/
def memberText (c : Config) (s : Setting) : List Char :=
  (JsonValue.quote s.key ++ ":" ++ c.valueText s).toList

theorem exists_member_of_memberText (c : Config) (s : Setting) :
    ∃ member, JsonValue.Member JsonValue.Written member (c.memberText s) ∧ s.Keys member
      ∧ (c.content s).Spelled member.2 := by
  obtain ⟨key, keyText, hquote, hkey, hspells⟩ := JsonValue.exists_parts_of_quote s.key
  obtain ⟨value, hvalue, hspelled⟩ := exists_value_of_valueText c s
  refine ⟨(key, value), ?_, hspells, hspelled⟩
  have hspace := JsonValue.isSpaces_nil
  have hmember := JsonValue.Member.intro hkey hspace hspace hvalue
  have htext : c.memberText s
      = '"' :: keyText ++ '"' :: [] ++ ':' :: [] ++ (c.valueText s).toList := by
    rw [memberText, String.toList_append, String.toList_append, hquote]
    rfl
  rwa [htext]

theorem overlays_map {member : Setting → List StringPart × JsonValue}
    (hkey : ∀ s : Setting, s.Keys (member s)) (hvalue : ∀ s, (c.content s).Spelled (member s).2)
    {settings : List Setting} (h : settings.Nodup) :
    Overlays c settings.toFinset (settings.map member) := by
  induction h with
  | nil => exact .nil
  | @cons s settings hs h ih =>
    rw [List.toFinset_cons]
    have hnew : s ∉ settings.toFinset := fun hmem => hs s (List.mem_toFinset.1 hmem) rfl
    exact .setting hnew (hkey s) (hvalue s) ih

theorem exists_document_of_text (c : Config) :
    ∃ members, Document (.object members) c.text.toList
      ∧ Overlays c Setting.all.toFinset members := by
  choose member hmember hkey hvalue using exists_member_of_memberText c
  have htext : c.text.toList
      = '\x7b' :: [','].intercalate (Setting.all.map c.memberText) ++ ['\x7d'] := by
    rw [text, String.toList_append, String.toList_append, String.toList_intercalate, List.map_map]
    rfl
  have hspace := JsonValue.isSpaces_nil
  have hne : Setting.all ≠ [] := List.cons_ne_nil _ _
  have hseparated := JsonValue.separated_intercalate hmember hne
  refine ⟨Setting.all.map member, ⟨[], _, [], hspace, .object hseparated, hspace, ?_⟩,
    overlays_map hkey hvalue (by decide)⟩
  rw [htext, List.nil_append, List.append_nil]

theorem ofText?_text (c : Config) : ofText? c.text = some c := by
  obtain ⟨members, hdocument, hoverlays⟩ := exists_document_of_text c
  have hread := assignMembers?_of_overlays hoverlays (fun s _ => List.not_mem_nil) standard
  rw [ofText?, JsonValue.parse?_eq_some_iff.2 hdocument, Option.bind_some, ofJson?, hread]
  refine congrArg some (eq_of_content fun s => ?_)
  rw [content_taking, if_pos]
  cases s <;> decide

/-! ### The environment variable -/

/-- Whether a text is Unicode white space only. -/
def IsBlanks (text : List Char) : Prop :=
  ∀ c ∈ text, Text.isBlank c = true

/-- The texts that give a dwell time: between blanks, a plus sign or none and one or more digits. -/
def SpellsStay (text : String) (n : Nat) : Prop :=
  ∃ before sign digits after, text.toList = before ++ sign ++ digits ++ after ∧ IsBlanks before
    ∧ (sign = [] ∨ sign = ['+']) ∧ IsDigits digits ∧ Decimal.value digits = n ∧ IsBlanks after

/-- The blanks at the ends of a text are taken off, and no more. -/
theorem trim_append {before core after : List Char} (hbefore : IsBlanks before)
    (hafter : IsBlanks after) (hne : core ≠ []) (hhead : ∀ c ∈ core.head?, Text.isBlank c = false)
    (hlast : ∀ c ∈ core.getLast?, Text.isBlank c = false) :
    Text.trim (before ++ core ++ after) = core := by
  have hfront : (before ++ core ++ after).dropWhile Text.isBlank = core ++ after := by
    rw [List.append_assoc, List.dropWhile_append_of_pos hbefore]
    cases core with
    | nil => exact absurd rfl hne
    | cons c core => exact List.dropWhile_cons_of_neg (by simp [hhead c rfl])
  have hback : core.reverse.dropWhile Text.isBlank = core.reverse := by
    rw [← List.head?_reverse] at hlast
    cases hcore : core.reverse with
    | nil => rfl
    | cons c rest =>
      rw [hcore] at hlast
      exact List.dropWhile_cons_of_neg (by simp [hlast c rfl])
  rw [Text.trim, hfront, Text.dropEnd, List.reverse_append,
    List.dropWhile_append_of_pos fun c hc => hafter c (List.mem_reverse.1 hc), hback,
    List.reverse_reverse]

theorem exists_blanks_trim (text : List Char) : ∃ before after,
    IsBlanks before ∧ IsBlanks after ∧ text = before ++ Text.trim text ++ after := by
  have hall : ∀ cs : List Char, IsBlanks (cs.takeWhile Text.isBlank) := fun _ =>
    List.all_eq_true.1 List.all_takeWhile
  generalize hrest : text.dropWhile Text.isBlank = rest
  have hback : rest = (rest.reverse.dropWhile Text.isBlank).reverse
      ++ (rest.reverse.takeWhile Text.isBlank).reverse := by
    rw [← List.reverse_append, List.takeWhile_append_dropWhile, List.reverse_reverse]
  refine ⟨text.takeWhile Text.isBlank, (rest.reverse.takeWhile Text.isBlank).reverse, hall text,
    fun c hc => hall _ c (List.mem_reverse.1 hc), ?_⟩
  rw [Text.trim, hrest, Text.dropEnd, List.append_assoc, ← hback, ← hrest,
    List.takeWhile_append_dropWhile]

theorem isBlank_of_isDigit {c : Char} (h : c.isDigit = true) : Text.isBlank c = false := by
  have hrange : 48 ≤ c.toNat ∧ c.toNat ≤ 57 := Char.isDigit_iff_toNat.1 h
  refine Bool.eq_false_iff.2 fun hblank => ?_
  simp only [Text.isBlank, Bool.or_eq_true, Bool.and_eq_true, decide_eq_true_eq, beq_iff_eq]
    at hblank
  omega

theorem trim_of_isDigits {before sign digits after : List Char} (hbefore : IsBlanks before)
    (hsign : sign = [] ∨ sign = ['+']) (hdigits : IsDigits digits) (hafter : IsBlanks after) :
    Text.trim (before ++ sign ++ digits ++ after) = sign ++ digits := by
  rw [List.append_assoc before]
  refine trim_append hbefore hafter (fun h => hdigits.1 (List.append_eq_nil_iff.1 h).2) ?_ ?_
  · intro c hc
    rcases hsign with rfl | rfl
    · exact isBlank_of_isDigit (hdigits.2 c (List.mem_of_mem_head? hc))
    · obtain rfl := Option.some.inj hc
      decide
  · intro c hc
    rw [List.getLast?_append] at hc
    cases hlast : digits.getLast? with
    | none => exact absurd (List.getLast?_eq_none_iff.1 hlast) hdigits.1
    | some last =>
      rw [hlast, Option.some_or] at hc
      obtain rfl := Option.some.inj hc
      exact isBlank_of_isDigit (hdigits.2 last (List.mem_of_getLast? hlast))

/-- A dwell time is read like a number of a file, behind a plus sign if there is one. -/
theorem stay?_eq_word? {text : String} {sign digits : List Char}
    (htrim : Text.trim text.toList = sign ++ digits) (hsign : sign = [] ∨ sign = ['+'])
    (hplus : ∀ rest, sign = [] → digits ≠ '+' :: rest) :
    stay? text = word? (.number digits) := by
  unfold stay?
  rw [htrim]
  rcases hsign with rfl | rfl
  · split
    · rename_i rest heq
      exact absurd heq (hplus rest rfl)
    · rfl
  · rfl

theorem stay?_eq_some_iff {text : String} {n : UInt32} :
    stay? text = some n ↔ SpellsStay text n.toNat := by
  constructor
  · intro h
    obtain ⟨before, after, hbefore, hafter, htext⟩ := exists_blanks_trim text.toList
    obtain ⟨sign, digits, htrim, hsign, hplus⟩ : ∃ sign digits,
        Text.trim text.toList = sign ++ digits
          ∧ (sign = [] ∨ sign = ['+']) ∧ ∀ rest, sign = [] → digits ≠ '+' :: rest := by
      by_cases hhead : ∃ rest, Text.trim text.toList = '+' :: rest
      · obtain ⟨rest, hrest⟩ := hhead
        exact ⟨['+'], rest, hrest, .inr rfl, fun _ hno => nomatch hno⟩
      · exact ⟨[], _, rfl, .inl rfl, fun rest _ heq => hhead ⟨rest, heq⟩⟩
    rw [stay?_eq_word? htrim hsign hplus, word?_eq_some_iff] at h
    obtain ⟨hdigits, hvalue⟩ := h
    rw [htrim, ← List.append_assoc] at htext
    exact ⟨before, sign, digits, after, htext, hbefore, hsign, hdigits, hvalue, hafter⟩
  · rintro ⟨before, sign, digits, after, htext, hbefore, hsign, hdigits, hvalue, hafter⟩
    have htrim : Text.trim text.toList = sign ++ digits := by
      rw [htext]
      exact trim_of_isDigits hbefore hsign hdigits hafter
    have hplus : ∀ rest, sign = [] → digits ≠ '+' :: rest := by
      rintro rest - rfl
      exact absurd (hdigits.2 '+' List.mem_cons_self) (by decide)
    rw [stay?_eq_word? htrim hsign hplus, word?_eq_some_iff]
    exact .number hdigits hvalue

/-! ### Loading -/

theorem load_encode (text : String) :
    load (some (Utf8.encode text)) none = match ofText? text with
      | some c => .ok (c, [])
      | none => .error .invalid := by
  simp only [load, Utf8.decode?_encode]
  cases ofText? text <;> rfl

/-- The environment variable overlays what is loaded without it. -/
theorem load_some (file : Option Bytes) (stay : String) :
    load file (some stay) = (load file none).map fun (c, _) => c.overlayStay (some stay) := by
  unfold load
  split
  · rfl
  · split
    · rfl
    · split <;> rfl

theorem exists_overlays_of_ofText? {text : String} (h : Document (.object members) text.toList)
    (hread : ofText? text = some d) : ∃ F, Overlays d F members := by
  rw [ofText?, JsonValue.parse?_eq_some_iff.2 h, Option.bind_some, ofJson?] at hread
  obtain ⟨F, hF, -⟩ := assignMembers?_eq_some_iff.1 hread
  exact ⟨F, hF⟩

/-- An object overlays the defaults with the settings that it spells, in whatever order and between
whatever members of other keys. -/
theorem ofText?_of_overlays {text : String} (h : Document (.object members) text.toList)
    (hF : Overlays c F members) : ofText? text = some (standard.taking F c) := by
  rw [ofText?, JsonValue.parse?_eq_some_iff.2 h, Option.bind_some, ofJson?]
  exact assignMembers?_of_overlays hF (fun s _ => List.not_mem_nil) standard

/-- The variable changes nothing but one dwell time, and changes it to the number that its text
gives. -/
theorem load_some_of_load_none {file : Option Bytes} {stay : String} {notes : List Note}
    (h : load file none = .ok (c, notes)) :
    (∀ n : UInt32, SpellsStay stay n.toNat →
        load file (some stay) = .ok ({ c with followUpDwell := n }, []))
      ∧ ((∀ n < UInt32.size, ¬SpellsStay stay n) →
        load file (some stay) = .ok (c, [.stayIgnored stay])) := by
  rw [load_some, h]
  refine ⟨fun n hn => ?_, fun hno => ?_⟩
  · simp only [Except.map, overlayStay, stay?_eq_some_iff.2 hn]
  · cases hstay : stay? stay with
    | none => simp only [Except.map, overlayStay, hstay]
    | some n => exact absurd (stay?_eq_some_iff.1 hstay) (hno n.toNat n.toNat_lt)

/-- A file overlays the defaults and the environment variable overlays the file.

* An object that spells some settings of a configuration, each once, gives the defaults with these
  settings taken from it. A setting that is given twice spoils the file, and so does a value that
  does not suit its setting.
* A file that was written gives the configuration that it was written from.
* The variable changes no failure and nothing but the dwell time of follow-ups, and this exactly if
  its text is a number of 32 bits between blanks, possibly with a plus sign. -/
theorem overlaid_by_file_and_variable :
    (∀ members (text : String), Document (.object members) text.toList →
      (∀ c F, Overlays c F members → ofText? text = some (standard.taking F c))
        ∧ (∀ (s : Setting) first second, [first, second].Sublist members → s.Keys first →
          s.Keys second → ofText? text = none)
        ∧ ∀ (s : Setting) member, member ∈ members → s.Keys member → ¬s.Suits member.2 →
          ofText? text = none)
      ∧ (∀ c : Config, ofText? c.text = some c)
      ∧ (∀ text, load (some (Utf8.encode text)) none = match ofText? text with
        | some c => .ok (c, [])
        | none => .error .invalid)
      ∧ ∀ file stay,
        (∀ e, load file none = .error e → load file (some stay) = .error e)
          ∧ ∀ c notes, load file none = .ok (c, notes) →
            (∀ n : UInt32, SpellsStay stay n.toNat →
              load file (some stay) = .ok ({ c with followUpDwell := n }, []))
              ∧ ((∀ n < UInt32.size, ¬SpellsStay stay n) →
                load file (some stay) = .ok (c, [.stayIgnored stay])) := by
  refine ⟨fun members text h => ⟨fun c F => ofText?_of_overlays h, ?_, ?_⟩, ofText?_text,
    load_encode, fun file stay => ⟨fun e he => ?_, fun c notes => load_some_of_load_none⟩⟩
  · intro s first second hsublist hfirst hsecond
    by_contra hread
    obtain ⟨d, hd⟩ := Option.ne_none_iff_exists'.1 hread
    obtain ⟨F, hF⟩ := exists_overlays_of_ofText? h hd
    have hpairwise := not_keys_twice_of_overlays hF
    exact List.pairwise_iff_forall_sublist.1 hpairwise hsublist s hfirst hsecond
  · intro s member hmem hkey hunsuited
    by_contra hread
    obtain ⟨d, hd⟩ := Option.ne_none_iff_exists'.1 hread
    obtain ⟨F, hF⟩ := exists_overlays_of_ofText? h hd
    exact hunsuited (suits_of_spelled (spelled_of_overlays hF hmem hkey).2)
  · rw [load_some, he]
    rfl

/-- An escaped key behind a foreign member, a setting given twice, a number for a name, and texts of
the variable with and without a dwell time. -/
theorem overlaid_by_file_and_variable_escaped_key :
    ofText? "\x7b\"x\":[1],\"\\u0066requency_mhz\":2412\x7d"
        = some { standard with frequency := 2412 }
      ∧ ofText? "\x7b\"event_queue_len\":1,\"event_queue_len\":2\x7d" = none
      ∧ ofText? "\x7b\"monitor_name\":7\x7d" = none
      ∧ load none (some " +7\n") = .ok ({ standard with followUpDwell := 7 }, [])
      ∧ load none (some "-7") = .ok (standard, [.stayIgnored "-7"]) := by
  obtain ⟨hdocument, -, -, hload⟩ := overlaid_by_file_and_variable
  have hspace := JsonValue.isSpaces_nil
  have hmember {key : List StringPart} {keyText : List Char}
      (hkey : StringPart.WrittenAll key keyText) (n : Nat) :=
    JsonValue.Member.intro hkey hspace hspace
      (JsonValue.Written.number (JsonValue.isNumber_toDigits n))
  refine ⟨?_, ?_, ?_, ?_, ?_⟩
  · have hone := JsonValue.Written.number (JsonValue.isNumber_toDigits 1)
    have hx := @JsonValue.writtenAll_map_char ['x'] (by simp)
    have hforeign := JsonValue.Member.intro hx hspace hspace
      (JsonValue.Written.list (.last hspace hone hspace))
    have hunit : JsonValue.hexUnit? '0' '0' '6' '6' = some 0x66 := by decide
    have hkey := StringPart.WrittenAll.cons (.unit hunit)
      (@JsonValue.writtenAll_map_char "requency_mhz".toList (by simp))
    have hobject := JsonValue.Written.object
      (.cons hspace hforeign hspace (.last hspace (hmember hkey 2412) hspace))
    have hspells : Spells [.char 'x'] ['x'] := .char 'x' .nil
    have hnamed : Spells (.unit 0x66 :: "requency_mhz".toList.map .char) "frequency_mhz".toList :=
      JsonValue.characters?_eq_some_iff.1 (by decide)
    have hnumber : (content { standard with frequency := 2412 } .frequency).Spelled
        (.number (Nat.toDigits 10 2412)) :=
      .number (JsonValue.isDigits_toDigits 2412) (JsonValue.value_toDigits 2412)
    have hsetting := Overlays.setting (Finset.notMem_empty .frequency) hnamed hnumber .nil
    exact (hdocument _ _ ⟨[], _, [], hspace, hobject, hspace, by decide⟩).1 _ _
      (.foreign hspells (fun s => by cases s <;> decide) hsetting)
  · have hkey := @JsonValue.writtenAll_map_char "event_queue_len".toList (by simp)
    have hobject := JsonValue.Written.object
      (.cons hspace (hmember hkey 1) hspace (.last hspace (hmember hkey 2) hspace))
    exact (hdocument _ _ ⟨[], _, [], hspace, hobject, hspace, by decide⟩).2.1 .queueLength _ _
      (List.Sublist.refl _) (JsonValue.spells_map_char _) (JsonValue.spells_map_char _)
  · have hkey := @JsonValue.writtenAll_map_char "monitor_name".toList (by simp)
    have hobject := JsonValue.Written.object (.last hspace (hmember hkey 7) hspace)
    refine (hdocument _ _ ⟨[], _, [], hspace, hobject, hspace, by decide⟩).2.2 .monitorName _
      List.mem_cons_self (JsonValue.spells_map_char _) ?_
    rintro ⟨_, _, heq, -⟩
    cases heq
  · exact ((hload none " +7\n").2 standard [] rfl).1 7 ⟨[' '], ['+'], ['7'], ['\n'], rfl,
      List.forall_mem_singleton.2 rfl, .inr rfl,
      ⟨List.cons_ne_nil _ _, List.forall_mem_singleton.2 rfl⟩, rfl,
      List.forall_mem_singleton.2 rfl⟩
  · refine ((hload none "-7").2 standard [] rfl).2 fun n hn hspells => ?_
    have hstay : stay? "-7" = some (UInt32.ofNat n) :=
      stay?_eq_some_iff.2 (by rwa [UInt32.toNat_ofNat_of_lt' hn])
    have hnone : stay? "-7" = none := by decide
    cases hnone.symm.trans hstay

end Config

end NeighborAwareness
