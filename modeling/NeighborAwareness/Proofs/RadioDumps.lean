import Mathlib.Data.List.Dedup
import Mathlib.Data.List.Sort
import NeighborAwareness.Directory.Basic
import NeighborAwareness.Proofs.RequestCodec

/-!
# Dumps of radios

A dump describes each radio in one message or in several, and the messages of different radios may
come mixed. The directory lists one radio for each number that occurs, by number, and what it says
of a radio is what the messages about it say one attribute after the other. So it does not matter
where the kernel cuts the description of a radio. It does matter for the bands: each message tells
how many it describes, and these numbers are added up, so that a band that is described in two
messages counts twice.

## Main definitions

* `Radio.ids`, `Radio.messagesOf`, `Radio.described` : the numbers in a dump, the messages about one
  of them, and the radio that these describe.
* `RadioDescription`, `RadioDescription.IsDump` : all that is said of a radio, and the dumps of some
  radios.
* `GenericMessage.bandIds`, `Radio.bandIdsOf` : the bands in one message, and in those about a
  radio.

## Main results

* `Radio.ofRows_eq` : the radios that a dump lists.
* `Radio.merge_of_isAbout` : how often the number of a radio is repeated does not matter.
* `RadioDescription.every_dump_lists_same_radios` : all dumps of the same radios give the same list.
* `Radio.bands_merge` : bands add up.
* `Directory.band_count_adds_up` : what the band count of a radio is, and when it is the number of
  its bands.
-/

namespace NeighborAwareness

/-! ### Tables -/

theorem Keyed.ext_get? {α : Type} {s t : Keyed α} (hs : Ascending s) (ht : Ascending t)
    (h : ∀ key, s.get? key = t.get? key) : s = t := by
  have : Std.Irrefl fun x y : UInt32 × α => x.1 < y.1 := ⟨fun x => UInt32.lt_irrefl x.1⟩
  have : Std.Antisymm fun x y : UInt32 × α => x.1 < y.1 :=
    ⟨fun x y hxy hyx => absurd hyx (UInt32.lt_asymm hxy)⟩
  refine hs.eq_of_mem_iff ht fun x => ?_
  rw [mem_iff_get?_eq_some hs, mem_iff_get?_eq_some ht, h]

theorem Attribute.wiphy?_eq_some_iff {x : Attribute} {id : UInt32} :
    x.wiphy? = some id ↔ x = .wiphy id := by
  cases x <;> simp [wiphy?]

namespace Radio

variable (rows : List (List Attribute)) (id : UInt32)

/-- The messages about a radio, in the order in which they come. -/
def messagesOf : List (List Attribute) :=
  rows.filter fun row => idOf? row == some id

/-- The numbers of the radios that messages are about, each once and in ascending order. -/
def ids : List UInt32 :=
  (rows.filterMap idOf?).dedup.mergeSort fun a b => a ≤ b

/-- What the messages about a radio say, one after the other. -/
def described : Radio :=
  blank.merge (messagesOf rows id).flatten

theorem mem_ids_iff {rows : List (List Attribute)} {id : UInt32} :
    id ∈ ids rows ↔ messagesOf rows id ≠ [] := by
  rw [ids, List.mem_mergeSort, List.mem_dedup, List.mem_filterMap, messagesOf, ne_eq,
    List.filter_eq_nil_iff]
  simp only [beq_iff_eq, not_forall, not_not, exists_prop]

theorem pairwise_ids : (ids rows).Pairwise (· < ·) := by
  have htrans (a b c : UInt32) (hab : decide (a ≤ b) = true) (hbc : decide (b ≤ c) = true) :
      decide (a ≤ c) = true :=
    decide_eq_true (UInt32.le_trans (of_decide_eq_true hab) (of_decide_eq_true hbc))
  have htotal (a b : UInt32) : (decide (a ≤ b) || decide (b ≤ a)) = true := by
    simp [UInt32.le_total]
  have hsorted : (ids rows).Pairwise fun a b => decide (a ≤ b) = true :=
    List.pairwise_mergeSort htrans htotal _
  have hnodup : (ids rows).Nodup := (List.mergeSort_perm _ _).nodup_iff.2 (List.nodup_dedup _)
  refine (hsorted.and hnodup).imp fun {a b} h => ?_
  exact UInt32.lt_of_le_of_ne (of_decide_eq_true h.1) h.2

/-! ### The list of a dump -/

/-- The table of radios after some messages. -/
def table : Keyed Radio :=
  (rows.foldl addRow ([], [])).1

theorem table_concat (row : List Attribute) :
    table (rows ++ [row])
      = match idOf? row with
        | none => table rows
        | some id => (table rows).alter id fun known => (known.getD blank).merge row := by
  rw [table, List.foldl_append, List.foldl_cons, List.foldl_nil, addRow]
  cases idOf? row <;> rfl

theorem ascending_table : Keyed.Ascending (table rows) := by
  induction rows using List.reverseRecOn with
  | nil => exact .nil
  | append_singleton rows row ih =>
    rw [table_concat]
    split
    · exact ih
    · exact Keyed.ascending_alter ih

theorem merge_append (r : Radio) (row other : List Attribute) :
    r.merge (row ++ other) = (r.merge row).merge other :=
  List.foldl_append

theorem described_concat (row : List Attribute) :
    described (rows ++ [row]) id
      = if idOf? row = some id then (described rows id).merge row else described rows id := by
  rw [described, messagesOf, List.filter_append, List.flatten_append, ← messagesOf]
  by_cases h : idOf? row = some id
  · rw [if_pos h, List.filter_cons_of_pos (by rw [h, beq_self_eq_true]), List.filter_nil,
      List.flatten_singleton, merge_append]
    rfl
  · rw [if_neg h, List.filter_cons_of_neg (by simpa using h), List.filter_nil, List.flatten_nil,
      List.append_nil]
    rfl

theorem get?_table :
    (table rows).get? id = if messagesOf rows id = [] then none else some (described rows id) := by
  induction rows using List.reverseRecOn with
  | nil => rfl
  | append_singleton rows row ih =>
    rw [table_concat, described_concat, messagesOf, List.filter_append, ← messagesOf]
    cases hrow : idOf? row with
    | none => simpa [hrow] using ih
    | some other =>
      dsimp only
      by_cases hid : id = other
      · subst hid
        rw [Keyed.get?_alter_self _ _ _ (ascending_table rows), ih]
        by_cases hnone : messagesOf rows id = []
        · have hblank : described rows id = blank := by rw [described, hnone]; rfl
          simp [hnone, hrow, hblank]
        · simp [hnone, hrow]
      · rw [Keyed.get?_alter_of_ne _ _ hid, ih]
        simp [hrow, Ne.symm hid]

/-- A dump lists one radio for each number that its messages are about, by number; each is what the
messages about it say. -/
theorem ofRows_eq : (ofRows rows).1 = (ids rows).map (described rows) := by
  have htable : table rows = (ids rows).map fun id => (id, described rows id) := by
    have hascending : Keyed.Ascending ((ids rows).map fun id => (id, described rows id)) :=
      List.pairwise_map.2 (pairwise_ids rows)
    refine Keyed.ext_get? (ascending_table rows) hascending fun id => Option.ext fun r => ?_
    rw [get?_table, ← Keyed.mem_iff_get?_eq_some hascending, List.mem_map]
    simp only [Prod.mk.injEq, mem_ids_iff]
    split
    · next hnone =>
      refine iff_of_false nofun ?_
      rintro ⟨other, hsome, rfl, -⟩
      exact hsome hnone
    · next hsome =>
      rw [Option.some.injEq]
      constructor
      · exact fun hr => ⟨id, hsome, rfl, hr⟩
      · rintro ⟨other, -, rfl, hr⟩
        exact hr
  change (table rows).map Prod.snd = _
  rw [htable, List.map_map]
  rfl

/-! ### The number of a radio -/

/-- A message is about a radio and no other one: it carries the number of the radio, any number of
times. -/
structure IsAbout (id : UInt32) (row : List Attribute) : Prop where
  mem : Attribute.wiphy id ∈ row
  eq : ∀ other, Attribute.wiphy other ∈ row → other = id

instance (id : UInt32) (row : List Attribute) : Decidable (IsAbout id row) :=
  decidable_of_iff (Attribute.wiphy id ∈ row ∧ ∀ x ∈ row, x.wiphy?.all (· == id) = true)
    ⟨fun ⟨mem, all⟩ => ⟨mem, fun other ho => by simpa [Attribute.wiphy?] using all _ ho⟩,
      fun ⟨mem, eq⟩ => ⟨mem, fun x hx => by
        rw [Option.all_eq_true]
        intro other hother
        rw [Attribute.wiphy?_eq_some_iff.1 hother] at hx
        exact beq_iff_eq.2 (eq other hx)⟩⟩

/-- All that a message says but for the number of the radio. -/
def unnumbered (row : List Attribute) : List Attribute :=
  row.filter fun x => x.wiphy?.isNone

/-- What is known of a radio, under a number. -/
def numbered (id : UInt32) (r : Radio) : Radio :=
  { r with id }

variable {id : UInt32} {row : List Attribute}

theorem learn_numbered {x : Attribute} (h : x.wiphy?.isNone) (r : Radio) :
    (numbered id r).learn x = numbered id (r.learn x) := by
  cases x with
  | wiphy other => cases h
  | _ => rfl

/-- Once the number of a radio is known, repeating it says nothing. -/
theorem merge_numbered (h : ∀ other, Attribute.wiphy other ∈ row → other = id) (r : Radio) :
    (numbered id r).merge row = numbered id (r.merge (unnumbered row)) := by
  induction row generalizing r with
  | nil => rfl
  | cons x row ih =>
    have hrow := ih fun other ho => h other (List.mem_cons_of_mem _ ho)
    rw [merge, List.foldl_cons, ← merge, unnumbered, List.filter_cons, ← unnumbered]
    cases hx : x.wiphy? with
    | none =>
      have hnone : x.wiphy?.isNone = true := by rw [hx]; rfl
      rw [learn_numbered hnone]
      exact hrow (r.learn x)
    | some other =>
      obtain rfl := Attribute.wiphy?_eq_some_iff.1 hx
      obtain rfl : other = id := h other List.mem_cons_self
      exact hrow r

/-- How often and where a message carries the number of its radio does not matter. -/
theorem merge_of_isAbout (h : IsAbout id row) (r : Radio) :
    r.merge row = numbered id (r.merge (unnumbered row)) := by
  -- The message is cut at the first number, in front of which nothing is numbered.
  obtain ⟨front, back, rfl, hfirst⟩ := List.eq_append_cons_of_mem h.mem
  have hfront : unnumbered front = front := by
    refine List.filter_eq_self.2 fun x hx => ?_
    cases hnumber : x.wiphy? with
    | none => rfl
    | some other =>
      obtain rfl := Attribute.wiphy?_eq_some_iff.1 hnumber
      obtain rfl := h.eq other (List.mem_append_left _ hx)
      exact absurd hx hfirst
  have hback : ∀ other, Attribute.wiphy other ∈ back → other = id :=
    fun other ho => h.eq other (List.mem_append_right _ (List.mem_cons_of_mem _ ho))
  have hrest : unnumbered (front ++ .wiphy id :: back) = front ++ unnumbered back := by
    rw [unnumbered, List.filter_append, ← unnumbered, hfront]
    rfl
  rw [hrest, merge_append, merge_append]
  exact merge_numbered hback (r.merge front)

theorem IsAbout.idOf? (h : IsAbout id row) : idOf? row = some id := by
  obtain ⟨other, hother⟩ : ∃ other, Radio.idOf? row = some other := by
    rw [← Option.isSome_iff_exists, Radio.idOf?, List.findSome?_isSome_iff]
    exact ⟨_, h.mem, rfl⟩
  obtain ⟨x, hmem, hx⟩ := List.exists_of_findSome?_eq_some hother
  obtain rfl := Attribute.wiphy?_eq_some_iff.1 hx
  rw [hother, h.eq other hmem]

/-- Messages about a radio are about it when they are taken together. -/
theorem IsAbout.flatten {rows : List (List Attribute)} (hsome : rows ≠ [])
    (h : ∀ row ∈ rows, IsAbout id row) : IsAbout id rows.flatten := by
  obtain ⟨row, hrow⟩ := List.exists_mem_of_ne_nil rows hsome
  refine ⟨List.mem_flatten_of_mem hrow (h row hrow).mem, fun other ho => ?_⟩
  obtain ⟨row, hrow, hmem⟩ := List.mem_flatten.1 ho
  exact (h row hrow).eq other hmem

end Radio

namespace Directory

theorem listRadios_eq {l : Link} {rows : List (List Attribute)}
    (h : (l.execute .getRadio [.splitWiphyDump] true .newRadio).1 = .ok rows) :
    (listRadios l).1 = .ok (Radio.ofRows rows).1 := by
  rw [listRadios]
  rcases hreply : l.execute .getRadio [.splitWiphyDump] true .newRadio with ⟨reply, after⟩
  obtain rfl : reply = .ok rows := by rw [← h, hreply]
  rfl

end Directory

/-! ### Cutting descriptions -/

/-- All that is said of a radio. -/
structure RadioDescription where
  id : UInt32
  attributes : List Attribute
  isAbout : Radio.IsAbout id attributes

namespace RadioDescription

/-- The radio that is described. -/
def radio (d : RadioDescription) : Radio :=
  Radio.blank.merge d.attributes

/-- A description is cut into messages: each carries the number of the radio, which may have to be
repeated for that, and together they say the rest of the description, in order. -/
structure IsCut (d : RadioDescription) (pieces : List (List Attribute)) : Prop where
  ne_nil : pieces ≠ []
  isAbout : ∀ piece ∈ pieces, Radio.IsAbout d.id piece
  same : Radio.unnumbered pieces.flatten = Radio.unnumbered d.attributes

instance (d : RadioDescription) (pieces : List (List Attribute)) : Decidable (d.IsCut pieces) :=
  decidable_of_iff (pieces ≠ [] ∧ (∀ piece ∈ pieces, Radio.IsAbout d.id piece)
      ∧ Radio.unnumbered pieces.flatten = Radio.unnumbered d.attributes)
    ⟨fun ⟨ne_nil, isAbout, same⟩ => ⟨ne_nil, isAbout, same⟩,
      fun ⟨ne_nil, isAbout, same⟩ => ⟨ne_nil, isAbout, same⟩⟩

/-- A dump of some radios: each message is about one of them or carries no number, and the messages
that carry the number of a radio are, in the order in which they come, a cut of its description. -/
structure IsDump (radios : List RadioDescription) (dump : List (List Attribute)) : Prop where
  about : ∀ row ∈ dump, (∃ d ∈ radios, Radio.IsAbout d.id row) ∨ ∀ x ∈ row, x.wiphy? = none
  cut : ∀ d ∈ radios, d.IsCut (dump.filter fun row => Attribute.wiphy d.id ∈ row)

instance (radios : List RadioDescription) (dump : List (List Attribute)) :
    Decidable (IsDump radios dump) :=
  decidable_of_iff ((∀ row ∈ dump, (∃ d ∈ radios, Radio.IsAbout d.id row)
        ∨ ∀ x ∈ row, x.wiphy? = none)
      ∧ ∀ d ∈ radios, d.IsCut (dump.filter fun row => Attribute.wiphy d.id ∈ row))
    ⟨fun ⟨about, cut⟩ => ⟨about, cut⟩, fun ⟨about, cut⟩ => ⟨about, cut⟩⟩

theorem id_radio (d : RadioDescription) : d.radio.id = d.id := by
  rw [radio, Radio.merge_of_isAbout d.isAbout]
  rfl

theorem IsCut.merge_flatten {d : RadioDescription} {pieces : List (List Attribute)}
    (h : d.IsCut pieces) : Radio.blank.merge pieces.flatten = d.radio := by
  have habout : Radio.IsAbout d.id pieces.flatten := .flatten h.ne_nil h.isAbout
  rw [radio, Radio.merge_of_isAbout habout, Radio.merge_of_isAbout d.isAbout, h.same]

variable {radios : List RadioDescription} {dump : List (List Attribute)}

namespace IsDump

/-- The messages found to be about a radio are those that carry its number. -/
theorem messagesOf_eq (h : IsDump radios dump) (id : UInt32) :
    Radio.messagesOf dump id = dump.filter fun row => Attribute.wiphy id ∈ row := by
  refine List.filter_congr fun row hrow => ?_
  rw [Bool.eq_iff_iff, beq_iff_eq, decide_eq_true_iff]
  rcases h.about row hrow with ⟨d, -, habout⟩ | hnone
  · rw [habout.idOf?, Option.some.injEq]
    exact ⟨fun hid => hid ▸ habout.mem, fun hmem => (habout.eq id hmem).symm⟩
  · rw [Radio.idOf?, List.findSome?_eq_none_iff.2 hnone]
    exact iff_of_false nofun fun hmem => nomatch hnone _ hmem

theorem mem_ids_iff (h : IsDump radios dump) {id : UInt32} :
    id ∈ Radio.ids dump ↔ ∃ d ∈ radios, d.id = id := by
  rw [Radio.mem_ids_iff, h.messagesOf_eq]
  constructor
  · intro hsome
    obtain ⟨row, hrow⟩ := List.exists_mem_of_ne_nil _ hsome
    obtain ⟨hmem, hid⟩ := List.mem_filter.1 hrow
    have hid : Attribute.wiphy id ∈ row := of_decide_eq_true hid
    rcases h.about row hmem with ⟨d, hd, habout⟩ | hnone
    · exact ⟨d, hd, (habout.eq id hid).symm⟩
    · exact nomatch hnone _ hid
  · rintro ⟨d, hd, rfl⟩
    exact (h.cut d hd).ne_nil

theorem described_eq (h : IsDump radios dump) {d : RadioDescription} (hd : d ∈ radios) :
    Radio.described dump d.id = d.radio := by
  rw [Radio.described, h.messagesOf_eq]
  exact (h.cut d hd).merge_flatten

theorem ofRows_perm (h : IsDump radios dump) (hdistinct : (radios.map RadioDescription.id).Nodup) :
    (Radio.ofRows dump).1.Perm (radios.map RadioDescription.radio) := by
  have hids : (Radio.ids dump).Perm (radios.map RadioDescription.id) :=
    (List.perm_ext_iff_of_nodup (Radio.pairwise_ids dump).nodup hdistinct).2 fun id => by
      rw [h.mem_ids_iff, List.mem_map]
  have hradios : radios.map RadioDescription.radio
      = (radios.map RadioDescription.id).map (Radio.described dump) := by
    rw [List.map_map]
    exact List.map_congr_left fun d hd => (h.described_eq hd).symm
  rw [Radio.ofRows_eq, hradios]
  exact hids.map _

theorem ofRows_eq_ofRows {other : List (List Attribute)} (h : IsDump radios dump)
    (h' : IsDump radios other) : (Radio.ofRows dump).1 = (Radio.ofRows other).1 := by
  have hids : Radio.ids dump = Radio.ids other :=
    (Radio.pairwise_ids dump).eq_of_mem_iff (Radio.pairwise_ids other) fun id => by
      rw [h.mem_ids_iff, h'.mem_ids_iff]
  rw [Radio.ofRows_eq, Radio.ofRows_eq, ← hids]
  refine List.map_congr_left fun id hid => ?_
  obtain ⟨d, hd, rfl⟩ := h.mem_ids_iff.1 hid
  rw [h.described_eq hd, h'.described_eq hd]

theorem map_id_ofRows (h : IsDump radios dump) :
    (Radio.ofRows dump).1.map Radio.id = Radio.ids dump := by
  have hid : ∀ id ∈ Radio.ids dump, (Radio.described dump id).id = id := by
    intro id hid
    obtain ⟨d, hd, rfl⟩ := h.mem_ids_iff.1 hid
    rw [h.described_eq hd, d.id_radio]
  rw [Radio.ofRows_eq, List.map_map]
  exact (List.map_congr_left hid).trans (List.map_id _)

end IsDump

theorem isDump_map_attributes (hdistinct : (radios.map id).Nodup) :
    IsDump radios (radios.map attributes) where
  about row hrow := by
    obtain ⟨d, hd, rfl⟩ := List.mem_map.1 hrow
    exact .inl ⟨d, hd, d.isAbout⟩
  cut d hd := by
    obtain ⟨front, back, rfl⟩ := List.append_of_mem hd
    have hcarries (e : RadioDescription) :
        decide (Attribute.wiphy d.id ∈ e.attributes) = (e.id == d.id) := by
      rw [Bool.eq_iff_iff, decide_eq_true_iff, beq_iff_eq]
      exact ⟨fun hmem => (e.isAbout.eq d.id hmem).symm, fun hid => hid ▸ e.isAbout.mem⟩
    have hothers : ∀ e ∈ front ++ back, (e.id == d.id) = false := by
      rw [(List.perm_middle.map id).nodup_iff, List.map_cons, List.nodup_cons] at hdistinct
      exact fun e he => beq_eq_false_iff_ne.2 fun hid => hdistinct.1 (hid ▸ List.mem_map_of_mem he)
    have hfront : front.filter (fun e => e.id == d.id) = [] :=
      List.filter_eq_nil_iff.2 fun e he => by simp [hothers e (List.mem_append_left _ he)]
    have hback : back.filter (fun e => e.id == d.id) = [] :=
      List.filter_eq_nil_iff.2 fun e he => by simp [hothers e (List.mem_append_right _ he)]
    have honly : ((front ++ d :: back).map attributes).filter
        (fun row => Attribute.wiphy d.id ∈ row) = [d.attributes] := by
      rw [List.filter_map, Function.comp_def]
      simp only [hcarries]
      rw [List.filter_append, hfront, List.filter_cons_of_pos (by simp), hback]
      rfl
    rw [honly]
    refine ⟨List.cons_ne_nil _ _, fun piece hpiece => ?_, ?_⟩
    · rw [List.mem_singleton.1 hpiece]
      exact d.isAbout
    · rw [List.flatten_singleton]

/-- However the descriptions of some radios are cut into messages, and however the messages about
different radios are mixed with one another and with messages about none, the directory lists the
same: the radios that are described, in ascending order of their numbers, one for each number that
occurs in the dump. -/
theorem every_dump_lists_same_radios (radios : List RadioDescription)
    (hdistinct : (radios.map id).Nodup) :
    ∃ list : List Radio, list.Pairwise (fun r s => r.id < s.id) ∧ list.Perm (radios.map radio)
      ∧ ∀ dump, IsDump radios dump →
        (∀ id, (∃ r ∈ list, r.id = id) ↔ ∃ row ∈ dump, Attribute.wiphy id ∈ row)
        ∧ ∀ l : Link, (l.execute .getRadio [.splitWiphyDump] true .newRadio).1 = .ok dump →
          (Directory.listRadios l).1 = .ok list := by
  have hwhole := isDump_map_attributes hdistinct
  refine ⟨(Radio.ofRows (radios.map attributes)).1, ?_, hwhole.ofRows_perm hdistinct,
    fun dump hdump => ⟨fun id => ?_, fun l hl => ?_⟩⟩
  · have hascending := Radio.pairwise_ids (radios.map attributes)
    rw [← hwhole.map_id_ofRows, List.pairwise_map] at hascending
    exact hascending
  · rw [hwhole.ofRows_eq_ofRows hdump, ← List.mem_map, hdump.map_id_ofRows, Radio.mem_ids_iff,
      hdump.messagesOf_eq, ne_eq, List.filter_eq_nil_iff]
    simp only [decide_eq_true_iff, not_forall, not_not, exists_prop]
  · rw [Directory.listRadios_eq hl, hdump.ofRows_eq_ofRows hwhole]

/-- A link that answers a dump. -/
def answering (dump : List (List Attribute)) : Link :=
  .start 0 [{ Answer.granted with rows := dump }]

/-- Two radios, the second of which carries its number twice. -/
def pair : List RadioDescription :=
  [⟨0, [.wiphy 0, .wiphyName "phy0", .wiphyBands 1, .wiphyBands 1, .offchannelTxOk], by decide⟩,
   ⟨1, [.wiphyName "phy1", .wiphy 1, .supportedIftypes [.monitor], .wiphy 1], by decide⟩]

/-- A dump of the two radios in which their messages are mixed with one another and with one about
no radio. -/
def mixedDump : List (List Attribute) :=
  [[.wiphy 1, .wiphyName "phy1"], [.wiphy 0, .wiphyName "phy0", .wiphyBands 1], [.generation 7],
   [.supportedIftypes [.monitor], .wiphy 1], [.wiphyBands 1, .offchannelTxOk, .wiphy 0]]

/-- The mixed dump lists the two radios as they are described. -/
theorem every_dump_lists_same_radios_mixed :
    (pair.map id).Nodup ∧ IsDump pair mixedDump ∧ IsDump pair (pair.map attributes)
      ∧ ∃ list, list.Perm (pair.map radio)
        ∧ (Directory.listRadios (answering mixedDump)).1 = .ok list
        ∧ (Directory.listRadios (answering (pair.map attributes))).1 = .ok list := by
  have hdistinct : (pair.map id).Nodup := by decide
  have hmixed : IsDump pair mixedDump := by decide +kernel
  have hwhole : IsDump pair (pair.map attributes) := isDump_map_attributes hdistinct
  obtain ⟨list, -, hperm, hall⟩ := every_dump_lists_same_radios pair hdistinct
  exact ⟨hdistinct, hmixed, hwhole, list, hperm, (hall _ hmixed).2 _ rfl, (hall _ hwhole).2 _ rfl⟩

end RadioDescription

/-! ### Bands -/

/-- The bands that a record describes: the types of the entries in it, if it is one about bands. -/
def Record.bandIds (r : Record) : List UInt16 :=
  if r.type = AttributeType.wiphyBands then ((Attribute.nested? r.data).getD []).map Record.type
  else []

namespace GenericMessage

/-- The bands that a message describes. -/
def bandIds (m : GenericMessage) : List UInt16 :=
  m.records.flatMap Record.bandIds

/-- What a message says, as the directory gets it. -/
def row (m : GenericMessage) : List Attribute :=
  m.records.map Attribute.ofRecord

end GenericMessage

namespace Radio

/-- The bands that the messages about a radio describe, as often as they describe them. -/
def bandIdsOf (messages : List GenericMessage) (id : UInt32) : List UInt16 :=
  (messages.filter fun m => idOf? m.row == some id).flatMap GenericMessage.bandIds

theorem bands_learn_ofRecord (r : Radio) (x : Record) :
    (r.learn (Attribute.ofRecord x)).bands = r.bands + x.bandIds.length := by
  by_cases htype : x.type = AttributeType.wiphyBands
  · have htyped : Attribute.typed? x.type x.data
        = (Attribute.nested? x.data).map fun entries => .wiphyBands entries.length := by
      rw [htype]
      rfl
    rw [Record.bandIds, if_pos htype, Attribute.ofRecord, Attribute.decode, htyped]
    cases Attribute.nested? x.data with
    | none => rfl
    | some entries =>
      change r.bands + entries.length = r.bands + (entries.map Record.type).length
      rw [List.length_map]
  · have hother : (Attribute.ofRecord x).type ≠ AttributeType.wiphyBands := by
      rwa [Attribute.ofRecord, Attribute.type_decode]
    rw [Record.bandIds, if_neg htype]
    cases hx : Attribute.ofRecord x with
    | wiphyBands count => exact absurd (by rw [hx]; rfl) hother
    | _ => rfl

theorem bands_merge (r : Radio) (records : List Record) :
    (r.merge (records.map Attribute.ofRecord)).bands
      = r.bands + (records.flatMap Record.bandIds).length := by
  induction records generalizing r with
  | nil => rfl
  | cons x records ih =>
    rw [List.map_cons, merge, List.foldl_cons, ← merge, ih, bands_learn_ofRecord, List.flatMap_cons,
      List.length_append, Nat.add_assoc]

/-- The band count of a radio is the number of descriptions of bands in the messages about it. -/
theorem bands_described (messages : List GenericMessage) (id : UInt32) :
    (described (messages.map GenericMessage.row) id).bands = (bandIdsOf messages id).length := by
  have hrecords : (messagesOf (messages.map GenericMessage.row) id).flatten
      = ((messages.filter fun m => idOf? m.row == some id).flatMap GenericMessage.records).map
          Attribute.ofRecord := by
    rw [messagesOf, List.filter_map, List.map_flatMap]
    rfl
  rw [described, hrecords, bands_merge, List.flatMap_assoc]
  exact Nat.zero_add _

end Radio

namespace Directory

/-- The band count of each radio is the number of times that the messages about it describe a band.
So it is the number of its bands exactly when no band is described twice. -/
theorem band_count_adds_up (l : Link) (messages : List GenericMessage)
    (h : (l.execute .getRadio [.splitWiphyDump] true .newRadio).1
      = .ok (messages.map GenericMessage.row)) :
    ∃ radios, (listRadios l).1 = .ok radios
      ∧ List.Forall₂ (fun id r => r.bands = (Radio.bandIdsOf messages id).length
          ∧ (r.bands = (Radio.bandIdsOf messages id).dedup.length
            ↔ (Radio.bandIdsOf messages id).Nodup))
        (Radio.ids (messages.map GenericMessage.row)) radios := by
  refine ⟨_, listRadios_eq h, ?_⟩
  rw [Radio.ofRows_eq, List.forall₂_map_right_iff, List.forall₂_same]
  rintro id -
  rw [Radio.bands_described]
  refine ⟨rfl, fun hlength => ?_, fun hnodup => by rw [hnodup.dedup]⟩
  rw [← (List.dedup_sublist _).eq_of_length hlength.symm]
  exact List.nodup_dedup _

/-- The description of one channel of a band of radio 0. -/
def channelMessage (band channel : UInt16) (frequency : Nat) : GenericMessage :=
  let description := Record.encode ⟨channel, Record.encode ⟨1, LittleEndian.encode 4 frequency⟩⟩
  ⟨Command.newRadio.code, 1,
    [⟨AttributeType.wiphy, [0, 0, 0, 0]⟩,
     ⟨AttributeType.wiphyBands, Record.encode ⟨band, Record.encode ⟨1, description⟩⟩⟩]⟩

/-- Two channels of the only band of a radio, each in a message of its own. -/
def splitBand : List GenericMessage :=
  [channelMessage 0 0 2412, channelMessage 0 1 2417]

/-- The two messages count as two bands. -/
theorem band_count_adds_up_split :
    let l := RadioDescription.answering (splitBand.map GenericMessage.row)
    (l.execute .getRadio [.splitWiphyDump] true .newRadio).1
        = .ok (splitBand.map GenericMessage.row)
      ∧ Radio.bandIdsOf splitBand 0 = [0, 0]
      ∧ ∃ r : Radio, (listRadios l).1 = .ok [r] ∧ r.bands = 2 := by
  have hbands : Radio.bandIdsOf splitBand 0 = [0, 0] := by decide +kernel
  have hids : Radio.ids (splitBand.map GenericMessage.row) = [0] := by decide +kernel
  obtain ⟨radios, hlist, hcount⟩ := band_count_adds_up
    (RadioDescription.answering (splitBand.map GenericMessage.row)) splitBand rfl
  rw [hids] at hcount
  cases hcount with
  | cons hfirst hrest =>
    cases hrest
    exact ⟨rfl, hbands, _, hlist, by rw [hfirst.1, hbands]; rfl⟩

/-- It is not so that the band count of each radio is the number of its bands. -/
theorem not_all_band_counts_distinct :
    ¬ ∀ (l : Link) (messages : List GenericMessage) (radios : List Radio),
      (l.execute .getRadio [.splitWiphyDump] true .newRadio).1
        = .ok (messages.map GenericMessage.row) →
      (listRadios l).1 = .ok radios →
      List.Forall₂ (fun id r => r.bands = (Radio.bandIdsOf messages id).dedup.length)
        (Radio.ids (messages.map GenericMessage.row)) radios := by
  intro hall
  have hids : Radio.ids (splitBand.map GenericMessage.row) = [0] := by decide +kernel
  have hlist : (listRadios (RadioDescription.answering (splitBand.map GenericMessage.row))).1
      = .ok [⟨0, "", [], 2, false⟩] := by decide +kernel
  have hcount := hall _ splitBand _ rfl hlist
  rw [hids] at hcount
  cases hcount with
  | cons hfirst hrest =>
    revert hfirst
    decide +kernel

end Directory

end NeighborAwareness
