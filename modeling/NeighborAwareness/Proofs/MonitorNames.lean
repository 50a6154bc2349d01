import Mathlib.Data.List.DropRight
import Mathlib.Data.List.Nodup
import NeighborAwareness.Proofs.MonitorSupply

/-!
# Names of monitors

The name of a monitor is a stem that does not end in a digit, followed by the number of the radio in
decimal digits. Such a name can be taken apart in one way only, so different radios never get the
same name, and a name that was made for one radio serves as the base for the others.

## Main definitions

* `Call.names` : the interface names in a call.

## Main results

* `Directory.toList_monitorName` : stem and number of a name.
* `Directory.monitorName_inj` : when two names are equal.
* `Directory.ensureMonitors_makes` : the calls about all radios that are listed.
* `Directory.names_never_collide` : names of monitors, and those that are asked for in one run.
-/

namespace NeighborAwareness

/-- Characters behind others that are all dropped do not matter. -/
theorem Text.dropEnd_append_of_forall {p : Char → Bool} (front : List Char) {back : List Char}
    (h : ∀ c ∈ back, p c = true) : dropEnd p (front ++ back) = dropEnd p front := by
  induction back using List.reverseRecOn with
  | nil => rw [List.append_nil]
  | append_singleton back c ih =>
    have hlast : p c = true := h c (List.mem_append_right _ List.mem_cons_self)
    calc dropEnd p (front ++ (back ++ [c]))
        = List.rdropWhile p ((front ++ back) ++ [c]) := by rw [List.append_assoc]; rfl
      _ = List.rdropWhile p (front ++ back) := List.rdropWhile_concat_pos p _ c hlast
      _ = dropEnd p front := ih fun d hd => h d (List.mem_append_left _ hd)

/-- The interface name in an attribute. -/
def Attribute.ifname? : Attribute → Option String
  | ifname name => some name
  | _ => none

namespace Call

/-- The attributes that a call hands over. -/
def attributes : Call → List Attribute
  | execute _ attributes _ _ => attributes
  | send _ attributes => attributes
  | subscribe _ attributes => attributes
  | bringUp _ => []

/-- The interface names in a call. -/
def names (call : Call) : List String :=
  call.attributes.filterMap Attribute.ifname?

end Call

namespace Directory

/-! ### Names -/

/-- What stands in front of the number in a name that is made from `base`. -/
def stem (base : String) : List Char :=
  base.toList.rdropWhile Char.isDigit

variable (b c : String) (p q : UInt32)

/-- A name is the stem and then the number of the radio. -/
theorem toList_monitorName :
    (monitorName b p).toList = stem b ++ Nat.toDigits 10 p.toNat := by
  rw [monitorName, String.toList_append, String.toList_ofList, Nat.toString_eq_repr,
    Nat.toList_repr]
  rfl

theorem stem_monitorName : stem (monitorName b p) = stem b := by
  have hdigits : ∀ d ∈ Nat.toDigits 10 p.toNat, d.isDigit = true :=
    fun d hd => Nat.isDigit_of_mem_toDigits (by decide) (by decide) hd
  calc stem (monitorName b p)
      = Text.dropEnd Char.isDigit (stem b ++ Nat.toDigits 10 p.toNat) := by
        rw [stem, toList_monitorName]
        rfl
    _ = List.rdropWhile Char.isDigit (stem b) := Text.dropEnd_append_of_forall _ hdigits
    _ = stem b := List.rdropWhile_idempotent Char.isDigit b.toList

/-- Two names are equal just if they are made from the same stem and for the same radio. -/
theorem monitorName_inj : monitorName b p = monitorName c q ↔ p = q ∧ stem b = stem c := by
  constructor
  · intro hname
    have hstem : stem b = stem c := by
      rw [← stem_monitorName b p, hname, stem_monitorName c q]
    have hdigits : Nat.toDigits 10 p.toNat = Nat.toDigits 10 q.toNat := by
      have hsame := congrArg String.toList hname
      rw [toList_monitorName, toList_monitorName, hstem] at hsame
      exact List.append_cancel_left hsame
    have hnumber := congrArg (Nat.ofDigitChars 10 · 0) hdigits
    simp only [Nat.ofDigitChars_ten_toDigits, UInt32.toNat_inj] at hnumber
    exact ⟨hnumber, hstem⟩
  · rintro ⟨rfl, hstem⟩
    rw [← String.toList_inj, toList_monitorName, toList_monitorName, hstem]

theorem monitorName_monitorName : monitorName (monitorName b p) q = monitorName b q :=
  (monitorName_inj ..).2 ⟨rfl, stem_monitorName b p⟩

/-! ### Names that are asked for -/

variable {base : String} {interfaces : List Interface}

/-- The interface names in calls. -/
def namesAsked (made : List (Call × Answer)) : List String :=
  made.flatMap fun x => x.1.names

theorem flatMap_names (made : List (Call × Answer)) :
    (made.map Prod.fst).flatMap Call.names = namesAsked made :=
  List.flatMap_map ..

theorem namesAsked_append (made more : List (Call × Answer)) :
    namesAsked (made ++ more) = namesAsked made ++ namesAsked more :=
  List.flatMap_append

theorem namesAsked_bringUp {made : List (Call × Answer)} {brought : List Interface}
    (h : made.map Prod.fst = brought.map fun i => .bringUp i.index) : namesAsked made = [] := by
  rw [← flatMap_names, h, List.flatMap_map]
  exact List.flatMap_eq_nil_iff.2 fun _ _ => rfl

/-- What is done about a radio asks for one name at most, which is that of its monitor. -/
theorem CaresFor.sublist_names {id : UInt32} {capable : Bool} {made : List (Call × Answer)}
    (h : CaresFor base interfaces id capable made) :
    (namesAsked made).Sublist [monitorName base id] := by
  cases h with
  | present _ hmade =>
    rw [namesAsked_bringUp hmade]
    exact List.nil_sublist _
  | incapable => exact List.nil_sublist _
  | @missing answer made _ _ hmade =>
    rw [← List.singleton_append, namesAsked_append, namesAsked_bringUp hmade, List.append_nil]
    exact List.Sublist.refl _

/-- What is done about radios asks for names of their monitors, in the order of the radios. -/
theorem sublist_namesAsked {radios : List Radio} {parts : List (List (Call × Answer))}
    (h : List.Forall₂ (fun r => CaresFor base interfaces r.id r.supportsMonitor) radios parts) :
    (namesAsked parts.flatten).Sublist (radios.map fun r => monitorName base r.id) := by
  induction h with
  | nil => exact List.Sublist.refl _
  | cons hfirst _ ih =>
    rw [List.flatten_cons, namesAsked_append, List.map_cons, ← List.singleton_append]
    exact hfirst.sublist_names.append ih

theorem namesAsked_between_dumps (radios first last : Answer) (made : List (Call × Answer)) :
    namesAsked ((radioDump, radios) :: (interfaceDump, first) :: (made ++ [(interfaceDump, last)]))
      = namesAsked made := by
  calc
    _ = namesAsked (made ++ [(interfaceDump, last)]) := rfl
    _ = namesAsked made ++ [] := namesAsked_append ..
    _ = namesAsked made := List.append_nil _

/-- A run makes the calls about all radios that are listed, between dumps in which no name occurs.
Without one of the first two dumps it makes none. -/
theorem ensureMonitors_makes (d : Directory) (l : Link) (base : String) :
    ∃ made radios interfaces parts, l.Makes made (d.ensureMonitors l base).2.2
      ∧ (radios = [] ∨ (listRadios l).1 = .ok radios)
      ∧ List.Forall₂ (fun r => CaresFor base interfaces r.id r.supportsMonitor) radios parts
      ∧ namesAsked made = namesAsked parts.flatten := by
  rw [ensureMonitors, listRadios_take]
  cases (l.take radioDump).1.reply with
  | error failure => exact ⟨_, [], [], [], .call _ (.done _), .inl rfl, .nil, rfl⟩
  | ok rows =>
    dsimp only
    rw [listInterfaces_take]
    generalize hasked : (l.take radioDump).2.noted (Radio.ofRows rows).2 = asked
    -- The calls so far are made first, whatever the way is from there.
    have hask {made : List (Call × Answer)} {after : Link} (hway : asked.Makes made after) :
        l.Makes ((radioDump, (l.take radioDump).1) :: made) after :=
      .call radioDump (.noted (Radio.ofRows rows).2 (hasked ▸ hway))
    cases (asked.take interfaceDump).1.reply with
    | error failure =>
      exact ⟨_, [], [], [], hask (.call interfaceDump (.done _)), .inl rfl, .nil, rfl⟩
    | ok before =>
      dsimp only
      obtain ⟨parts, hsupply, hparts⟩ := foldl_ensure_makes base (Interface.ofRows before).1
        ((asked.take interfaceDump).2.noted (Interface.ofRows before).2) (Radio.ofRows rows).1
      generalize (Radio.ofRows rows).1.foldl _ _ = supplied at hsupply
      have hall {more : List (Call × Answer)} {after : Link} (hway : supplied.Makes more after) :=
        hask (.call interfaceDump (.noted (Interface.ofRows before).2 (hsupply.append hway)))
      refine ⟨_, (Radio.ofRows rows).1, _, parts, ?_, .inr rfl, hparts,
        namesAsked_between_dumps (l.take radioDump).1 (asked.take interfaceDump).1
          (supplied.take interfaceDump).1 parts.flatten⟩
      rw [listInterfaces_take]
      cases (supplied.take interfaceDump).1.reply with
      | error failure => exact hall (.call interfaceDump (.done _))
      | ok now => exact hall (.single supplied interfaceDump _)

/-- Names of monitors do not collide. Two are equal just if they are made for the same radio and
from bases that are equal without the digits at their ends, and a name may take the place of its
base. So if no two radios that are listed have the same number, a run to supply all radios asks for
no name twice, whatever its base, and asks for names of monitors only. -/
theorem names_never_collide :
    (∀ (b c : String) (p q : UInt32), monitorName b p = monitorName c q
        ↔ p = q ∧ b.toList.rdropWhile Char.isDigit = c.toList.rdropWhile Char.isDigit)
      ∧ (∀ (b : String) (p q : UInt32), monitorName (monitorName b p) q = monitorName b q)
      ∧ ∀ (d : Directory) (l : Link) (base : String),
        (∀ radios, (listRadios l).1 = .ok radios → (radios.map Radio.id).Nodup) →
        ∃ made, (d.ensureMonitors l base).2.2.calls.map Prod.snd = l.calls.map Prod.snd ++ made
          ∧ (made.flatMap Call.names).Nodup
          ∧ ∀ name ∈ made.flatMap Call.names, ∃ radios, (listRadios l).1 = .ok radios
            ∧ ∃ r ∈ radios, name = monitorName base r.id := by
  refine ⟨monitorName_inj, monitorName_monitorName, fun d l base hdistinct => ?_⟩
  obtain ⟨made, radios, interfaces, parts, hway, hradios, hparts, hnames⟩ :=
    ensureMonitors_makes d l base
  have hsublist : ((made.map Prod.fst).flatMap Call.names).Sublist
      (radios.map fun r => monitorName base r.id) := by
    rw [flatMap_names, hnames]
    exact sublist_namesAsked hparts
  refine ⟨made.map Prod.fst, hway.calls_eq, hsublist.nodup ?_, fun name hname => ?_⟩
  · have hids : (radios.map Radio.id).Nodup := by
      rcases hradios with rfl | hradios
      · exact List.nodup_nil
      · exact hdistinct radios hradios
    have hinj : Function.Injective (monitorName base) :=
      fun p q hname => ((monitorName_inj base base p q).1 hname).1
    have hnodup := hids.map hinj
    rwa [List.map_map] at hnodup
  · obtain ⟨r, hr, rfl⟩ := List.mem_map.1 (hsublist.subset hname)
    rcases hradios with rfl | hradios
    · exact absurd hr List.not_mem_nil
    · exact ⟨radios, hradios, r, hr, rfl⟩

/-- With a base of digits alone, the names that four radios get are their numbers. Two of them need
one. -/
theorem names_never_collide_fourRadios :
    let l := Link.start 0 fourRadios
    (∀ radios, (listRadios l).1 = .ok radios → (radios.map Radio.id).Nodup)
      ∧ ∃ made, (empty.ensureMonitors l "42").2.2.calls.map Prod.snd = l.calls.map Prod.snd ++ made
        ∧ made.flatMap Call.names = ["0", "3"] ∧ (made.flatMap Call.names).Nodup := by
  intro l
  have hdistinct : ∀ radios, (listRadios l).1 = .ok radios → (radios.map Radio.id).Nodup := by
    intro radios hradios
    cases hradios
    decide +kernel
  obtain ⟨made, hmade, hnodup, -⟩ := names_never_collide.2.2 empty l "42" hdistinct
  refine ⟨hdistinct, made, hmade, ?_, hnodup⟩
  obtain rfl : made = (empty.ensureMonitors l "42").2.2.calls.map Prod.snd := hmade.symm
  decide +kernel

end Directory

end NeighborAwareness
