import NeighborAwareness.Directory.Monitors
import NeighborAwareness.Proofs.Enumerations
import NeighborAwareness.Proofs.RadioDumps

/-!
# What is done about monitors

To supply all radios with monitors the directory asks for the radios and for the interfaces, does what
is missing radio by radio, and asks for the interfaces again. What is done about a radio depends on
what the two dumps say of it and on the answer to its own creation, so nothing that fails on one radio
changes what is done about another.

## Main definitions

* `Link.Makes` : the calls made through a link on the way, with their answers.
* `Answer.reply`, `Answer.created?` : what an answer says, and the interface that it tells of.
* `Directory.CaresFor` : the calls about one radio.
* `Directory.Supplies` : the calls about all radios of a dump.
* `Directory.Ensures` : all calls, what is returned and what is remembered.

## Main results

* `Directory.ensure_makes` : what is done about one radio.
* `Directory.foldl_ensure_makes` : what is done about one radio after the other.
* `Directory.ensures_what_is_missing` : what is done, whatever is answered.
-/

namespace NeighborAwareness

/-! ### Calls and answers -/

/-- What an answer replies to a request. -/
def Answer.reply (a : Answer) : Except Failure (List (List Attribute)) :=
  match a.failure with
  | some failure => .error failure
  | none => .ok a.rows

/-- The interface that an answered creation yields: the first one described. -/
def Answer.created? (a : Answer) : Option Interface :=
  match a.reply with
  | .error _ => none
  | .ok rows => (Interface.described rows).head?

namespace Link

/-- `l.Makes made after` says that on the way from `l` to `after` just the calls in `made` are made,
each with the answer that the link has for it. Notes may be taken in between. -/
inductive Makes : Link → List (Call × Answer) → Link → Prop
  | done (l : Link) : Makes l [] l
  | noted {l after : Link} {made : List (Call × Answer)} (notes : List Note) :
      Makes (l.noted notes) made after → Makes l made after
  | call {l after : Link} {made : List (Call × Answer)} (call : Call) :
      Makes (l.take call).2 made after → Makes l ((call, (l.take call).1) :: made) after

variable {l after last : Link} {made more : List (Call × Answer)}

namespace Makes

theorem append (h : l.Makes made after) (hmore : after.Makes more last) :
    l.Makes (made ++ more) last := by
  induction h with
  | done l => exact hmore
  | noted notes _ ih => exact .noted notes (ih hmore)
  | call call _ ih => exact .call call (ih hmore)

theorem single (l : Link) (call : Call) (notes : List Note) :
    l.Makes [(call, (l.take call).1)] ((l.take call).2.noted notes) :=
  .call call (.noted notes (.done _))

theorem calls_eq (h : l.Makes made after) :
    after.calls.map Prod.snd = l.calls.map Prod.snd ++ made.map Prod.fst := by
  induction h with
  | done l => rw [List.map_nil, List.append_nil]
  | noted notes _ ih => exact ih
  | call call _ ih =>
    rw [ih, calls_take, List.map_append, List.append_assoc]
    rfl

end Makes

theorem execute_eq (l : Link) (command : Command) (attributes : List Attribute) (dump : Bool)
    (reply : Command) :
    l.execute command attributes dump reply
      = ((l.take (.execute command attributes dump reply)).1.reply,
        (l.take (.execute command attributes dump reply)).2) := by
  rw [execute, Answer.reply]
  dsimp only
  cases (l.take (.execute command attributes dump reply)).1.failure <;> rfl

end Link

namespace Directory

/-! ### The calls -/

/-- Asks for the radios. -/
def radioDump : Call :=
  .execute .getRadio [.splitWiphyDump] true .newRadio

/-- Asks for the interfaces. -/
def interfaceDump : Call :=
  .execute .getInterface [] true .newInterface

/-- Asks for a monitor on a radio. -/
def creation (base : String) (phy : UInt32) : Call :=
  .execute .newInterface [.ifname (monitorName base phy), .wiphy phy, .iftype .monitor] false
    .newInterface

/-- A message is about one radio at most. -/
def SaysOneNumber (row : List Attribute) : Prop :=
  ∀ a b, Attribute.wiphy a ∈ row → Attribute.wiphy b ∈ row → a = b

/-- The calls about one radio, given the interfaces that there are: all its monitors are brought up,
and if it has none and can have one, a monitor is created and brought up. What other calls are
answered is of no concern. -/
inductive CaresFor (base : String) (interfaces : List Interface) (id : UInt32) (capable : Bool) :
    List (Call × Answer) → Prop
  /-- There are monitors. -/
  | present {made : List (Call × Answer)} (hsome : Partition.monitorsOn id interfaces ≠ [])
      (hmade : made.map Prod.fst
        = (Partition.monitorsOn id interfaces).map fun i => .bringUp i.index) :
      CaresFor base interfaces id capable made
  /-- There is none, and none can be. -/
  | incapable (hnone : Partition.monitorsOn id interfaces = []) (hcapable : capable = false) :
      CaresFor base interfaces id capable []
  /-- There is none yet. If the answer tells of an interface, that is brought up. -/
  | missing {answer : Answer} {made : List (Call × Answer)}
      (hnone : Partition.monitorsOn id interfaces = []) (hcapable : capable = true)
      (hmade : made.map Prod.fst = answer.created?.toList.map fun i => .bringUp i.index) :
      CaresFor base interfaces id capable ((creation base id, answer) :: made)

/-- The calls about the radios that messages describe, one radio after the other: those that some
message is about, in ascending order of their numbers. -/
def Supplies (base : String) (rows : List (List Attribute)) (interfaces : List Interface)
    (made : List (Call × Answer)) : Prop :=
  ∃ ids parts, ids.Pairwise (· < ·)
    ∧ (∀ id, id ∈ ids ↔ ∃ row ∈ rows, Attribute.wiphy id ∈ row)
    ∧ List.Forall₂
        (fun id => CaresFor base interfaces id (Radio.described rows id).supportsMonitor) ids parts
    ∧ made = parts.flatten

/-- `Ensures base d made result after` says which calls a directory makes to supply all radios, what
it returns and what it remembers. -/
inductive Ensures (base : String) (d : Directory) :
    List (Call × Answer) → Except Failure Partition → Directory → Prop
  /-- Without the radios nothing is done. -/
  | noRadios {radios : Answer} {failure : Failure} (hradios : radios.reply = .error failure) :
      Ensures base d [(radioDump, radios)] (.error failure) d
  /-- Without the interfaces nothing is done. -/
  | noInterfaces {radios first : Answer} {rows : List (List Attribute)} {failure : Failure}
      (hradios : radios.reply = .ok rows) (hfirst : first.reply = .error failure) :
      Ensures base d [(radioDump, radios), (interfaceDump, first)] (.error failure) d
  /-- All is done, but what there is in the end is not known. -/
  | unconfirmed {radios first last : Answer} {rows before : List (List Attribute)}
      {interfaces : List Interface} {made : List (Call × Answer)} {failure : Failure} {p : Partition}
      (hradios : radios.reply = .ok rows) (hfirst : first.reply = .ok before)
      (hinterfaces : Interface.Enumerates before interfaces)
      (hmade : Supplies base rows interfaces made) (hlast : last.reply = .error failure)
      (hpartition : Partition.Splits interfaces p) :
      Ensures base d
        ((radioDump, radios) :: (interfaceDump, first) :: made ++ [(interfaceDump, last)])
        (.error failure) ⟨p⟩
  /-- All is done, and what there is in the end is returned. -/
  | confirmed {radios first last : Answer} {rows before now : List (List Attribute)}
      {interfaces current : List Interface} {made : List (Call × Answer)} {p : Partition}
      (hradios : radios.reply = .ok rows) (hfirst : first.reply = .ok before)
      (hinterfaces : Interface.Enumerates before interfaces)
      (hmade : Supplies base rows interfaces made) (hlast : last.reply = .ok now)
      (hcurrent : Interface.Enumerates now current) (hpartition : Partition.Splits current p) :
      Ensures base d
        ((radioDump, radios) :: (interfaceDump, first) :: made ++ [(interfaceDump, last)])
        (.ok p) ⟨p⟩

/-! ### One radio -/

theorem activate_makes (created : Bool) (l : Link) (i : Interface) :
    ∃ answer, l.Makes [(.bringUp i.index, answer)] (activate created l i) := by
  refine ⟨(l.take (.bringUp i.index)).1, ?_⟩
  rw [activate, Link.bringUp]
  dsimp only
  cases (l.take (.bringUp i.index)).1.failure with
  | none => exact .call _ (.done _)
  | some failure => exact .single l _ _

/-- Bringing interfaces up is one call for each, whatever fails. -/
theorem foldl_activate_makes (created : Bool) (l : Link) (interfaces : List Interface) :
    ∃ made, l.Makes made (interfaces.foldl (activate created) l)
      ∧ made.map Prod.fst = interfaces.map fun i => .bringUp i.index := by
  induction interfaces generalizing l with
  | nil => exact ⟨[], .done l, rfl⟩
  | cons i interfaces ih =>
    obtain ⟨answer, hfirst⟩ := activate_makes created l i
    obtain ⟨made, hrest, hcalls⟩ := ih (activate created l i)
    refine ⟨(.bringUp i.index, answer) :: made, hfirst.append hrest, ?_⟩
    rw [List.map_cons, hcalls, List.map_cons]

theorem findSome?_ofRow? (rows : List (List Attribute)) :
    rows.findSome? Interface.ofRow? = (Interface.described rows).head? := by
  rw [← Interface.filterMap_ofRow?, List.head?_filterMap]

/-- A creation is one call, and it yields what the answer tells of. -/
theorem createMonitor_eq (base : String) (l : Link) (phy : UInt32) :
    ∃ result, createMonitor l phy (monitorName base phy) = (result, (l.take (creation base phy)).2)
      ∧ result.toOption = (l.take (creation base phy)).1.created? := by
  rw [createMonitor, Link.execute_eq, ← creation, Answer.created?]
  cases (l.take (creation base phy)).1.reply with
  | error failure => exact ⟨_, rfl, rfl⟩
  | ok rows =>
    dsimp only
    rw [findSome?_ofRow?]
    cases (Interface.described rows).head? with
    | none => exact ⟨_, rfl, rfl⟩
    | some i => exact ⟨_, rfl, rfl⟩

/-- The interface that a creation yields is brought up by another call. -/
theorem supply_makes (base : String) (l : Link) (phy : UInt32) :
    ∃ answer made, l.Makes ((creation base phy, answer) :: made) (supply base l phy)
      ∧ made.map Prod.fst = answer.created?.toList.map fun i => .bringUp i.index := by
  obtain ⟨result, hcreate, hcreated⟩ := createMonitor_eq base l phy
  refine ⟨(l.take (creation base phy)).1, ?_⟩
  rw [supply, hcreate, ← hcreated]
  cases result with
  | error failure => exact ⟨[], .single l _ _, rfl⟩
  | ok i =>
    obtain ⟨answer, hup⟩ := activate_makes true (l.take (creation base phy)).2 i
    exact ⟨_, .call _ hup, rfl⟩

/-- What is done about one radio. -/
theorem ensure_makes (base : String) (interfaces : List Interface) (l : Link) (r : Radio) :
    ∃ made, l.Makes made (ensure base (Partition.ofInterfaces interfaces).monitors l r)
      ∧ CaresFor base interfaces r.id r.supportsMonitor made := by
  rw [ensure, Partition.get?_monitors_ofInterfaces]
  by_cases hmonitors : Partition.monitorsOn r.id interfaces = []
  · rw [if_pos hmonitors]
    dsimp only
    cases hcapable : r.supportsMonitor with
    | false => exact ⟨[], .noted _ (.done _), .incapable hmonitors rfl⟩
    | true =>
      obtain ⟨answer, made, hway, hmade⟩ := supply_makes base l r.id
      exact ⟨_, hway, .missing hmonitors rfl hmade⟩
  · rw [if_neg hmonitors]
    obtain ⟨made, hway, hmade⟩ :=
      foldl_activate_makes false l (Partition.monitorsOn r.id interfaces)
    exact ⟨made, hway, .present hmonitors hmade⟩

/-! ### All radios -/

/-- What is done about one radio after the other. -/
theorem foldl_ensure_makes (base : String) (interfaces : List Interface) (l : Link)
    (radios : List Radio) :
    ∃ parts, l.Makes parts.flatten
        (radios.foldl (ensure base (Partition.ofInterfaces interfaces).monitors) l)
      ∧ List.Forall₂ (fun r => CaresFor base interfaces r.id r.supportsMonitor) radios parts := by
  induction radios generalizing l with
  | nil => exact ⟨[], .done l, .nil⟩
  | cons r radios ih =>
    obtain ⟨made, hfirst, hmade⟩ := ensure_makes base interfaces l r
    obtain ⟨parts, hrest, hparts⟩ :=
      ih (ensure base (Partition.ofInterfaces interfaces).monitors l r)
    exact ⟨made :: parts, hfirst.append hrest, .cons hmade hparts⟩

/-- If no message is about two radios, those found to be about a radio are about no other one. -/
theorem isAbout_of_mem_messagesOf {rows : List (List Attribute)}
    (h : ∀ row ∈ rows, SaysOneNumber row) {id : UInt32} {row : List Attribute}
    (hrow : row ∈ Radio.messagesOf rows id) : Radio.IsAbout id row := by
  obtain ⟨hmem, hfound⟩ := List.mem_filter.1 hrow
  obtain ⟨x, hx, hnumber⟩ := List.exists_of_findSome?_eq_some (beq_iff_eq.1 hfound)
  obtain rfl := Attribute.wiphy?_eq_some_iff.1 hnumber
  exact ⟨hx, fun other hother => h row hmem other id hother hx⟩

theorem mem_ids_iff_exists {rows : List (List Attribute)} (h : ∀ row ∈ rows, SaysOneNumber row)
    {id : UInt32} : id ∈ Radio.ids rows ↔ ∃ row ∈ rows, Attribute.wiphy id ∈ row := by
  rw [Radio.mem_ids_iff]
  constructor
  · intro hsome
    obtain ⟨row, hrow⟩ := List.exists_mem_of_ne_nil _ hsome
    exact ⟨row, List.mem_of_mem_filter hrow, (isAbout_of_mem_messagesOf h hrow).mem⟩
  · rintro ⟨row, hrow, hid⟩
    have habout : Radio.IsAbout id row := ⟨hid, fun other ho => h row hrow other id ho hid⟩
    exact List.ne_nil_of_mem (List.mem_filter.2 ⟨hrow, beq_iff_eq.2 habout.idOf?⟩)

theorem id_described {rows : List (List Attribute)} (h : ∀ row ∈ rows, SaysOneNumber row)
    {id : UInt32} (hid : id ∈ Radio.ids rows) : (Radio.described rows id).id = id := by
  have hall : Radio.IsAbout id (Radio.messagesOf rows id).flatten :=
    .flatten (Radio.mem_ids_iff.1 hid) fun row hrow => isAbout_of_mem_messagesOf h hrow
  rw [Radio.described, Radio.merge_of_isAbout hall]
  rfl

theorem supplies (base : String) (interfaces : List Interface) (l : Link)
    {rows : List (List Attribute)} (h : ∀ row ∈ rows, SaysOneNumber row) :
    ∃ made, l.Makes made ((Radio.ofRows rows).1.foldl
        (ensure base (Partition.ofInterfaces interfaces).monitors) l)
      ∧ Supplies base rows interfaces made := by
  obtain ⟨parts, hway, hparts⟩ := foldl_ensure_makes base interfaces l (Radio.ofRows rows).1
  refine ⟨_, hway, Radio.ids rows, parts, Radio.pairwise_ids rows, fun id => mem_ids_iff_exists h,
    ?_, rfl⟩
  have hradios : (Radio.ofRows rows).1.map (fun r => (r.id, r.supportsMonitor))
      = (Radio.ids rows).map fun id => (id, (Radio.described rows id).supportsMonitor) := by
    rw [Radio.ofRows_eq, List.map_map]
    exact List.map_congr_left fun id hid => Prod.ext (id_described h hid) rfl
  have hnumbered : List.Forall₂ (fun x : UInt32 × Bool => CaresFor base interfaces x.1 x.2)
      ((Radio.ofRows rows).1.map fun r => (r.id, r.supportsMonitor)) parts :=
    List.forall₂_map_left_iff.2 hparts
  rw [hradios] at hnumbered
  exact List.forall₂_map_left_iff.1 hnumbered

/-! ### Dumps -/

theorem listRadios_take (l : Link) :
    listRadios l = match (l.take radioDump).1.reply with
      | .error failure => (.error failure, (l.take radioDump).2)
      | .ok rows => (.ok (Radio.ofRows rows).1, (l.take radioDump).2.noted (Radio.ofRows rows).2) := by
  rw [listRadios, Link.execute_eq, ← radioDump]
  cases (l.take radioDump).1.reply <;> rfl

theorem listInterfaces_take (d : Directory) (l : Link) :
    d.listInterfaces l = match (l.take interfaceDump).1.reply with
      | .error failure => (.error failure, d, (l.take interfaceDump).2)
      | .ok rows =>
        (.ok (Interface.ofRows rows).1, ⟨.ofInterfaces (Interface.ofRows rows).1⟩,
          (l.take interfaceDump).2.noted (Interface.ofRows rows).2) := by
  rw [listInterfaces, Link.execute_eq, ← interfaceDump]
  cases (l.take interfaceDump).1.reply <;> rfl

/-- Supplying all radios with monitors makes the calls that are needed, in the order of the radios,
whatever is answered, and returns what there is in the end. -/
theorem ensures_what_is_missing (d : Directory) (l : Link) (base : String)
    (h : ∀ rows, (l.take radioDump).1.reply = .ok rows → ∀ row ∈ rows, SaysOneNumber row) :
    let run := d.ensureMonitors l base
    ∃ made, l.Makes made run.2.2
      ∧ run.2.2.calls.map Prod.snd = l.calls.map Prod.snd ++ made.map Prod.fst
      ∧ Ensures base d made run.1 run.2.1 := by
  intro run
  suffices ∃ made, l.Makes made run.2.2 ∧ Ensures base d made run.1 run.2.1 by
    obtain ⟨made, hway, hmade⟩ := this
    exact ⟨made, hway, hway.calls_eq, hmade⟩
  have hrun : run = d.ensureMonitors l base := rfl
  rw [ensureMonitors, listRadios_take] at hrun
  cases hradios : (l.take radioDump).1.reply with
  | error failure =>
    rw [hradios] at hrun
    rw [hrun]
    exact ⟨_, .call _ (.done _), .noRadios hradios⟩
  | ok rows =>
    rw [hradios] at hrun
    dsimp only at hrun
    rw [listInterfaces_take] at hrun
    generalize hasked : (l.take radioDump).2.noted (Radio.ofRows rows).2 = asked at hrun
    -- The calls so far are made first, whatever the way is from there.
    have hask {made : List (Call × Answer)} {after : Link} (hway : asked.Makes made after) :
        l.Makes ((radioDump, (l.take radioDump).1) :: made) after :=
      .call radioDump (.noted (Radio.ofRows rows).2 (hasked ▸ hway))
    cases hfirst : (asked.take interfaceDump).1.reply with
    | error failure =>
      rw [hfirst] at hrun
      rw [hrun]
      exact ⟨_, hask (.call interfaceDump (.done _)), .noInterfaces hradios hfirst⟩
    | ok before =>
      rw [hfirst] at hrun
      dsimp only at hrun
      rw [listInterfaces_take] at hrun
      have hinterfaces := Interface.enumerates_ofRows before
      obtain ⟨made, hsupply, hmade⟩ := supplies base (Interface.ofRows before).1
        ((asked.take interfaceDump).2.noted (Interface.ofRows before).2) (h rows hradios)
      generalize (Radio.ofRows rows).1.foldl _ _ = supplied at hrun hsupply
      have hall {more : List (Call × Answer)} {after : Link} (hway : supplied.Makes more after) :=
        hask (.call interfaceDump (.noted (Interface.ofRows before).2 (hsupply.append hway)))
      cases hlast : (supplied.take interfaceDump).1.reply with
      | error failure =>
        rw [hlast] at hrun
        rw [hrun]
        exact ⟨_, hall (.call interfaceDump (.done _)), .unconfirmed hradios hfirst hinterfaces
          hmade hlast (Partition.splits_ofInterfaces _)⟩
      | ok now =>
        rw [hlast] at hrun
        rw [hrun]
        exact ⟨_, hall (.single supplied interfaceDump _), .confirmed hradios hfirst hinterfaces
          hmade hlast (Interface.enumerates_ofRows now) (Partition.splits_ofInterfaces _)⟩

/-- Refuses a call. -/
def refused : Answer :=
  { Answer.granted with failure := some (.of (.system 16)) }

/-- Answers to the calls about four radios: on the first no monitor can be created, the second has
one that cannot be brought up, the third cannot have any, and the fourth gets one. -/
def fourRadios : List Answer :=
  [{ Answer.granted with rows :=
      [[.wiphy 3, .supportedIftypes [.monitor]], [.wiphy 2, .wiphyName "phy2"],
       [.wiphy 0, .supportedIftypes [.monitor]], [.wiphy 1, .wiphyName "phy1"]] },
   { Answer.granted with rows := [[.ifindex 7, .wiphy 1, .iftype .monitor]] },
   refused, refused,
   { Answer.granted with rows := [[.ifindex 9, .wiphy 3, .iftype .monitor]] }]

/-- Refusals on two radios do not keep the fourth one from being supplied. -/
theorem ensures_what_is_missing_refused :
    let l := Link.start 0 fourRadios
    let run := empty.ensureMonitors l "mon0"
    (∀ rows, (l.take radioDump).1.reply = .ok rows → ∀ row ∈ rows, SaysOneNumber row)
      ∧ ∃ made, made.map Prod.fst
          = [radioDump, interfaceDump, creation "mon0" 0, .bringUp 7, creation "mon0" 3, .bringUp 9,
             interfaceDump]
        ∧ Ensures "mon0" empty made run.1 run.2.1 := by
  intro l run
  have hnumbers : ∀ rows, (l.take radioDump).1.reply = .ok rows →
      ∀ row ∈ rows, SaysOneNumber row := by
    rintro rows h row hrow
    cases h
    revert row
    simp [SaysOneNumber, l, Link.start, fourRadios, Link.take]
  obtain ⟨made, -, hcalls, hmade⟩ := ensures_what_is_missing empty l "mon0" hnumbers
  refine ⟨hnumbers, made, ?_, hmade⟩
  have hrun : run.2.2.calls.map Prod.snd
      = [radioDump, interfaceDump, creation "mon0" 0, .bringUp 7, creation "mon0" 3, .bringUp 9,
         interfaceDump] := by
    decide +kernel
  exact hcalls.symm.trans hrun

end Directory

end NeighborAwareness
