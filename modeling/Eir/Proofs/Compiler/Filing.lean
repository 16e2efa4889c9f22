import Eir.Proofs.Compiler.Runs
import Eir.Proofs.Compiler.Sound
import Eir.Proofs.Consolidation.Pieces

/-!
# Where rules are filed

Every rule is filed under one slot, and each group is closed once. `Advance` says
what happens between two moments: which rules were filed, under which slots, and
which groups were closed. A group that is closed is never touched again
(`Advance.settled`). As long as alike rules are not merged, a group holds the
rules that were filed under its slot, in order (`Advance.content`). `Received`
says that the sink was asked for the closed groups and for the rules, and for
nothing else.

`files_takeSteps` says that a whole run advances in this way, and
`advance_finish` that closing it does.
-/

namespace Eir

/-- The state of a sink after a step that it was asked for. -/
def Sink.receive {σ : Type} (s : Sink σ) (st : σ) : SinkEvent → σ
  | .specification location metadata spec => (s.writeSpecification location metadata spec st).1
  | .group stage group => (s.writeGroup stage group st).1

/-- The state of a sink after the steps that it was asked for, in order. -/
def Sink.receiveAll {σ : Type} (s : Sink σ) (events : List SinkEvent) (st : σ) : σ :=
  events.foldl s.receive st

/-- The step is one with a group. -/
def SinkEvent.isGroup : SinkEvent → Bool
  | specification .. => false
  | group .. => true

/-- The rules that were filed under a slot, in order. -/
def filedUnder (slot : Nat) (filed : List (Nat × Emission)) : List Specification :=
  (filed.filter (·.1 == slot)).map (·.2.spec)

theorem filedUnder_append (slot : Nat) (filed later : List (Nat × Emission)) :
    filedUnder slot (filed ++ later) = filedUnder slot filed ++ filedUnder slot later := by
  simp only [filedUnder, List.filter_append, List.map_append]

/-- The slots of the groups that scopes own. -/
def ownedSlots (scopes : List Scope) : List Nat :=
  (scopes.map Scope.collection).filterMap Collection.slot?

theorem ownedSlots_cons (s : Scope) (scopes : List Scope) :
    ownedSlots (s :: scopes) = s.collection.slot?.toList ++ ownedSlots scopes := by
  rw [ownedSlots, List.map_cons, List.filterMap_cons]
  cases s.collection.slot? <;> rfl

/-! ## Groups by their slots -/

section Slotted

variable {α : Type} {slot : Nat} {slots : List Nat} {x y : α} {groups : List (Nat × α)}

/-- The groups that are not under one of the slots. -/
def outside (slots : List Nat) (groups : List (Nat × α)) : List (Nat × α) :=
  groups.filter fun p => !slots.contains p.1

theorem outside_nil (groups : List (Nat × α)) : outside [] groups = groups := by
  simp [outside]

theorem outside_cons_of_not_mem (h : slot ∉ groups.map Prod.fst) :
    outside (slot :: slots) groups = outside slots groups := by
  refine List.filter_congr fun p hp => ?_
  have hne : p.1 ≠ slot := fun he => h (he ▸ List.mem_map_of_mem hp)
  simp [hne]

theorem outside_filter_ne (slot : Nat) (slots : List Nat) (groups : List (Nat × α)) :
    outside slots (groups.filter fun p => p.1 != slot) = outside (slot :: slots) groups := by
  rw [outside, outside, List.filter_filter]
  refine List.filter_congr fun p _ => ?_
  by_cases h : p.1 = slot <;> simp [h]

/-- Changing a group under one of the slots leaves the others alone. -/
theorem outside_map (h : slot ∈ slots) (f : α → α) (groups : List (Nat × α)) :
    outside slots (groups.map fun (n, g) => (n, if n = slot then f g else g)) =
      outside slots groups := by
  induction groups with
  | nil => rfl
  | cons p groups ih =>
    obtain ⟨n, g⟩ := p
    simp only [outside, List.map_cons] at ih ⊢
    by_cases hn : n = slot
    · subst hn
      rw [List.filter_cons_of_neg (by simp [h]), List.filter_cons_of_neg (by simp [h]), ih]
    · simp only [if_neg hn, List.filter_cons, ih]

/-- A group that is replaced where its slot is given up is outside, and the others stay. -/
theorem outside_replace (hnodup : (groups.map Prod.fst).Nodup)
    (hlookup : groups.lookup slot = some x) (hslot : slot ∉ slots) (y : α) :
    (outside slots (groups.map fun (n, g) => (n, if n = slot then y else g))).Perm
      (outside (slot :: slots) groups ++ [(slot, y)]) := by
  induction groups with
  | nil => cases hlookup
  | cons p groups ih =>
    obtain ⟨n, g⟩ := p
    obtain ⟨hnot, hnodup⟩ := List.nodup_cons.mp hnodup
    by_cases hn : n = slot
    · subst hn
      have hrest : groups.map (fun (m, g) => (m, if m = n then y else g)) = groups := by
        conv_rhs => rw [← List.map_id groups]
        refine List.map_congr_left fun q hq => ?_
        have hmem : q.1 ∈ groups.map Prod.fst := List.mem_map_of_mem hq
        have hne : q.1 ≠ n := fun he => hnot (he ▸ hmem)
        simp [hne]
      have hhere : outside slots ((n, y) :: groups) = (n, y) :: outside slots groups := by
        simp [outside, hslot]
      have hgone : outside (n :: slots) ((n, g) :: groups) = outside slots groups := by
        rw [← outside_cons_of_not_mem hnot]
        simp [outside]
      rw [List.map_cons, hrest, hgone]
      simp only [if_true, hhere]
      exact (List.perm_append_singleton ..).symm
    · have htail : groups.lookup slot = some x := by
        rwa [List.lookup_cons, beq_false_of_ne (Ne.symm hn)] at hlookup
      have hperm := ih hnodup htail
      by_cases hmem : n ∈ slots
      · simpa [outside, hn, hmem] using hperm
      · simpa [outside, hn, hmem] using hperm.cons (n, g)

end Slotted

namespace Compiler

variable {σ : Type} {c d e : Compiler σ}

/-- The groups that are closed: no open scope owns them. -/
def closedGroups (c : Compiler σ) : List (Nat × SpecGroup) := outside c.openSlots c.groups

/-- The rules in the group under a slot. -/
def content (c : Compiler σ) (slot : Nat) : List Specification :=
  ((c.group? slot).map (·.specifications)).getD []

theorem group?_mapGroup_of_ne {slot n : Nat} (h : n ≠ slot) (f : SpecGroup → SpecGroup) :
    (c.mapGroup slot f).group? n = c.group? n := by
  simp only [group?, mapGroup]
  induction c.groups with
  | nil => rfl
  | cons p ps ih =>
    obtain ⟨m, g⟩ := p
    simp only [List.map_cons, List.lookup_cons]
    by_cases hm : n = m
    · simp [← hm, h]
    · rw [beq_false_of_ne hm]
      exact ih

theorem group?_discarded_of_ne {slot n : Nat} (h : n ≠ slot) :
    (c.discarded slot).group? n = c.group? n := by
  simp only [group?, discarded]
  induction c.groups with
  | nil => rfl
  | cons p ps ih =>
    obtain ⟨m, g⟩ := p
    by_cases hm : m = slot
    · subst hm
      rw [List.filter_cons_of_neg (by simp), ih, List.lookup_cons, beq_false_of_ne h]
    · rw [List.filter_cons_of_pos (by simpa using hm), List.lookup_cons, List.lookup_cons, ih]

theorem group?_discarded (c : Compiler σ) (slot : Nat) : (c.discarded slot).group? slot = none := by
  cases h : (c.discarded slot).group? slot with
  | none => rfl
  | some g =>
    have hmem : slot ∈ (c.discarded slot).groupSlots := mem_groupSlots.mpr (by rw [h]; rfl)
    rw [groupSlots_discarded] at hmem
    simp at hmem

/-- A compilation starts with nothing filed and nothing closed. -/
theorem fresh_start {settings : CompilerSettings} {catalog : Catalog} {template : GroupMetadata}
    {sink : Sink σ} {st : σ} (h : start settings catalog template sink st = .ok c) :
    c.settings = settings ∧ c.template = template ∧ (∀ slot, c.content slot = []) ∧
      outside c.openSlots c.groups = [] := by
  obtain rfl := eq_of_start h
  refine ⟨rfl, rfl, fun slot => ?_, rfl⟩
  by_cases hslot : slot = 0
  · simp [content, group?, hslot]
  · simp [content, group?, List.lookup_cons, beq_false_of_ne hslot]

/-! ## Advancing -/

/-- What happens between two moments, at which scopes own the groups under `slots` and `slots'`:
some rules are filed under slots, and some groups are closed. -/
structure Advance (slots slots' : List Nat) (c : Compiler σ) (filed : List (Nat × Emission))
    (closed : List (Nat × SpecGroup)) (d : Compiler σ) : Prop where
  setup : d.setup = c.setup
  settled : (outside slots' d.groups).Perm (outside slots c.groups ++ closed)
  nonempty : ∀ p ∈ closed, p.2.specifications ≠ []
  content : c.settings.groupByApplicability = false →
    ∀ slot, d.content slot = c.content slot ++ filedUnder slot filed

variable {slots slots' slots'' : List Nat} {filed later : List (Nat × Emission)}
  {closed closed' : List (Nat × SpecGroup)}

theorem settings_of_setup (h : d.setup = c.setup) : d.settings = c.settings :=
  congrArg (fun x => x.1) h

/-- Operations that leave the groups alone. -/
theorem advance_of_groups (hsetup : d.setup = c.setup) (hgroups : d.groups = c.groups) :
    Advance slots slots c [] [] d := by
  refine ⟨hsetup, ?_, by simp, fun _ slot => ?_⟩
  · rw [hgroups, List.append_nil]
  · simp [Compiler.content, group?, hgroups, filedUnder]

theorem Advance.trans (h : Advance slots slots' c filed closed d)
    (h' : Advance slots' slots'' d later closed' e) :
    Advance slots slots'' c (filed ++ later) (closed ++ closed') e := by
  refine ⟨h'.setup.trans h.setup, ?_, fun p hp => ?_, fun hgroup slot => ?_⟩
  · rw [← List.append_assoc]
    exact h'.settled.trans (h.settled.append_right closed')
  · rcases List.mem_append.mp hp with hp | hp
    · exact h.nonempty p hp
    · exact h'.nonempty p hp
  · have hgroup' : d.settings.groupByApplicability = false := by
      rwa [settings_of_setup h.setup]
    rw [h'.content hgroup', h.content hgroup, filedUnder_append, List.append_assoc]

/-! ## What comes to the sink -/

/-- What the sink is asked for when a rule has a file of its own. -/
def specEvent (c : Compiler σ) (e : Emission) : SinkEvent :=
  .specification e.location (c.singleMetadata e.spec) e.spec

/-- What the sink is asked for when a group has a file of its own. -/
def groupEvent (c : Compiler σ) (g : SpecGroup) : SinkEvent := .group c.settings.stage g

/-- Between two moments the sink was asked for the rules and for the groups, both in order, as far
as they have files of their own, and for nothing else. -/
def Received (c : Compiler σ) (rules : List Emission) (groups : List SpecGroup)
    (d : Compiler σ) : Prop :=
  ∃ events, d.sinkState = c.sink.receiveAll events c.sinkState ∧
    events.filter (!·.isGroup) =
      (if c.settings.oneFilePerSpecification then rules.map c.specEvent else []) ∧
    events.filter (·.isGroup) =
      if c.settings.oneFilePerScope then groups.map c.groupEvent else []

theorem received_of_eq (h : d.sinkState = c.sinkState) : Received c [] [] d :=
  ⟨[], h, by simp, by simp⟩

theorem specEvent_of_setup (h : d.setup = c.setup) : d.specEvent = c.specEvent := by
  have htemplate : d.template = c.template := congrArg (fun x => x.2.2.1) h
  funext x
  unfold specEvent singleMetadata
  rw [settings_of_setup h, htemplate]

theorem groupEvent_of_setup (h : d.setup = c.setup) : d.groupEvent = c.groupEvent := by
  funext g
  rw [groupEvent, groupEvent, settings_of_setup h]

theorem Received.trans {rules rules' : List Emission} {groups groups' : List SpecGroup}
    (hsetup : d.setup = c.setup) (h : Received c rules groups d)
    (h' : Received d rules' groups' e) : Received c (rules ++ rules') (groups ++ groups') e := by
  obtain ⟨events, hstate, hrules, hgroups⟩ := h
  obtain ⟨events', hstate', hrules', hgroups'⟩ := h'
  have hsink : d.sink = c.sink := congrArg (fun x => x.2.2.2) hsetup
  rw [settings_of_setup hsetup, specEvent_of_setup hsetup] at hrules'
  rw [settings_of_setup hsetup, groupEvent_of_setup hsetup] at hgroups'
  refine ⟨events ++ events', ?_, ?_, ?_⟩
  · rw [hstate', hstate, hsink, Sink.receiveAll, Sink.receiveAll, Sink.receiveAll,
      List.foldl_append]
  · rw [List.filter_append, hrules, hrules']
    split <;> simp
  · rw [List.filter_append, hgroups, hgroups']
    split <;> simp

/-! ## Filing a rule -/

theorem sinkState_activeSlot (c : Compiler σ) : c.activeSlot.2.sinkState = c.sinkState := by
  rcases c.activeSlot_cases with ⟨slot, -, h⟩ | ⟨-, top, outer, -, h⟩ <;> rw [h]

/-- A group that is made is empty, and a scope owns it. -/
theorem advance_activeSlot (h : c.Grouped) :
    Advance c.openSlots c.activeSlot.2.openSlots c [] [] c.activeSlot.2 := by
  rcases h.activeSlot_cases with heq | ⟨hopen, hgroups, hsetup⟩
  · rw [heq]
    exact advance_of_groups rfl rfl
  · refine ⟨hsetup, ?_, by simp, fun _ slot => ?_⟩
    · rw [hopen, hgroups, List.append_nil, outside, List.filter_append]
      rw [List.filter_cons_of_neg (by simp), List.filter_nil, List.append_nil]
      exact .of_eq (outside_cons_of_not_mem h.nextGroup_not_mem)
    · simp only [Compiler.content, group?, hgroups, List.lookup_append, filedUnder,
        List.filter_nil, List.map_nil, List.append_nil]
      cases c.groups.lookup slot with
      | some g => rfl
      | none =>
        by_cases hs : slot = c.nextGroup
        · simp [hs, newGroup]
        · simp [List.lookup_cons, beq_false_of_ne hs]

theorem activeSlot_mem_openSlots (h : c.Grouped) : c.activeSlot.1 ∈ c.activeSlot.2.openSlots := by
  refine List.mem_filterMap.mpr ⟨_, List.mem_map_of_mem (groupOwner_mem c.activeSlot.2), ?_⟩
  rw [h.activeSlot.2]
  rfl

/-- A rule that is collected is filed under the active slot. -/
theorem advance_collect (h : c.Grouped) (location : SpecLocation) (spec : Specification) :
    Advance c.openSlots (c.collect spec).openSlots c [(c.activeSlot.1, ⟨location, spec⟩)] []
      (c.collect spec) := by
  have hopen := activeSlot_mem_openSlots h
  have hmem : c.activeSlot.1 ∈ c.activeSlot.2.groupSlots := h.activeSlot.1.openMem _ hopen
  obtain ⟨g, hg⟩ := Option.isSome_iff_exists.mp (mem_groupSlots.mp hmem)
  rw [collect_eq]
  have hfile : Advance c.activeSlot.2.openSlots c.activeSlot.2.openSlots c.activeSlot.2
      [(c.activeSlot.1, ⟨location, spec⟩)] [] (c.activeSlot.2.mapGroup c.activeSlot.1 fun g =>
        { g with specifications := g.specifications ++ [spec] }) := by
    refine ⟨rfl, ?_, by simp, fun _ slot => ?_⟩
    · rw [List.append_nil]
      exact .of_eq (outside_map hopen (fun g : SpecGroup =>
        { g with specifications := g.specifications ++ [spec] }) c.activeSlot.2.groups)
    · by_cases hs : slot = c.activeSlot.1
      · simp [Compiler.content, hs, group?_mapGroup, hg, filedUnder]
      · simp [Compiler.content, group?_mapGroup_of_ne hs, filedUnder, Ne.symm hs]
  exact (advance_activeSlot h).trans hfile

theorem received_append (h : c.sink.Reliable) (spec : Specification) :
    Received c [⟨c.location, spec⟩] [] (c.append spec).2 := by
  rcases c.append_cases spec with ⟨hfile, heq⟩ | ⟨hfile, st, fault, hwrite, heq⟩
  · rw [heq]
    refine ⟨[], c.sinkState_activeSlot, ?_, ?_⟩ <;> simp [hfile]
  · have hfault := h.writeSpecification c.location (c.singleMetadata spec) spec c.sinkState
    have hstate := congrArg Prod.fst hwrite
    rw [location, hwrite] at hfault
    obtain rfl : fault = none := hfault
    rw [heq]
    refine ⟨[c.specEvent ⟨c.location, spec⟩], ?_, ?_, ?_⟩
    · exact (sinkState_activeSlot { c with sinkState := st }).trans hstate.symm
    · simp [hfile, specEvent, SinkEvent.isGroup]
    · simp [specEvent, SinkEvent.isGroup]

theorem advance_append (h : c.Sound) (spec : Specification) :
    ∃ slot, Advance c.openSlots (c.append spec).2.openSlots c
      [(slot, ⟨c.location, spec⟩)] [] (c.append spec).2 := by
  obtain ⟨st, heq⟩ := h.append spec
  have hgrouped : ({ c with sinkState := st } : Compiler σ).Grouped :=
    h.grouped.of_eq rfl rfl rfl
  have hquiet : Advance c.openSlots c.openSlots c [] [] { c with sinkState := st } :=
    advance_of_groups rfl rfl
  rw [heq]
  exact ⟨_, hquiet.trans (advance_collect hgrouped c.location spec)⟩

/-! ## Closing a group -/

/-- With a reliable sink a scope closes without a fault. -/
theorem settle_of_reliable (h : c.sink.Reliable) (s : Scope) :
    c.settle s = (c.closeGroup s).2 := by
  rcases c.settle_cases s with ⟨-, heq⟩ | ⟨f, hf, -⟩
  · exact heq
  · rw [fault_closeGroup h] at hf
    cases hf

theorem content_mapGroup_const {slot : Nat} {g g' : SpecGroup} (hg : c.group? slot = some g)
    (h : g'.specifications = g.specifications) (n : Nat) :
    (c.mapGroup slot fun _ => g').content n = c.content n := by
  by_cases hn : n = slot
  · simp [content, hn, group?_mapGroup, hg, h]
  · simp [content, group?_mapGroup_of_ne hn]

theorem settledGroup_ne_nil {g : SpecGroup} (h : g.specifications ≠ []) :
    (c.settledGroup g).specifications ≠ [] := by
  rw [settledGroup]
  split
  · exact Consolidation.consolidate_ne_nil h
  · exact h

/-- Of a scope that no longer owns its group, the group is closed, or it goes if it is empty. -/
theorem advance_closeGroup (hnodup : c.groupSlots.Nodup) (s : Scope)
    (hs : ∀ slot, s.collection.slot? = some slot → slot ∉ slots) :
    ∃ closed, Advance (s.collection.slot?.toList ++ slots) slots c [] closed (c.closeGroup s).2 ∧
      Received c [] (closed.map Prod.snd) (c.closeGroup s).2 := by
  rcases c.closeGroup_cases s with ⟨hnone, notices, heq⟩ | ⟨slot, g, hslot, hg, hempty, heq⟩ |
    ⟨slot, g, d, hslot, hg, hrules, rfl, hcase⟩
  · -- There is no group.
    rw [heq]
    refine ⟨[], ⟨rfl, ?_, by simp, fun _ _ => ?_⟩, received_of_eq rfl⟩
    · cases hslot : s.collection.slot? with
      | none => simp
      | some slot =>
        have hnot : slot ∉ c.groupSlots := by
          rw [hslot, Option.bind_some] at hnone
          rw [mem_groupSlots, hnone]
          decide
        simp only [Option.toList_some, List.singleton_append, List.append_nil]
        exact .of_eq (outside_cons_of_not_mem hnot).symm
    · simp [filedUnder, Compiler.content, group?]
  · -- The group is empty.
    rw [heq, hslot]
    refine ⟨[], ⟨rfl, ?_, by simp, fun _ n => ?_⟩, received_of_eq rfl⟩
    · simp only [Option.toList_some, List.singleton_append, List.append_nil]
      exact .of_eq (outside_filter_ne slot slots c.groups)
    · simp only [filedUnder, List.filter_nil, List.map_nil, List.append_nil]
      by_cases hn : n = slot
      · subst hn
        simp [Compiler.content, group?_discarded, hg, hempty]
      · simp only [Compiler.content, group?_discarded_of_ne hn]
        rfl
  · -- The group has rules.
    have hadvance {st : σ} : Advance (slot :: slots) slots c [] [(slot, c.settledGroup g)]
        { (c.notify (.closed (label s) s.tag g.specifications.length)).mapGroup slot
          (fun _ => c.settledGroup g) with sinkState := st } := by
      refine ⟨rfl, outside_replace hnodup hg (hs slot hslot) _, ?_, fun hgroup n => ?_⟩
      · intro p hp
        rw [List.mem_singleton.mp hp]
        exact settledGroup_ne_nil hrules
      · have hsame : (c.settledGroup g).specifications = g.specifications := by
          simp [settledGroup, hgroup]
        simp only [filedUnder, List.filter_nil, List.map_nil, List.append_nil]
        exact content_mapGroup_const hg hsame n
    rw [hslot]
    refine ⟨[(slot, c.settledGroup g)], ?_⟩
    rcases hcase with ⟨hfile, heq⟩ | ⟨hfile, st, fault, hwrite, heq⟩
    · rw [heq]
      exact ⟨hadvance, [], rfl, by simp, by simp [hfile]⟩
    · rw [heq]
      refine ⟨hadvance, [c.groupEvent (c.settledGroup g)], ?_, ?_, ?_⟩
      · exact (congrArg Prod.fst hwrite).symm
      · simp [groupEvent, SinkEvent.isGroup]
      · simp [groupEvent, SinkEvent.isGroup, hfile]

theorem openSlots_popped {parent : Scope} {outer : List Scope} (h : c.outer = parent :: outer) :
    c.openSlots = c.top.collection.slot?.toList ++ (c.popped parent outer).openSlots := by
  have hall : c.openSlots = ownedSlots (c.top :: parent :: outer) := by
    rw [← h]
    rfl
  exact hall.trans (ownedSlots_cons c.top (parent :: outer))

/-- Closing a group does not close the scope itself. -/
theorem openSlots_closeGroup (c : Compiler σ) (s : Scope) :
    (c.closeGroup s).2.openSlots = c.openSlots := by
  rcases c.closeGroup_cases s with ⟨-, notices, h⟩ | ⟨slot, g, -, -, -, h⟩ |
    ⟨slot, g, d, -, -, -, rfl, ⟨-, h⟩ | ⟨-, st, fault, -, h⟩⟩ <;>
    rw [h] <;> rfl

theorem nodup_closeGroup (hnodup : c.groupSlots.Nodup) (s : Scope) :
    (c.closeGroup s).2.groupSlots.Nodup := by
  rcases c.closeGroup_cases s with ⟨-, notices, heq⟩ | ⟨slot, g, -, -, -, heq⟩ |
    ⟨slot, g, d, -, -, -, rfl, ⟨-, heq⟩ | ⟨-, st, fault, -, heq⟩⟩
  · rw [heq]
    exact hnodup
  · rw [heq, groupSlots_discarded]
    exact hnodup.filter _
  all_goals
    rw [heq]
    exact (groupSlots_mapGroup (c.notify _) slot fun _ => c.settledGroup g) ▸ hnodup

/-! ## Runs -/

theorem openSlots_mapTop {step : Step} {f : Scope → Scope} (hf : step.setter? = some f)
    (c : Compiler σ) : (c.mapTop f).openSlots = c.openSlots := by
  simp only [openSlots, collections, Compiler.mapTop, List.map_cons, Step.collection_setter hf]

/-- What a run keeps, and what it files and closes on the way. -/
def Files (c : Compiler σ) (es : List Emission) (d : Compiler σ) : Prop :=
  c.Sound → d.Sound ∧ ∃ filed closed, filed.map Prod.snd = es ∧
    Advance c.openSlots d.openSlots c filed closed d ∧ Received c es (closed.map Prod.snd) d

/-- Operations that leave the groups, and where scopes collect, alone. -/
theorem files_of_quiet (hd : c.Sound → d.Sound) (hsetup : d.setup = c.setup)
    (hgroups : d.groups = c.groups) (hopen : d.openSlots = c.openSlots)
    (hstate : d.sinkState = c.sinkState) : Files c [] d := by
  intro h
  refine ⟨hd h, [], [], rfl, ?_, received_of_eq hstate⟩
  rw [hopen]
  exact advance_of_groups hsetup hgroups

theorem files_make (c : Compiler σ) {rule : Compiler σ → String → Specification}
    (record : RuleIndex → String → RuleIndex) (hrule : Steady rule) :
    Files c (c.emission rule (c.make rule record).1) (c.make rule record).2 := by
  intro h
  refine ⟨h.make rule record, ?_⟩
  rcases c.make_cases rule record with ⟨reason, hdeferred, -⟩ | ⟨-, -, heq⟩ |
    ⟨-, -, fault, d, happend, heq⟩
  · rw [h.deferred] at hdeferred
    cases hdeferred
  · rw [heq]
    exact ⟨[], [], rfl, advance_of_groups rfl rfl, received_of_eq rfl⟩
  · have hprepared : (c.prepared record).Sound := h.of_eq (h.grouped.prepared record) rfl rfl
    rw [hrule] at happend
    obtain ⟨slot, hadvance⟩ := advance_append hprepared (rule c c.generateIdentifier.1)
    have hreceived := received_append hprepared.reliable (rule c c.generateIdentifier.1)
    obtain ⟨st, hnone⟩ := hprepared.append (rule c c.generateIdentifier.1)
    rw [happend] at hadvance hreceived hnone
    obtain rfl : fault = none := congrArg Prod.fst hnone
    have hquiet : Advance c.openSlots c.openSlots c [] [] (c.prepared record) :=
      advance_of_groups rfl rfl
    rw [heq]
    exact ⟨[(slot, _)], [], rfl, hquiet.trans hadvance,
      (received_of_eq (d := c.prepared record) rfl).trans rfl hreceived⟩

theorem files_closeScope (c : Compiler σ) : Files c [] c.closeScope := by
  intro h
  refine ⟨h.closeScope, ?_⟩
  rcases c.closeScope_cases with ⟨-, heq⟩ | ⟨parent, outer, houter, heq⟩
  · rw [heq]
    exact ⟨[], [], rfl, advance_of_groups rfl rfl, received_of_eq rfl⟩
  · obtain ⟨hgrouped, hfree⟩ := h.grouped.popped houter
    obtain ⟨closed, hadvance, hreceived⟩ :=
      (c.popped parent outer).advance_closeGroup hgrouped.nodup c.top hfree
    have hquiet : Advance c.openSlots c.openSlots c [] [] (c.popped parent outer) :=
      advance_of_groups rfl rfl
    rw [heq, settle_of_reliable (c := c.popped parent outer) h.reliable, openSlots_closeGroup]
    rw [← openSlots_popped houter] at hadvance
    exact ⟨[], closed, rfl, hquiet.trans hadvance,
      (received_of_eq (d := c.popped parent outer) rfl).trans rfl hreceived⟩

theorem tracks_files : Tracks (σ := σ) Files where
  refl c := files_of_quiet id rfl rfl rfl rfl
  trans h h' hc := by
    obtain ⟨hd, filed, closed, rfl, hadvance, hreceived⟩ := h hc
    obtain ⟨he, filed', closed', rfl, hadvance', hreceived'⟩ := h' hd
    refine ⟨he, filed ++ filed', closed ++ closed', List.map_append, hadvance.trans hadvance', ?_⟩
    rw [List.map_append]
    exact hreceived.trans hadvance.setup hreceived'
  mapTop c _ _ hf := files_of_quiet (fun h => h.mapTop hf) rfl rfl (openSlots_mapTop hf c) rfl
  generateIdentifier c := files_of_quiet Sound.generateIdentifier rfl rfl rfl rfl
  skip c reason quiet := files_of_quiet (fun h => h.skip reason quiet) rfl rfl rfl rfl
  make c _ record hrule := files_make c record hrule
  openKind c kind name := files_of_quiet (fun h => h.openKind kind name) rfl rfl
    (openSlots_openKind c kind name) rfl
  closeScope c := files_closeScope c

/-- A run files the rules that it makes. -/
theorem files_takeSteps (strict : Bool) (c : Compiler σ) (steps : List Step) :
    RunPath Files strict c steps :=
  tracks_files.takeSteps strict c steps

/-- Closing all scopes closes all groups. -/
theorem advance_closeAll (scopes : List Scope) (hsink : c.sink.Reliable)
    (hnodup : c.groupSlots.Nodup) (hslots : (ownedSlots scopes).Nodup) :
    (c.closeAll scopes).deferred = c.deferred ∧ (c.closeAll scopes).groupSlots.Nodup ∧
      ∃ closed, Advance (ownedSlots scopes) [] c [] closed (c.closeAll scopes) ∧
        Received c [] (closed.map Prod.snd) (c.closeAll scopes) := by
  induction scopes generalizing c with
  | nil => exact ⟨rfl, hnodup, [], advance_of_groups rfl rfl, received_of_eq rfl⟩
  | cons s scopes ih =>
    rw [ownedSlots_cons] at hslots
    have hfree : ∀ slot, s.collection.slot? = some slot → slot ∉ ownedSlots scopes := by
      intro slot hslot
      rw [hslot] at hslots
      exact (List.nodup_cons.mp hslots).1
    obtain ⟨hsetup, hdeferred⟩ := c.setup_closeGroup s
    obtain ⟨closed, hadvance, hreceived⟩ := c.advance_closeGroup hnodup s hfree
    have hsink' : (c.closeGroup s).2.sink.Reliable := by
      have : (c.closeGroup s).2.sink = c.sink := congrArg (fun x => x.2.2.2) hsetup
      rwa [this]
    obtain ⟨hdeferred', hnodup', closed', hadvance', hreceived'⟩ :=
      ih hsink' (c.nodup_closeGroup hnodup s) hslots.of_append_right
    have hall : c.closeAll (s :: scopes) = (c.closeGroup s).2.closeAll scopes := by
      rw [closeAll, List.foldl_cons, settle_of_reliable hsink, ← closeAll]
    rw [hall, ownedSlots_cons]
    refine ⟨hdeferred'.trans hdeferred, hnodup', closed ++ closed', hadvance.trans hadvance', ?_⟩
    rw [List.map_append]
    exact hreceived.trans hsetup hreceived'

/-- A sound compilation can be finished; then every group is closed. -/
theorem advance_finish (h : c.Sound) :
    c.finish.1 = .ok ⟨c.finish.2.groups.map Prod.snd, c.finish.2.index, c.finish.2.template⟩ ∧
      c.finish.2.groupSlots.Nodup ∧ ∃ closed, Advance c.openSlots [] c [] closed c.finish.2 ∧
        Received c [] (closed.map Prod.snd) c.finish.2 := by
  obtain ⟨hdeferred, hnodup, hclosed⟩ :=
    advance_closeAll (c.top :: c.outer) h.reliable h.grouped.nodup h.grouped.openNodup
  refine ⟨?_, hnodup, hclosed⟩
  simp only [finish, checkDeferred, hdeferred, h.deferred]
  rfl

end Compiler

end Eir
