import Eir.Proofs.Compiler.Calls
import Eir.Proofs.Compiler.Partition
import Eir.Proofs.Consolidation.Account

/-!
# What becomes of the rules in the end

Whether or not alike rules are merged, a group that is still collected holds the
rules that were filed under its slot, and a closed one what became of them when it
was settled (`Filed`). So a finished compilation has its rules dealt out to groups
that were settled once (`finish_settles`), and each rule is in one of them, or is
a constituent of a rule in it (`exists_of_mem_settled`).
-/

namespace Eir

theorem filedUnder_snoc (n slot : Nat) (filed : List (Nat × Emission)) (e : Emission) :
    filedUnder n (filed ++ [(slot, e)]) =
      filedUnder n filed ++ if slot = n then [e.spec] else [] := by
  rw [filedUnder_append]
  by_cases h : slot = n <;> simp [filedUnder, h]

theorem filedUnder_eq_nil {n : Nat} {filed : List (Nat × Emission)} :
    filedUnder n filed = [] ↔ ∀ p ∈ filed, p.1 ≠ n := by
  simp [filedUnder]

namespace Compiler

variable {σ : Type} {c d e : Compiler σ} {slots : List Nat} {filed : List (Nat × Emission)}

/-- Every rule is in the group of its slot. The groups under `slots` are still collected, the
others are settled. -/
structure Filed (slots : List Nat) (filed : List (Nat × Emission)) (c : Compiler σ) : Prop where
  mem : ∀ p ∈ filed, p.1 ∈ c.groupSlots
  collected : ∀ p ∈ c.groups, p.1 ∈ slots → p.2.specifications = filedUnder p.1 filed
  settled : ∀ p ∈ c.groups, p.1 ∉ slots → filedUnder p.1 filed ≠ [] ∧
    ∃ metadata, p.2 = c.settledGroup ⟨metadata, filedUnder p.1 filed⟩

theorem settledGroup_of_settings (h : d.settings = c.settings) :
    d.settledGroup = c.settledGroup := by
  funext g
  rw [settledGroup, settledGroup, h]

theorem Filed.of_groups (h : Filed slots filed c) (hsettings : d.settings = c.settings)
    (hgroups : d.groups = c.groups) : Filed slots filed d := by
  refine ⟨?_, ?_, ?_⟩
  · rw [groupSlots, hgroups]
    exact h.mem
  · rw [hgroups]
    exact h.collected
  · rw [hgroups, settledGroup_of_settings hsettings]
    exact h.settled

theorem filed_start {settings : CompilerSettings} {catalog : Catalog} {template : GroupMetadata}
    {sink : Sink σ} {st : σ} (h : start settings catalog template sink st = .ok c) :
    Filed c.openSlots [] c := by
  obtain rfl := eq_of_start h
  refine ⟨by simp, fun p hp _ => ?_, fun p hp hslot => ?_⟩
  · rw [List.mem_singleton.mp hp]
    rfl
  · rw [List.mem_singleton.mp hp] at hslot
    exact absurd (List.mem_singleton_self 0) hslot

/-! ## Collecting -/

theorem Filed.activeSlot (hc : c.Grouped) (h : Filed c.openSlots filed c) :
    Filed c.activeSlot.2.openSlots filed c.activeSlot.2 := by
  rcases hc.activeSlot_cases with heq | ⟨hopen, hgroups, hsetup⟩
  · rwa [heq]
  · have hfresh := hc.nextGroup_not_mem
    have hslots : c.activeSlot.2.groupSlots = c.groupSlots ++ [c.nextGroup] := by
      rw [groupSlots, hgroups, List.map_append]
      rfl
    have hold {p : Nat × SpecGroup} (hp : p ∈ c.groups) : p.1 ≠ c.nextGroup := fun he =>
      hfresh (he ▸ List.mem_map_of_mem hp)
    refine ⟨fun p hp => ?_, fun p hp hslot => ?_, fun p hp hslot => ?_⟩
    · rw [hslots]
      exact List.mem_append_left _ (h.mem p hp)
    · rw [hgroups] at hp
      rw [hopen] at hslot
      rcases List.mem_append.mp hp with hp | hp
      · exact h.collected p hp ((List.mem_cons.mp hslot).resolve_left (hold hp))
      · rw [List.mem_singleton.mp hp]
        have hnone : filedUnder c.nextGroup filed = [] := filedUnder_eq_nil.mpr fun q hq he =>
          hfresh (he ▸ h.mem q hq)
        exact hnone.symm
    · rw [hgroups] at hp
      rw [hopen] at hslot
      rcases List.mem_append.mp hp with hp | hp
      · rw [settledGroup_of_settings (settings_of_setup hsetup)]
        exact h.settled p hp fun hmem => hslot (List.mem_cons_of_mem _ hmem)
      · rw [List.mem_singleton.mp hp] at hslot
        exact absurd List.mem_cons_self hslot

theorem mem_mapGroup {slot : Nat} {f : SpecGroup → SpecGroup} {p : Nat × SpecGroup} :
    p ∈ (c.mapGroup slot f).groups ↔
      ∃ q ∈ c.groups, p = (q.1, if q.1 = slot then f q.2 else q.2) := by
  simp only [mapGroup, List.mem_map]
  exact exists_congr fun q => and_congr_right fun _ => eq_comm

/-- A rule that is collected is filed under the active slot. -/
theorem Filed.collect (hc : c.Grouped) (h : Filed c.openSlots filed c) (x : Emission) :
    Filed (c.collect x.spec).openSlots (filed ++ [(c.activeSlot.1, x)]) (c.collect x.spec) := by
  have hactive := h.activeSlot hc
  have hopen := activeSlot_mem_openSlots hc
  have hmem := hc.activeSlot.1.openMem _ hopen
  rw [collect_eq]
  have hslots : ((c.activeSlot.2.mapGroup c.activeSlot.1 fun g =>
      { g with specifications := g.specifications ++ [x.spec] }).openSlots) =
      c.activeSlot.2.openSlots := rfl
  rw [hslots]
  refine ⟨fun p hp => ?_, fun p hp hslot => ?_, fun p hp hslot => ?_⟩
  · rw [groupSlots_mapGroup]
    rcases List.mem_append.mp hp with hp | hp
    · exact hactive.mem p hp
    · rwa [List.mem_singleton.mp hp]
  · obtain ⟨q, hq, rfl⟩ := mem_mapGroup.mp hp
    have hspecs := hactive.collected q hq hslot
    rw [filedUnder_snoc]
    by_cases he : q.1 = c.activeSlot.1
    · rw [if_pos he, if_pos he.symm, hspecs]
    · rw [if_neg he, if_neg (Ne.symm he), List.append_nil, hspecs]
  · obtain ⟨q, hq, rfl⟩ := mem_mapGroup.mp hp
    have he : q.1 ≠ c.activeSlot.1 := fun he => hslot (he ▸ hopen)
    rw [filedUnder_snoc, if_neg (Ne.symm he), if_neg he, List.append_nil]
    exact hactive.settled q hq hslot

/-! ## Closing a group -/

theorem metadata_settledGroup (c : Compiler σ) (g : SpecGroup) :
    (c.settledGroup g).metadata = g.metadata := by
  rw [settledGroup]
  split <;> rfl

/-- A slot without a group is neither collected nor settled. -/
theorem Filed.forget {slot : Nat} (h : Filed (slot :: slots) filed c)
    (hslot : slot ∉ c.groupSlots) : Filed slots filed c := by
  have hne {p : Nat × SpecGroup} (hp : p ∈ c.groups) : p.1 ≠ slot := fun he =>
    hslot (he ▸ List.mem_map_of_mem hp)
  exact ⟨h.mem, fun p hp hmem => h.collected p hp (List.mem_cons_of_mem _ hmem),
    fun p hp hnot => h.settled p hp fun hmem =>
      (List.mem_cons.mp hmem).elim (hne hp) hnot⟩

theorem Filed.discarded {slot : Nat} {g : SpecGroup} (h : Filed (slot :: slots) filed c)
    (hg : c.group? slot = some g) (hempty : g.specifications = []) :
    Filed slots filed (c.discarded slot) := by
  have hmem : (slot, g) ∈ c.groups := mem_of_lookup hg
  have hnone := (h.collected _ hmem List.mem_cons_self).symm.trans hempty
  have hkept : Filed (slot :: slots) filed (c.discarded slot) := by
    refine ⟨fun p hp => ?_, fun p hp => h.collected p (List.mem_of_mem_filter hp),
      fun p hp => h.settled p (List.mem_of_mem_filter hp)⟩
    rw [groupSlots_discarded, List.mem_filter, bne_iff_ne]
    exact ⟨h.mem p hp, filedUnder_eq_nil.mp hnone p hp⟩
  refine hkept.forget ?_
  rw [groupSlots_discarded]
  simp

theorem Filed.settle {slot : Nat} {g : SpecGroup} (h : Filed (slot :: slots) filed c)
    (hg : c.group? slot = some g) (hrules : g.specifications ≠ []) (hslot : slot ∉ slots) :
    Filed slots filed (c.mapGroup slot fun _ => c.settledGroup g) := by
  have hmem : (slot, g) ∈ c.groups := mem_of_lookup hg
  have hspecs := h.collected _ hmem List.mem_cons_self
  refine ⟨fun p hp => ?_, fun p hp hin => ?_, fun p hp hout => ?_⟩
  · rw [groupSlots_mapGroup]
    exact h.mem p hp
  · obtain ⟨q, hq, rfl⟩ := mem_mapGroup.mp hp
    have hne : q.1 ≠ slot := fun he => hslot (he ▸ hin)
    rw [if_neg hne]
    exact h.collected q hq (List.mem_cons_of_mem _ hin)
  · obtain ⟨q, hq, rfl⟩ := mem_mapGroup.mp hp
    by_cases he : q.1 = slot
    · rw [if_pos he]
      refine ⟨?_, g.metadata, ?_⟩
      · rw [he, ← hspecs]
        exact hrules
      · rw [he, ← hspecs]
        rfl
    · rw [if_neg he]
      exact h.settled q hq fun hmem => (List.mem_cons.mp hmem).elim he hout

/-- A scope that no longer owns its group leaves it settled, if it has rules. -/
theorem Filed.closeGroup (s : Scope) (h : Filed (s.collection.slot?.toList ++ slots) filed c)
    (hs : ∀ slot, s.collection.slot? = some slot → slot ∉ slots) :
    Filed slots filed (c.closeGroup s).2 := by
  rcases c.closeGroup_cases s with ⟨hnone, notices, heq⟩ | ⟨slot, g, hslot, hg, hempty, heq⟩ |
    ⟨slot, g, d, hslot, hg, hrules, rfl, hcase⟩
  · have hfiled : Filed slots filed c := by
      cases hslot : s.collection.slot? with
      | none => rwa [hslot] at h
      | some slot =>
        rw [hslot] at h hnone
        refine h.forget fun hmem => ?_
        rw [mem_groupSlots, show c.group? slot = none from hnone] at hmem
        cases hmem
    rw [heq]
    exact hfiled.of_groups rfl rfl
  · rw [hslot] at h
    rw [heq]
    exact (h.discarded hg hempty).of_groups rfl rfl
  · rw [hslot] at h
    have hsettled := h.settle hg hrules (hs slot hslot)
    rcases hcase with ⟨-, heq⟩ | ⟨-, st, fault, -, heq⟩
    · rw [heq]
      exact hsettled.of_groups rfl rfl
    · rw [heq]
      exact hsettled.of_groups rfl rfl

/-- So it does also if the sink refuses the group. -/
theorem Filed.settleScope (s : Scope) (h : Filed (s.collection.slot?.toList ++ slots) filed c)
    (hs : ∀ slot, s.collection.slot? = some slot → slot ∉ slots) :
    Filed slots filed (c.settle s) := by
  have hclosed := h.closeGroup s hs
  rcases c.settle_cases s with ⟨-, heq⟩ | ⟨f, -, heq⟩
  · rwa [heq]
  · rw [heq]
    exact hclosed.of_groups rfl rfl

theorem openSlots_settle (c : Compiler σ) (s : Scope) : (c.settle s).openSlots = c.openSlots := by
  have hclosed := c.openSlots_closeGroup s
  rcases c.settle_cases s with ⟨-, heq⟩ | ⟨f, -, heq⟩
  · rw [heq, hclosed]
  · rw [heq]
    exact hclosed

/-! ## Runs -/

/-- What a run keeps, and what it files on the way. The sink may refuse what it likes: a rule that
it refuses is not made. -/
def FilesAway (c : Compiler σ) (es : List Emission) (d : Compiler σ) : Prop :=
  c.Grouped → d.Grouped ∧ ∀ filed, Filed c.openSlots filed c →
    ∃ later, later.map Prod.snd = es ∧ Filed d.openSlots (filed ++ later) d

/-- Operations that leave the groups, and where scopes collect, alone. -/
theorem filesAway_of_quiet (hd : c.Grouped → d.Grouped) (hsettings : d.settings = c.settings)
    (hgroups : d.groups = c.groups) (hopen : d.openSlots = c.openSlots) : FilesAway c [] d := by
  intro hc
  refine ⟨hd hc, fun filed h => ⟨[], rfl, ?_⟩⟩
  rw [hopen, List.append_nil]
  exact h.of_groups hsettings hgroups

/-- A rule that is made is collected, and no other one is. -/
theorem Filed.append (hc : c.Grouped) (h : Filed c.openSlots filed c) (x : Emission) :
    (c.append x.spec).1 = none ∧
        (∃ slot, Filed (c.append x.spec).2.openSlots (filed ++ [(slot, x)]) (c.append x.spec).2) ∨
      ∃ f, (c.append x.spec).1 = some f ∧
        Filed (c.append x.spec).2.openSlots filed (c.append x.spec).2 := by
  rcases c.append_cases x.spec with ⟨-, heq⟩ | ⟨-, st, fault, -, heq⟩
  · rw [heq]
    exact .inl ⟨rfl, _, h.collect hc x⟩
  · have hhanded : Filed c.openSlots filed { c with sinkState := st } := h.of_groups rfl rfl
    have hgrouped : ({ c with sinkState := st } : Compiler σ).Grouped := hc.of_eq rfl rfl rfl
    rw [heq]
    cases fault with
    | none => exact .inl ⟨rfl, _, hhanded.collect hgrouped x⟩
    | some f => exact .inr ⟨f, rfl, hhanded⟩

theorem filesAway_make (c : Compiler σ) {rule : Compiler σ → String → Specification}
    (record : RuleIndex → String → RuleIndex) (hrule : Steady rule) :
    FilesAway c (c.emission rule (c.make rule record).1) (c.make rule record).2 := by
  intro hc
  refine ⟨hc.make rule record, fun filed h => ?_⟩
  rcases c.make_cases rule record with ⟨reason, -, heq⟩ | ⟨-, -, heq⟩ |
    ⟨-, -, fault, d, happend, heq⟩
  · rw [heq]
    exact ⟨[], rfl, by rwa [List.append_nil]⟩
  · rw [heq]
    exact ⟨[], rfl, by rw [List.append_nil]; exact h.of_groups rfl rfl⟩
  · have hprepared : Filed (c.prepared record).openSlots filed (c.prepared record) :=
      h.of_groups rfl rfl
    rw [hrule] at happend
    have happended := hprepared.append (hc.prepared record)
      ⟨c.location, rule c c.generateIdentifier.1⟩
    rw [happend] at happended
    rw [heq]
    rcases happended with ⟨rfl, slot, hfiled⟩ | ⟨f, rfl, hfiled⟩
    · exact ⟨[(slot, _)], rfl, hfiled⟩
    · exact ⟨[], rfl, by rwa [List.append_nil]⟩

theorem filesAway_closeScope (c : Compiler σ) : FilesAway c [] c.closeScope := by
  intro hc
  refine ⟨hc.closeScope, fun filed h => ⟨[], rfl, ?_⟩⟩
  rw [List.append_nil]
  rcases c.closeScope_cases with ⟨-, heq⟩ | ⟨parent, outer, houter, heq⟩
  · rwa [heq]
  · obtain ⟨-, hfree⟩ := hc.popped houter
    have hpopped : Filed c.openSlots filed (c.popped parent outer) := h.of_groups rfl rfl
    rw [openSlots_popped houter] at hpopped
    rw [heq, openSlots_settle]
    exact hpopped.settleScope c.top hfree

theorem tracks_filesAway : Tracks (σ := σ) FilesAway where
  refl c := filesAway_of_quiet id rfl rfl rfl
  trans h h' hc := by
    obtain ⟨hd, hfiled⟩ := h hc
    obtain ⟨he, hfiled'⟩ := h' hd
    refine ⟨he, fun filed hstart => ?_⟩
    obtain ⟨later, rfl, hlater⟩ := hfiled filed hstart
    obtain ⟨later', rfl, hlater'⟩ := hfiled' _ hlater
    exact ⟨later ++ later', List.map_append, by rwa [← List.append_assoc]⟩
  mapTop c _ _ hf := filesAway_of_quiet (fun h => h.mapTop hf) rfl rfl (openSlots_mapTop hf c)
  generateIdentifier c := filesAway_of_quiet Grouped.generateIdentifier rfl rfl rfl
  skip c reason quiet := filesAway_of_quiet (fun h => h.skip reason quiet) rfl rfl rfl
  make c _ record hrule := filesAway_make c record hrule
  openKind c kind name := filesAway_of_quiet (fun h => h.openKind kind name) rfl rfl
    (openSlots_openKind c kind name)
  closeScope c := filesAway_closeScope c

/-- Closing all scopes settles all groups. -/
theorem Filed.closeAll (scopes : List Scope) (hslots : (ownedSlots scopes).Nodup)
    (h : Filed (ownedSlots scopes) filed c) : Filed [] filed (c.closeAll scopes) := by
  induction scopes generalizing c with
  | nil => exact h
  | cons s scopes ih =>
    rw [ownedSlots_cons] at hslots h
    have hfree : ∀ slot, s.collection.slot? = some slot → slot ∉ ownedSlots scopes := by
      intro slot hslot
      rw [hslot] at hslots
      exact (List.nodup_cons.mp hslots).1
    exact ih hslots.of_append_right (h.settleScope s hfree)

/-- Groups that are all settled have the rules dealt out, and were settled once. -/
theorem Filed.dealtOut (h : Filed [] filed c) (hnodup : c.groupSlots.Nodup) :
    ∃ raw, DealtOut (filed.map (·.2.spec)) raw ∧
      c.groups.map Prod.snd = raw.map c.settledGroup := by
  let groups : List (Nat × SpecGroup) :=
    c.groups.map fun p => (p.1, ⟨p.2.metadata, filedUnder p.1 filed⟩)
  have hslots : groups.map Prod.fst = c.groupSlots := by
    simp only [groups, List.map_map, groupSlots]
    rfl
  refine ⟨groups.map Prod.snd, dealtOut_of_filed (hslots ▸ hnodup) (hslots ▸ h.mem) ?_ ?_, ?_⟩
  · intro p hp
    obtain ⟨q, -, rfl⟩ := List.mem_map.mp hp
    rfl
  · intro p hp
    obtain ⟨q, hq, rfl⟩ := List.mem_map.mp hp
    exact (h.settled q hq List.not_mem_nil).1
  · simp only [groups, List.map_map]
    refine List.map_congr_left fun p hp => ?_
    obtain ⟨-, metadata, heq⟩ := h.settled p hp List.not_mem_nil
    have hmetadata := congrArg SpecGroup.metadata heq
    rw [metadata_settledGroup] at hmetadata
    simp only [Function.comp, hmetadata]
    exact heq

section Start

variable {settings : CompilerSettings} {catalog : Catalog} {template : GroupMetadata}
  {sink : Sink σ} {st : σ} {ks : List (Call σ)}

/-- **A run can be finished**, and the groups that it gives are those to which its rules were
dealt out, settled. -/
theorem finish_settles (h : start settings catalog template sink st = .ok c)
    (hsink : sink.Reliable) (htrace : Trace c ks d) :
    ∃ raw rules, d.finish.1 = .ok rules ∧ rules.index = d.index ∧
      DealtOut ((ks.flatMap Call.emissions).map (·.spec)) raw ∧
      rules.groups = raw.map d.settledGroup ∧ d.settings = settings := by
  obtain ⟨-, hfiled⟩ := htrace.tracks tracks_filesAway (grouped_start h)
  obtain ⟨hsound, filed', closed', -, hadvance', -⟩ :=
    htrace.tracks tracks_files (sound_start h hsink)
  obtain ⟨filed, hemitted, hfiled⟩ := hfiled [] (filed_start h)
  obtain ⟨hfinish, hnodup, closed, hadvance, -⟩ := advance_finish hsound
  have hall : Filed [] filed d.finish.2 :=
    hfiled.closeAll (d.top :: d.outer) hsound.grouped.openNodup
  obtain ⟨raw, hdealt, hgroups⟩ := hall.dealtOut hnodup
  rw [settledGroup_of_settings (settings_of_setup hadvance.setup)] at hgroups
  refine ⟨raw, _, hfinish, index_finish d, ?_, hgroups, ?_⟩
  · rw [← hemitted, List.map_map]
    exact hdealt
  · rw [settings_of_setup hadvance'.setup, (fresh_start h).1]

end Start

/-- A rule that was dealt out to a group is still in it, or is a constituent of one that is. -/
theorem exists_of_mem_settled {g : SpecGroup} {s : Specification} (hs : s ∈ g.specifications) :
    s ∈ (c.settledGroup g).specifications ∨ (c.settings.groupByApplicability = true ∧
      ∃ t ∈ (c.settledGroup g).specifications, ∃ cs, 2 ≤ cs.length ∧ cs ⊆ g.specifications ∧
        t.Replaces cs ∧ s ∈ cs) := by
  cases hgroup : c.settings.groupByApplicability with
  | false =>
    left
    simpa [settledGroup, hgroup] using hs
  | true =>
    rw [settledGroup, hgroup, if_pos rfl]
    exact (Consolidation.mem_or_replaced hs).imp_right fun hreplaced => ⟨rfl, hreplaced⟩

end Compiler

end Eir
