import Eir.Proofs.Compiler.Steps
import Mathlib.Data.List.Nodup

/-!
# The groups of the open scopes

Groups are kept under slots. `Grouped` says that no two groups have a slot in
common, that every open scope which owns a group finds it under its slot, that no
two open scopes own the same group, and that the outermost scope owns one. All
operations of the compiler keep this. So a rule that is collected is the last one
of the group where the innermost scope collects (`lastCollected_collect`).
-/

namespace Eir

theorem Collection.slot?_eq_none {collection : Collection}
    (h : ∀ slot, collection ≠ .own (some slot)) : collection.slot? = none := by
  rcases collection with _ | _ | slot
  · rfl
  · rfl
  · exact absurd rfl (h slot)

namespace Compiler

variable {σ : Type} {c d : Compiler σ}

/-- Where the open scopes collect their rules, the inner ones first. -/
def collections (c : Compiler σ) : List Collection := (c.top :: c.outer).map Scope.collection

/-- The slots of the groups that open scopes own, the inner ones first. -/
def openSlots (c : Compiler σ) : List Nat := c.collections.filterMap Collection.slot?

/-- The slots of all groups. -/
def groupSlots (c : Compiler σ) : List Nat := c.groups.map Prod.fst

/-- Groups and open scopes belong together. -/
structure Grouped (c : Compiler σ) : Prop where
  nodup : c.groupSlots.Nodup
  lt : ∀ slot ∈ c.groupSlots, slot < c.nextGroup
  openNodup : c.openSlots.Nodup
  openMem : ∀ slot ∈ c.openSlots, slot ∈ c.groupSlots
  root : (c.collections.getLast?.bind Collection.slot?).isSome = true

/-! ## Groups under their slots -/

theorem mem_groupSlots {slot : Nat} : slot ∈ c.groupSlots ↔ (c.group? slot).isSome = true := by
  rw [group?, List.lookup_isSome_iff, groupSlots, List.mem_map]
  exact exists_congr fun p => and_congr_right fun _ => by rw [beq_iff_eq, eq_comm]

theorem groupSlots_mapGroup (c : Compiler σ) (slot : Nat) (f : SpecGroup → SpecGroup) :
    (c.mapGroup slot f).groupSlots = c.groupSlots := by
  simp only [groupSlots, mapGroup, List.map_map]
  rfl

theorem group?_mapGroup (c : Compiler σ) (slot : Nat) (f : SpecGroup → SpecGroup) :
    (c.mapGroup slot f).group? slot = (c.group? slot).map f := by
  simp only [group?, mapGroup]
  induction c.groups with
  | nil => rfl
  | cons p ps ih =>
    obtain ⟨n, g⟩ := p
    simp only [List.map_cons, List.lookup_cons]
    by_cases h : slot = n
    · simp [h]
    · rw [beq_false_of_ne h]
      exact ih

/-! ## The invariant -/

/-- Operations that leave the groups, and where scopes collect, alone. -/
theorem Grouped.of_eq (h : c.Grouped) (hgroups : d.groups = c.groups)
    (hnext : d.nextGroup = c.nextGroup) (hcoll : d.collections = c.collections) : d.Grouped := by
  have hslots : d.groupSlots = c.groupSlots := by rw [groupSlots, groupSlots, hgroups]
  have hopen : d.openSlots = c.openSlots := by rw [openSlots, openSlots, hcoll]
  exact ⟨hslots ▸ h.nodup, by rw [hslots, hnext]; exact h.lt, hopen ▸ h.openNodup,
    by rw [hopen, hslots]; exact h.openMem, by rw [hcoll]; exact h.root⟩

theorem Grouped.notify (h : c.Grouped) (n : ScopeNotice) : (c.notify n).Grouped :=
  h.of_eq rfl rfl rfl

theorem Grouped.mapTop {step : Step} {f : Scope → Scope} (hf : step.setter? = some f)
    (h : c.Grouped) : (c.mapTop f).Grouped :=
  h.of_eq rfl rfl (by
    simp only [collections, Compiler.mapTop, List.map_cons, Step.collection_setter hf])

theorem Grouped.generateIdentifier (h : c.Grouped) : c.generateIdentifier.2.Grouped :=
  h.of_eq rfl rfl rfl

theorem Grouped.skip (h : c.Grouped) (reason : String) (quiet : Bool) :
    (c.skip reason quiet).Grouped :=
  h.of_eq rfl rfl rfl

theorem Grouped.prepared (h : c.Grouped) (record : RuleIndex → String → RuleIndex) :
    (c.prepared record).Grouped :=
  h.of_eq rfl rfl rfl

theorem Grouped.mapGroup (h : c.Grouped) (slot : Nat) (f : SpecGroup → SpecGroup) :
    (c.mapGroup slot f).Grouped := by
  have hslots := c.groupSlots_mapGroup slot f
  exact ⟨hslots ▸ h.nodup, by rw [hslots]; exact h.lt, h.openNodup,
    by rw [hslots]; exact h.openMem, h.root⟩

theorem slot?_collectionOf (c : Compiler σ) (kind : ScopeKind) :
    (c.collectionOf kind).slot? = none := by
  cases kind with
  | sectional => rw [collectionOf]; split <;> rfl
  | numbering => rfl

/-- The group of a scope is not there before its first rule. -/
theorem openSlots_openKind (c : Compiler σ) (kind : ScopeKind) (name : String) :
    (c.openKind kind name).openSlots = c.openSlots := by
  have hcoll : (c.openKind kind name).collections = c.collectionOf kind :: c.collections := rfl
  rw [openSlots, hcoll, List.filterMap_cons_none (c.slot?_collectionOf kind)]
  rfl

theorem Grouped.openKind (h : c.Grouped) (kind : ScopeKind) (name : String) :
    (c.openKind kind name).Grouped := by
  have hcoll : (c.openKind kind name).collections = c.collectionOf kind :: c.collections := rfl
  have hopen := c.openSlots_openKind kind name
  refine ⟨h.nodup, h.lt, hopen ▸ h.openNodup, by rw [hopen]; exact h.openMem, ?_⟩
  rw [hcoll, collections, List.map_cons, List.getLast?_cons_cons]
  exact h.root

/-! ## Closing -/

theorem Grouped.popped {parent : Scope} {outer : List Scope} (h : c.Grouped)
    (houter : c.outer = parent :: outer) :
    (c.popped parent outer).Grouped ∧
      ∀ slot, c.top.collection.slot? = some slot → slot ∉ (c.popped parent outer).openSlots := by
  have hcoll : c.collections = c.top.collection :: (c.popped parent outer).collections := by
    rw [collections, houter]
    rfl
  have hopen : c.openSlots =
      c.top.collection.slot?.toList ++ (c.popped parent outer).openSlots := by
    rw [openSlots, hcoll, List.filterMap_cons]
    cases c.top.collection.slot? <;> rfl
  have hnodup := h.openNodup
  have hroot := h.root
  rw [hopen] at hnodup
  rw [hcoll, collections, List.map_cons, List.getLast?_cons_cons] at hroot
  refine ⟨⟨h.nodup, h.lt, hnodup.of_append_right, fun slot hslot => ?_, hroot⟩, ?_⟩
  · exact h.openMem slot (hopen ▸ List.mem_append_right _ hslot)
  · intro slot hslot hmem
    rw [hslot] at hnodup
    exact (List.nodup_cons.mp hnodup).1 hmem

theorem groupSlots_discarded (c : Compiler σ) (slot : Nat) :
    (c.discarded slot).groupSlots = c.groupSlots.filter (· != slot) := by
  simp only [groupSlots, discarded, List.filter_map]
  rfl

/-- A group can go when no open scope owns it. -/
theorem Grouped.discarded (h : c.Grouped) {slot : Nat} (hslot : slot ∉ c.openSlots) :
    (c.discarded slot).Grouped := by
  have hslots := c.groupSlots_discarded slot
  refine ⟨hslots ▸ h.nodup.filter _, fun n hn => ?_, h.openNodup, fun n hn => ?_, h.root⟩
  · rw [hslots] at hn
    exact h.lt n (List.mem_of_mem_filter hn)
  · rw [hslots, List.mem_filter, bne_iff_ne]
    exact ⟨h.openMem n hn, fun he => hslot (he ▸ hn)⟩

theorem Grouped.closeGroup (h : c.Grouped) (s : Scope)
    (hs : ∀ slot, s.collection.slot? = some slot → slot ∉ c.openSlots) :
    (c.closeGroup s).2.Grouped := by
  rcases c.closeGroup_cases s with ⟨-, notices, heq⟩ | ⟨slot, g, hslot, -, -, heq⟩ |
    ⟨slot, g, d, -, -, -, hd, hcase⟩
  · rw [heq]
    exact h.of_eq rfl rfl rfl
  · rw [heq]
    exact (h.notify _).discarded (hs slot hslot)
  · have hgrouped : d.Grouped := hd ▸ (h.notify _).mapGroup slot _
    rcases hcase with ⟨-, heq⟩ | ⟨-, st, fault, -, heq⟩
    · rw [heq]
      exact hgrouped
    · rw [heq]
      exact hgrouped.of_eq rfl rfl rfl

theorem Grouped.settle (h : c.Grouped) (s : Scope)
    (hs : ∀ slot, s.collection.slot? = some slot → slot ∉ c.openSlots) :
    (c.settle s).Grouped := by
  rcases c.settle_cases s with ⟨-, heq⟩ | ⟨f, -, heq⟩
  · exact heq ▸ h.closeGroup s hs
  · exact heq ▸ (h.closeGroup s hs).of_eq rfl rfl rfl

theorem Grouped.closeScope (h : c.Grouped) : c.closeScope.Grouped := by
  rcases c.closeScope_cases with ⟨-, heq⟩ | ⟨parent, outer, houter, heq⟩
  · rwa [heq]
  · rw [heq]
    exact (h.popped houter).1.settle _ (h.popped houter).2

/-! ## Collecting -/

theorem groupOwner_mem (c : Compiler σ) : c.groupOwner ∈ c.top :: c.outer := by
  rw [groupOwner]
  cases h : (c.top :: c.outer).find? Scope.ownsGroup with
  | none => exact List.mem_cons_self
  | some s => exact List.mem_of_find?_eq_some h

/-- The outermost scope owns a group, so there is always an owner. -/
theorem Grouped.exists_owner (h : c.Grouped) :
    (c.top :: c.outer).find? Scope.ownsGroup = some c.groupOwner := by
  cases hfind : (c.top :: c.outer).find? Scope.ownsGroup with
  | some s => rw [groupOwner, hfind, Option.getD_some]
  | none =>
    obtain ⟨coll, hcoll, hslot⟩ := Option.bind_eq_some_iff.mp
      (Option.isSome_iff_exists.mp h.root).choose_spec
    obtain ⟨s, hs, rfl⟩ := List.mem_map.mp (List.mem_of_getLast? hcoll)
    have hnot := List.find?_eq_none.mp hfind s hs
    rw [Scope.ownsGroup, bne_iff_ne, ne_eq, not_not] at hnot
    rw [hnot] at hslot
    cases hslot

variable {ss : List Scope}

theorem find?_assignSlot (slot : Nat) (ss : List Scope) :
    (assignSlot slot ss).find? Scope.ownsGroup =
      (ss.find? Scope.ownsGroup).map fun s => { s with collection := .own (some slot) } := by
  induction ss with
  | nil => rfl
  | cons s ss ih =>
    rw [assignSlot]
    cases hs : s.ownsGroup with
    | true =>
      rw [if_pos rfl, List.find?_cons_of_pos hs, List.find?_cons_of_pos (by rfl), Option.map_some]
    | false =>
      rw [if_neg (by decide), List.find?_cons_of_neg (by simp [hs]),
        List.find?_cons_of_neg (by simp [hs]), ih]

theorem collection_of_not_ownsGroup {s : Scope} (h : s.ownsGroup = false) :
    s.collection = .around := by
  simpa [Scope.ownsGroup] using h

theorem filterMap_slot?_assignSlot (slot : Nat) {s : Scope} (hfind : ss.find? Scope.ownsGroup = some s)
    (hs : s.collection.slot? = none) :
    ((assignSlot slot ss).map Scope.collection).filterMap Collection.slot? =
      slot :: (ss.map Scope.collection).filterMap Collection.slot? := by
  induction ss with
  | nil => cases hfind
  | cons t ts ih =>
    rw [assignSlot]
    cases ht : t.ownsGroup with
    | true =>
      rw [List.find?_cons_of_pos ht] at hfind
      obtain rfl := Option.some.inj hfind
      rw [if_pos rfl, List.map_cons, List.map_cons]
      rw [List.filterMap_cons_none hs]
      rfl
    | false =>
      have hnone : t.collection.slot? = none := by rw [collection_of_not_ownsGroup ht]; rfl
      rw [List.find?_cons_of_neg (by simp [ht])] at hfind
      rw [if_neg (by decide), List.map_cons, List.map_cons, List.filterMap_cons_none hnone,
        List.filterMap_cons_none hnone, ih hfind]

theorem root_assignSlot (slot : Nat)
    (h : ((ss.map Scope.collection).getLast?.bind Collection.slot?).isSome = true) :
    ((((assignSlot slot ss).map Scope.collection).getLast?.bind Collection.slot?).isSome) =
      true := by
  induction ss with
  | nil => exact h
  | cons s ss ih =>
    rw [assignSlot]
    cases hs : s.ownsGroup with
    | true =>
      cases ss with
      | nil => rfl
      | cons t ts => exact h
    | false =>
      rw [if_neg (by decide)]
      cases ss with
      | nil => exact h
      | cons t ts =>
        obtain ⟨u, us, hassign⟩ := assignSlot_eq_cons slot t ts
        have htail := ih h
        rw [hassign] at htail ⊢
        exact htail

theorem Grouped.nextGroup_not_mem (h : c.Grouped) : c.nextGroup ∉ c.groupSlots :=
  fun hmem => Nat.lt_irrefl _ (h.lt _ hmem)

/-- The group where the innermost scope collects is there, or an empty one is made under a slot
that the owner gets. -/
theorem Grouped.activeSlot_cases (h : c.Grouped) :
    c.activeSlot.2 = c ∨
      (c.activeSlot.2.openSlots = c.nextGroup :: c.openSlots ∧
        c.activeSlot.2.groups = c.groups ++ [(c.nextGroup, c.newGroup)] ∧
        c.activeSlot.2.setup = c.setup) := by
  rcases c.activeSlot_cases with ⟨slot, -, heq⟩ | ⟨hnone, top, outer, hassign, heq⟩
  · exact .inl (by rw [heq])
  · right
    have hopen := filterMap_slot?_assignSlot c.nextGroup h.exists_owner
      (Collection.slot?_eq_none hnone)
    rw [hassign] at hopen
    rw [heq]
    exact ⟨hopen, rfl, rfl⟩

/-- The group where the innermost scope collects is there, under the slot of the owner. -/
theorem Grouped.activeSlot (h : c.Grouped) :
    c.activeSlot.2.Grouped ∧
      c.activeSlot.2.groupOwner.collection = .own (some c.activeSlot.1) := by
  rcases c.activeSlot_cases with ⟨slot, howner, heq⟩ | ⟨hnone, top, outer, hassign, heq⟩
  · rw [heq]
    exact ⟨h, howner⟩
  · have hfresh := h.nextGroup_not_mem
    have hopen := filterMap_slot?_assignSlot c.nextGroup h.exists_owner
      (Collection.slot?_eq_none hnone)
    have hroot := root_assignSlot c.nextGroup h.root
    have hfind := find?_assignSlot c.nextGroup (c.top :: c.outer)
    rw [hassign] at hopen hroot hfind
    rw [heq]
    refine ⟨⟨?_, fun n hn => ?_, ?_, fun n hn => ?_, hroot⟩, ?_⟩
    · rw [groupSlots, List.map_append, List.nodup_append]
      refine ⟨h.nodup, List.nodup_singleton _, fun a ha b hb => ?_⟩
      rw [List.mem_singleton.mp hb]
      rintro rfl
      exact hfresh ha
    · rw [groupSlots, List.map_append] at hn
      rcases List.mem_append.mp hn with hn | hn
      · exact Nat.lt_succ_of_lt (h.lt n hn)
      · rw [List.mem_singleton.mp hn]
        exact Nat.lt_succ_self _
    · rw [openSlots, collections, hopen]
      exact List.nodup_cons.mpr ⟨fun hmem => hfresh (h.openMem _ hmem), h.openNodup⟩
    · rw [openSlots, collections, hopen] at hn
      rw [groupSlots, List.map_append]
      rcases List.mem_cons.mp hn with rfl | hn
      · exact List.mem_append_right _ (List.mem_singleton_self _)
      · exact List.mem_append_left _ (h.openMem n hn)
    · rw [groupOwner, hfind, h.exists_owner]
      rfl

theorem collect_eq (c : Compiler σ) (spec : Specification) :
    c.collect spec = c.activeSlot.2.mapGroup c.activeSlot.1 fun g =>
      { g with specifications := g.specifications ++ [spec] } := rfl

theorem Grouped.collect (h : c.Grouped) (spec : Specification) : (c.collect spec).Grouped := by
  rw [collect_eq]
  exact h.activeSlot.1.mapGroup _ _

theorem Grouped.append (h : c.Grouped) (spec : Specification) : (c.append spec).2.Grouped := by
  rcases c.append_cases spec with ⟨-, heq⟩ | ⟨-, st, fault, -, heq⟩
  · rw [heq]
    exact h.collect spec
  · rw [heq]
    have hhanded : ({ c with sinkState := st } : Compiler σ).Grouped := h.of_eq rfl rfl rfl
    cases fault with
    | none => exact hhanded.collect spec
    | some f => exact hhanded

theorem Grouped.make (h : c.Grouped) (rule : Compiler σ → String → Specification)
    (record : RuleIndex → String → RuleIndex) : (c.make rule record).2.Grouped := by
  rcases c.make_cases rule record with ⟨reason, -, heq⟩ | ⟨-, -, heq⟩ |
    ⟨-, -, fault, d, happend, heq⟩
  · rwa [heq]
  · rw [heq]
    exact h.skip _ _
  · rw [heq]
    have hd := (h.prepared record).append (rule (c.prepared record) c.generateIdentifier.1)
    rwa [happend] at hd

/-- The rule that was collected last where the innermost scope collects its rules. -/
def lastCollected (c : Compiler σ) : Option Specification :=
  (c.groupOwner.collection.slot?.bind c.group?).bind (·.specifications.getLast?)

theorem lastCollected_collect (h : c.Grouped) (spec : Specification) :
    (c.collect spec).lastCollected = some spec := by
  obtain ⟨hactive, howner⟩ := h.activeSlot
  have howner' : (c.collect spec).groupOwner.collection = .own (some c.activeSlot.1) := howner
  have hopen : c.activeSlot.1 ∈ c.activeSlot.2.openSlots := by
    refine List.mem_filterMap.mpr ⟨_, List.mem_map_of_mem (groupOwner_mem c.activeSlot.2), ?_⟩
    rw [howner]
    rfl
  obtain ⟨g, hg⟩ := Option.isSome_iff_exists.mp (mem_groupSlots.mp (hactive.openMem _ hopen))
  have hgroup : (c.collect spec).group? c.activeSlot.1 =
      some { g with specifications := g.specifications ++ [spec] } := by
    rw [collect_eq, group?_mapGroup, hg, Option.map_some]
  rw [lastCollected, howner']
  simp only [Collection.slot?, Option.bind_some, hgroup, List.getLast?_concat]

end Compiler

end Eir
