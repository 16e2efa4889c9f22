import Eir.Proofs.Compiler.Delivery
import Eir.Proofs.Compiler.Settling
import Eir.Proofs.Compiler.Usage
import Eir.Proofs.Files.DocumentNames
import Eir.Proofs.Lists

/-!
# No document is written over another

Every document that a run writes has a place of its own. A rule's document is
named for the slot of the rule, and a scope's document for the slot of the scope,
so no two of one kind meet when the slots differ; and rules and scopes have
different folders. The document of the outermost scope has the name of the
bundle, which is free text, but too short to be the name of a scope in it.

`Documented` is the invariant: which slot each document was written for, and which
slots the documents of open scopes will be written for. What matters of an open
scope is its `Holder`.
-/

namespace Eir

open Text

/-- What is known of an open scope when the document of its group is written. -/
structure Holder where
  ident : String
  fullPrefix : String
  collection : Collection
  deriving DecidableEq

def Scope.holder (s : Scope) : Holder := ⟨s.ident, s.fullPrefix, s.collection⟩

/-- The name of the group of a scope with an identifier. -/
def IsGroupName (stage : Stage) (bundle ident name : String) : Prop :=
  (ident = "" ∧ name = bundle) ∨
    (ident ≠ "" ∧ ∃ tag, name = scopeName stage.number ident tag bundle)

/-- Scopes under different identifiers have groups with different names of files. -/
theorem IsGroupName.ident_eq {stage : Stage} {bundle i j name name' : String}
    (h : IsGroupName stage bundle i name) (h' : IsGroupName stage bundle j name')
    (hi : PlainText i) (hj : PlainText j) (heq : safeFileName name = safeFileName name') :
    i = j := by
  rcases h with ⟨rfl, rfl⟩ | ⟨-, tag, rfl⟩ <;> rcases h' with ⟨rfl, rfl⟩ | ⟨-, tag', rfl⟩
  · rfl
  · have hlonger := length_safeFileName_scope stage.number j tag' name
    rw [← heq] at hlonger
    exact absurd hlonger (Nat.lt_irrefl _)
  · have hlonger := length_safeFileName_scope stage.number i tag name'
    rw [heq] at hlonger
    exact absurd hlonger (Nat.lt_irrefl _)
  · exact safeFileName_scope_injective hi hj heq

/-- The path of the document that the sink is asked for. -/
def SinkEvent.path (l : Layout) : SinkEvent → Path
  | .specification location _ spec => l.specificationPath location spec.name
  | .group stage g => l.groupPath stage g.name

/-- The document of a rule under an identifier. -/
def SinkEvent.IsRuleOf (stage : Stage) (ident : String) (e : SinkEvent) : Prop :=
  ∃ location metadata spec title, e = .specification location metadata spec ∧
    location.stage = stage ∧ PlainPrefix location.fullPrefix ∧ spec.name = ident ++ " : " ++ title

/-- The document of the group of a scope under an identifier. -/
def SinkEvent.IsGroupOf (stage : Stage) (bundle ident : String) (e : SinkEvent) : Prop :=
  ∃ g, e = .group stage g ∧ IsGroupName stage bundle ident g.name

namespace Compiler

variable {σ : Type}

/-- The open scopes, the inner ones first. -/
def holders (c : Compiler σ) : List Holder := (c.top :: c.outer).map Scope.holder

/-- Every document was written for a slot that was used, a scope's document at most once, and not
while the scope is open. `hs` are the scopes that are still to close. -/
structure Documented (stage : Stage) (bundle : String) (used : List String) (hs : List Holder)
    (c : Compiler (σ × List SinkEvent)) : Prop where
  stage_eq : c.settings.stage = stage
  bundle_eq : c.template.name = bundle
  logged : ∃ sink, c.sink = Sink.logged sink
  plain : ∀ h ∈ hs, PlainPrefix h.fullPrefix
  unnamed : ∀ h ∈ hs, h.collection = .own none → h.ident ≠ ""
  named : ∀ h ∈ hs, ∀ slot g, h.collection.slot? = some slot → c.group? slot = some g →
    IsGroupName stage bundle h.ident g.name
  rules : ∃ ids, ids.Subperm used ∧ List.Forall₂ (SinkEvent.IsRuleOf stage) ids c.specLog
  groups : ∃ idents, (idents ++ hs.map Holder.ident).Subperm ("" :: used) ∧
    List.Forall₂ (SinkEvent.IsGroupOf stage bundle) idents c.groupLog

variable {c d : Compiler (σ × List SinkEvent)} {stage : Stage} {bundle : String}
  {used : List String} {hs : List Holder}

/-! ## Operations that write nothing -/

/-- The groups may change, and the scopes that own them, if the names still fit. -/
theorem Documented.of_holders {hs' : List Holder} (h : Documented stage bundle used hs c)
    (hsetup : d.setup = c.setup) (hstate : d.sinkState = c.sinkState)
    (hident : hs'.map Holder.ident = hs.map Holder.ident)
    (hplain : ∀ x ∈ hs', PlainPrefix x.fullPrefix)
    (hunnamed : ∀ x ∈ hs', x.collection = .own none → x.ident ≠ "")
    (hnamed : ∀ x ∈ hs', ∀ slot g, x.collection.slot? = some slot → d.group? slot = some g →
      IsGroupName stage bundle x.ident g.name) : Documented stage bundle used hs' d := by
  have hlog : d.log = c.log := congrArg Prod.snd hstate
  have hsink : d.sink = c.sink := congrArg (fun x => x.2.2.2) hsetup
  have htemplate : d.template = c.template := congrArg (fun x => x.2.2.1) hsetup
  refine ⟨by rw [settings_of_setup hsetup, h.stage_eq], by rw [htemplate, h.bundle_eq],
    hsink ▸ h.logged, hplain, hunnamed, hnamed, ?_, ?_⟩
  · rw [specLog, hlog]
    exact h.rules
  · rw [groupLog, hlog, hident]
    exact h.groups

/-- Groups may change, but not their names. -/
theorem Documented.of_names (h : Documented stage bundle used hs c) (hsetup : d.setup = c.setup)
    (hgroups : ∀ slot g, d.group? slot = some g → ∃ g', c.group? slot = some g' ∧ g.name = g'.name)
    (hstate : d.sinkState = c.sinkState) : Documented stage bundle used hs d := by
  refine h.of_holders hsetup hstate rfl h.plain h.unnamed fun x hx slot g hslot hg => ?_
  obtain ⟨g', hg', hname⟩ := hgroups slot g hg
  exact hname ▸ h.named x hx slot g' hslot hg'

theorem Documented.of_eq (h : Documented stage bundle used hs c) (hsetup : d.setup = c.setup)
    (hgroups : d.groups = c.groups) (hstate : d.sinkState = c.sinkState) :
    Documented stage bundle used hs d :=
  h.of_names hsetup (fun slot g hg => ⟨g, by rwa [group?, ← hgroups], rfl⟩) hstate

/-- More slots may have been used. -/
theorem Documented.mono (h : Documented stage bundle used hs c) (later : List String) :
    Documented stage bundle (used ++ later) hs c := by
  obtain ⟨ids, hids, hrules⟩ := h.rules
  obtain ⟨idents, hidents, hgroups⟩ := h.groups
  have hused : used.Subperm (used ++ later) := (List.sublist_append_left used later).subperm
  exact ⟨h.stage_eq, h.bundle_eq, h.logged, h.plain, h.unnamed, h.named,
    ⟨ids, hids.trans hused, hrules⟩,
    ⟨idents, hidents.trans ((List.subperm_cons "").mpr hused), hgroups⟩⟩

theorem holders_mapTop {step : Step} {f : Scope → Scope} (hf : step.setter? = some f)
    (c : Compiler σ) : (c.mapTop f).holders = c.holders := by
  have hholder : (f c.top).holder = c.top.holder := by
    cases step <;> cases hf <;> rfl
  simp only [holders, mapTop, List.map_cons, hholder]

/-- The scopes in a scope with a plain identifier have plain identifiers around them. -/
theorem plainPrefix_openKind (hfront : PlainPrefix c.top.fullPrefix) (kind : ScopeKind)
    (name : String) (hplain : PlainText (c.openKind kind name).top.ident) :
    PlainPrefix (c.openKind kind name).top.fullPrefix := by
  have heq : (c.openKind kind name).top.fullPrefix =
      if c.top.fullPrefix = "" then (c.openKind kind name).top.ident
      else c.top.fullPrefix ++ "/" ++ (c.openKind kind name).top.ident := rfl
  rw [heq]
  split
  · exact fun x hx => .inr (hplain x hx)
  · intro x hx
    rw [String.toList_append, String.toList_append, List.mem_append, List.mem_append] at hx
    rcases hx with (hx | hx) | hx
    · exact hfront x hx
    · exact .inl (List.mem_singleton.mp hx)
    · exact .inr (hplain x hx)

/-- A scope that is opened uses a slot. Its group is not there yet. -/
theorem Documented.openKind (h : Documented stage bundle used c.holders c) (kind : ScopeKind)
    (name : String) (hplain : PlainText (c.openKind kind name).top.ident) :
    Documented stage bundle (used ++ [(c.openKind kind name).top.ident])
      (c.openKind kind name).holders (c.openKind kind name) := by
  have hholders : (c.openKind kind name).holders =
      (c.openKind kind name).top.holder :: c.holders := rfl
  have hquiet : Documented stage bundle used c.holders (c.openKind kind name) :=
    h.of_eq rfl rfl rfl
  obtain ⟨idents, hidents, hgroups⟩ := hquiet.groups
  rw [hholders]
  refine ⟨h.stage_eq, h.bundle_eq, h.logged, ?_, ?_, ?_, (hquiet.mono _).rules, ?_⟩
  · refine List.forall_mem_cons.mpr ⟨?_, h.plain⟩
    exact plainPrefix_openKind (h.plain _ List.mem_cons_self) kind name hplain
  · refine List.forall_mem_cons.mpr ⟨fun _ => ?_, h.unnamed⟩
    have hne := slotIdent_ne_empty (i := c.top.ident) (nextPart_ne_empty c.top.section_ name)
    rwa [← c.ident_openKind kind name] at hne
  · refine List.forall_mem_cons.mpr ⟨fun slot g hslot _ => ?_, hquiet.named⟩
    have hnone := c.slot?_collectionOf kind
    rw [show (c.openKind kind name).top.holder.collection = c.collectionOf kind from rfl,
      hnone] at hslot
    cases hslot
  · refine ⟨idents, ?_, hgroups⟩
    rw [List.subperm_iff_count] at hidents ⊢
    intro i
    have := hidents i
    simp only [List.map_cons, List.count_append, List.count_cons, List.count_nil] at this ⊢
    have hident : (c.openKind kind name).top.holder.ident = (c.openKind kind name).top.ident := rfl
    rw [hident]
    omega

/-! ## Groups that are made -/

theorem mem_assignSlot {slot : Nat} {t : Scope} {ss : List Scope} (h : t ∈ assignSlot slot ss) :
    t ∈ ss ∨ ∃ s, ss.find? Scope.ownsGroup = some s ∧
      t = { s with collection := .own (some slot) } := by
  induction ss with
  | nil => cases h
  | cons s ss ih =>
    rw [assignSlot] at h
    split at h
    · rename_i howns
      rcases List.mem_cons.mp h with rfl | h
      · exact .inr ⟨s, List.find?_cons_of_pos howns, rfl⟩
      · exact .inl (List.mem_cons_of_mem s h)
    · rename_i howns
      rcases List.mem_cons.mp h with rfl | h
      · exact .inl List.mem_cons_self
      · rcases ih h with h | ⟨u, hu, rfl⟩
        · exact .inl (List.mem_cons_of_mem s h)
        · exact .inr ⟨u, by rwa [List.find?_cons_of_neg howns], rfl⟩

/-- Only the scope that owns the group gets the slot. -/
theorem Grouped.mem_holders (hc : c.Grouped) {slot : Nat} {x : Holder}
    (h : x ∈ (assignSlot slot (c.top :: c.outer)).map Scope.holder) :
    x ∈ c.holders ∨ x = { c.groupOwner.holder with collection := .own (some slot) } := by
  obtain ⟨t, ht, rfl⟩ := List.mem_map.mp h
  rcases mem_assignSlot ht with ht | ⟨s, hs, rfl⟩
  · exact .inl (List.mem_map_of_mem ht)
  · rw [hc.exists_owner] at hs
    obtain rfl := Option.some.inj hs
    exact .inr rfl

theorem ident_assignSlot (slot : Nat) (ss : List Scope) :
    ((assignSlot slot ss).map Scope.holder).map Holder.ident =
      (ss.map Scope.holder).map Holder.ident := by
  have hbare := congrArg (List.map Scope.ident) (bare_assignSlot slot ss)
  rw [List.map_map, List.map_map] at hbare ⊢
  exact hbare

/-- The scope that owns the group may have none yet. -/
theorem Grouped.collection_groupOwner (hc : c.Grouped)
    (hnone : ∀ slot, c.groupOwner.collection ≠ .own (some slot)) :
    c.groupOwner.collection = .own none := by
  have howns := List.find?_some hc.exists_owner
  cases hcoll : c.groupOwner.collection with
  | around => simp [Scope.ownsGroup, hcoll] at howns
  | own slot =>
    cases slot with
    | none => rfl
    | some slot => exact absurd hcoll (hnone slot)

/-- An open scope finds its group among those that were there. -/
theorem Grouped.lookup_append_of_holder (hc : c.Grouped) {x : Holder} (hx : x ∈ c.holders)
    {slot : Nat} (hslot : x.collection.slot? = some slot) (later : List (Nat × SpecGroup)) :
    (c.groups ++ later).lookup slot = c.group? slot := by
  have hopen : slot ∈ c.openSlots := by
    obtain ⟨t, ht, rfl⟩ := List.mem_map.mp hx
    exact List.mem_filterMap.mpr ⟨t.collection, List.mem_map_of_mem ht, hslot⟩
  obtain ⟨g, hg⟩ := Option.isSome_iff_exists.mp (mem_groupSlots.mp (hc.openMem slot hopen))
  have hlookup : c.groups.lookup slot = some g := hg
  rw [List.lookup_append, hg, hlookup]
  rfl

theorem Grouped.lookup_newGroup (hc : c.Grouped) :
    (c.groups ++ [(c.nextGroup, c.newGroup)]).lookup c.nextGroup = some c.newGroup := by
  have hfresh : c.groups.lookup c.nextGroup = none := by
    rw [← Option.not_isSome_iff_eq_none]
    exact fun hsome => hc.nextGroup_not_mem (mem_groupSlots.mpr hsome)
  rw [List.lookup_append, hfresh, List.lookup_cons_self, Option.none_or]

/-- The group that is made for a scope is named for the scope. -/
theorem Documented.isGroupName_newGroup (h : Documented stage bundle used hs c)
    (hident : c.groupOwner.ident ≠ "") :
    IsGroupName stage bundle c.groupOwner.ident c.newGroup.name := by
  refine .inr ⟨hident, c.groupOwner.tag, ?_⟩
  rw [← h.stage_eq, ← h.bundle_eq]
  rfl

theorem Documented.activeSlot (hc : c.Grouped) (h : Documented stage bundle used c.holders c) :
    Documented stage bundle used c.activeSlot.2.holders c.activeSlot.2 := by
  rcases c.activeSlot_cases with ⟨slot, -, heq⟩ | ⟨hnone, top, outer, hassign, heq⟩
  · rwa [heq]
  have hholders : c.activeSlot.2.holders =
      (assignSlot c.nextGroup (c.top :: c.outer)).map Scope.holder := by
    rw [heq, hassign]
    rfl
  have hgroups : c.activeSlot.2.groups = c.groups ++ [(c.nextGroup, c.newGroup)] := by rw [heq]
  have howner : c.groupOwner.holder ∈ c.holders := List.mem_map_of_mem c.groupOwner_mem
  rw [hholders]
  refine h.of_holders (by rw [heq]; rfl) c.sinkState_activeSlot (ident_assignSlot _ _)
    (fun x hx => ?_) (fun x hx hcoll => ?_) fun x hx slot g hslot hg => ?_ <;>
    rcases hc.mem_holders hx with hx | rfl
  · exact h.plain x hx
  · exact h.plain c.groupOwner.holder howner
  · exact h.unnamed x hx hcoll
  · cases hcoll
  · rw [group?, hgroups, hc.lookup_append_of_holder hx hslot] at hg
    exact h.named x hx slot g hslot hg
  · obtain rfl : c.nextGroup = slot := Option.some.inj hslot
    rw [group?, hgroups, hc.lookup_newGroup] at hg
    obtain rfl := Option.some.inj hg
    exact h.isGroupName_newGroup (h.unnamed _ howner (hc.collection_groupOwner hnone))

theorem name_of_group?_mapGroup {slot n : Nat} {f : SpecGroup → SpecGroup} {g : SpecGroup}
    (hf : ∀ g, c.group? slot = some g → (f g).name = g.name)
    (hg : (c.mapGroup slot f).group? n = some g) :
    ∃ g', c.group? n = some g' ∧ g.name = g'.name := by
  by_cases hn : n = slot
  · subst hn
    rw [group?_mapGroup] at hg
    obtain ⟨g', hg', rfl⟩ := Option.map_eq_some_iff.mp hg
    exact ⟨g', hg', hf g' hg'⟩
  · rw [group?_mapGroup_of_ne hn] at hg
    exact ⟨g, hg, rfl⟩

theorem Documented.collect (hc : c.Grouped) (h : Documented stage bundle used c.holders c)
    (spec : Specification) :
    Documented stage bundle used (c.collect spec).holders (c.collect spec) := by
  rw [collect_eq]
  exact (h.activeSlot hc).of_names rfl (fun slot g hg => name_of_group?_mapGroup
    (f := fun g => { g with specifications := g.specifications ++ [spec] }) (fun _ _ => rfl) hg) rfl

/-! ## Rules -/

/-- The document of a rule is written for the slot of the rule. -/
theorem Documented.wroteRule (h : Documented stage bundle used hs c) {location : SpecLocation}
    {metadata : GroupMetadata} {spec : Specification} {st : σ × List SinkEvent} {ident title : String}
    (hst : st.2 = c.log ++ [.specification location metadata spec])
    (hstage : location.stage = stage) (hfront : PlainPrefix location.fullPrefix)
    (hname : spec.name = ident ++ " : " ++ title) :
    Documented stage bundle (used ++ [ident]) hs { c with sinkState := st } := by
  obtain ⟨ids, hids, hrules⟩ := h.rules
  have hlog : ({ c with sinkState := st } : Compiler (σ × List SinkEvent)).log =
      c.log ++ [.specification location metadata spec] := hst
  refine ⟨h.stage_eq, h.bundle_eq, h.logged, h.plain, h.unnamed, h.named,
    ⟨ids ++ [ident], hids.append (List.Subperm.refl _), ?_⟩, ?_⟩
  · rw [specLog_of_log hlog]
    exact List.rel_append hrules (.cons ⟨_, _, _, title, rfl, hstage, hfront, hname⟩ .nil)
  · rw [(groupLog_of_log hlog).trans (List.append_nil _)]
    exact (h.mono [ident]).groups

theorem Documented.append (hc : c.Grouped) (h : Documented stage bundle used c.holders c)
    {spec : Specification} {ident title : String} (hname : spec.name = ident ++ " : " ++ title) :
    Documented stage bundle (used ++ [ident]) (c.append spec).2.holders (c.append spec).2 := by
  rcases c.append_cases spec with ⟨-, heq⟩ | ⟨-, st, fault, hwrite, heq⟩
  · rw [heq]
    exact (h.collect hc spec).mono [ident]
  · obtain ⟨sink, hsink⟩ := h.logged
    have hst : st.2 = c.log ++
        [.specification ⟨c.settings.stage, c.top.fullPrefix⟩ (c.singleMetadata spec) spec] := by
      rw [hsink] at hwrite
      exact (congrArg (fun x => x.1.2) hwrite).symm
    have hwrote := h.wroteRule hst h.stage_eq (h.plain _ List.mem_cons_self) hname
    have hgrouped : ({ c with sinkState := st } : Compiler (σ × List SinkEvent)).Grouped :=
      hc.of_eq rfl rfl rfl
    rw [heq]
    cases fault with
    | none => exact hwrote.collect hgrouped spec
    | some f => exact hwrote

theorem name_of_makes {step : Step} {rule : Compiler σ → String → Specification}
    {record : RuleIndex → String → RuleIndex} (h : step.Makes rule record) {c : Compiler σ}
    (hprefixed : c.top.prefixNames = true) (ident : String) :
    ∃ title, (rule c ident).name = ident ++ " : " ++ title := by
  cases h with
  | create applicability requirement title => exact ⟨_, if_pos hprefixed⟩
  | createPresence applicability => exact ⟨_, if_pos hprefixed⟩

theorem Documented.make (hc : c.Grouped) (h : Documented stage bundle used c.holders c)
    {step : Step} {rule : Compiler (σ × List SinkEvent) → String → Specification}
    {record : RuleIndex → String → RuleIndex} (hmakes : step.Makes rule record)
    (hprefixed : c.top.prefixNames = true) :
    Documented stage bundle (used ++ (c.slotUsed step).toList) (c.make rule record).2.holders
      (c.make rule record).2 := by
  have hslot : c.slotUsed step =
      if c.deferred.isNone then some c.generateIdentifier.1 else none := by
    cases hmakes <;> rfl
  rcases c.make_cases rule record with ⟨reason, hdeferred, heq⟩ | ⟨-, -, heq⟩ |
    ⟨hdeferred, -, fault, d, happend, heq⟩
  · rw [heq]
    exact h.mono _
  · have hskipped : Documented stage bundle used c.skipped.holders c.skipped := h.of_eq rfl rfl rfl
    rw [heq]
    exact hskipped.mono _
  · have hprepared : Documented stage bundle used (c.prepared record).holders (c.prepared record) :=
      h.of_eq rfl rfl rfl
    obtain ⟨title, hname⟩ := name_of_makes hmakes (c := c.prepared record) hprefixed
      c.generateIdentifier.1
    have happended := hprepared.append (hc.prepared record) hname
    rw [happend] at happended
    rw [heq, hslot, hdeferred]
    exact happended

/-! ## Closing -/

/-- A scope may close without a document. -/
theorem Documented.tail {x : Holder} (h : Documented stage bundle used (x :: hs) c) :
    Documented stage bundle used hs c := by
  obtain ⟨idents, hidents, hgroups⟩ := h.groups
  refine ⟨h.stage_eq, h.bundle_eq, h.logged, fun y hy => h.plain y (List.mem_cons_of_mem x hy),
    fun y hy => h.unnamed y (List.mem_cons_of_mem x hy),
    fun y hy => h.named y (List.mem_cons_of_mem x hy), h.rules, idents, ?_, hgroups⟩
  refine List.Subperm.trans (List.Sublist.subperm ?_) hidents
  exact (List.Sublist.refl idents).append (List.sublist_cons_self _ _)

/-- The document of a group is written for the slot of its scope. -/
theorem Documented.wroteGroup {x : Holder} (h : Documented stage bundle used (x :: hs) c)
    {g : SpecGroup} {st : σ × List SinkEvent} (hst : st.2 = c.log ++ [.group stage g])
    (hname : IsGroupName stage bundle x.ident g.name) :
    Documented stage bundle used hs { c with sinkState := st } := by
  have hrest := h.tail
  obtain ⟨idents, hidents, hgroups⟩ := h.groups
  have hlog : ({ c with sinkState := st } : Compiler (σ × List SinkEvent)).log =
      c.log ++ [.group stage g] := hst
  refine ⟨h.stage_eq, h.bundle_eq, h.logged, hrest.plain, hrest.unnamed, hrest.named, ?_,
    idents ++ [x.ident], ?_, ?_⟩
  · rw [(specLog_of_log hlog).trans (List.append_nil _)]
    exact h.rules
  · rwa [List.append_assoc, List.singleton_append, ← List.map_cons]
  · rw [groupLog_of_log hlog]
    exact List.rel_append hgroups (.cons ⟨g, rfl, hname⟩ .nil)

theorem name_of_group?_discarded {slot n : Nat} {g : SpecGroup}
    (hg : (c.discarded slot).group? n = some g) :
    ∃ g', c.group? n = some g' ∧ g.name = g'.name := by
  by_cases hn : n = slot
  · subst hn
    rw [group?_discarded] at hg
    cases hg
  · rw [group?_discarded_of_ne hn] at hg
    exact ⟨g, hg, rfl⟩

theorem Documented.closeGroup {s : Scope} (h : Documented stage bundle used (s.holder :: hs) c) :
    Documented stage bundle used hs (c.closeGroup s).2 := by
  rcases c.closeGroup_cases s with ⟨-, notices, heq⟩ | ⟨slot, g, -, -, -, heq⟩ |
    ⟨slot, g, d, hslot, hg, -, rfl, hcase⟩
  · rw [heq]
    exact h.tail.of_eq rfl rfl rfl
  · rw [heq]
    exact h.tail.of_names rfl (fun n g hg => name_of_group?_discarded hg) rfl
  · have hsame : ∀ g', c.group? slot = some g' → (c.settledGroup g).name = g'.name := by
      intro g' hg'
      rw [hg] at hg'
      obtain rfl := Option.some.inj hg'
      exact congrArg GroupMetadata.name (c.metadata_settledGroup g)
    have hsettled : Documented stage bundle used (s.holder :: hs)
        ((c.notify (.closed (label s) s.tag g.specifications.length)).mapGroup slot
          fun _ => c.settledGroup g) :=
      h.of_names rfl (fun n g hg => name_of_group?_mapGroup hsame hg) rfl
    rcases hcase with ⟨-, heq⟩ | ⟨-, st, fault, hwrite, heq⟩
    · rw [heq]
      exact hsettled.tail
    · obtain ⟨sink, hsink⟩ := h.logged
      have hst : st.2 = c.log ++ [.group c.settings.stage (c.settledGroup g)] := by
        rw [hsink] at hwrite
        exact (congrArg (fun x => x.1.2) hwrite).symm
      have hname := h.named _ List.mem_cons_self slot g hslot hg
      rw [heq]
      refine hsettled.wroteGroup (g := c.settledGroup g) ?_ ?_
      · rw [← h.stage_eq]
        exact hst
      · rw [hsame g hg]
        exact hname

theorem Documented.settle {s : Scope} (h : Documented stage bundle used (s.holder :: hs) c) :
    Documented stage bundle used hs (c.settle s) := by
  rcases c.settle_cases s with ⟨-, heq⟩ | ⟨f, -, heq⟩
  · rw [heq]
    exact h.closeGroup
  · rw [heq]
    exact h.closeGroup.of_eq rfl rfl rfl

theorem Documented.closeScope (h : Documented stage bundle used c.holders c) :
    Documented stage bundle used c.closeScope.holders c.closeScope := by
  rcases c.closeScope_cases with ⟨-, heq⟩ | ⟨parent, outer, houter, heq⟩
  · rwa [heq]
  · have hholders : c.holders = c.top.holder :: (c.popped parent outer).holders := by
      rw [holders, houter]
      rfl
    have hpopped : Documented stage bundle used
        (c.top.holder :: (c.popped parent outer).holders) (c.popped parent outer) :=
      (hholders ▸ h).of_eq rfl rfl rfl
    have hstays : ((c.popped parent outer).settle c.top).holders =
        (c.popped parent outer).holders := by
      rcases (c.popped parent outer).settle_cases c.top with ⟨-, hs⟩ | ⟨f, -, hs⟩ <;>
        rcases (c.popped parent outer).closeGroup_cases c.top with ⟨-, notices, hg⟩ |
          ⟨slot, g, -, -, -, hg⟩ | ⟨slot, g, d, -, -, -, rfl, ⟨-, hg⟩ | ⟨-, st, fault, -, hg⟩⟩ <;>
        rw [hs, hg] <;> rfl
    rw [heq, hstays]
    exact hpopped.settle

theorem Documented.closeAll {scopes : List Scope}
    (h : Documented stage bundle used (scopes.map Scope.holder) c) :
    Documented stage bundle used [] (c.closeAll scopes) := by
  induction scopes generalizing c with
  | nil => exact h
  | cons s scopes ih => exact ih h.settle

/-! ## Runs -/

theorem documented_start {settings : CompilerSettings} {catalog : Catalog}
    {template : GroupMetadata} {sink : Sink σ} {st : σ}
    (h : start settings catalog template sink.logged (st, []) = .ok c) :
    Documented settings.stage template.name [] c.holders c := by
  obtain rfl := eq_of_start h
  refine ⟨rfl, rfl, ⟨sink, rfl⟩, ?_, ?_, ?_, ⟨[], .refl _, .nil⟩, [], .refl _, .nil⟩
  · intro x hx
    rw [List.mem_singleton.mp hx]
    exact fun _ hc => by cases hc
  · intro x hx hcoll
    rw [List.mem_singleton.mp hx] at hcoll
    cases hcoll
  · intro x hx slot g hslot hg
    rw [List.mem_singleton.mp hx] at hslot ⊢
    obtain rfl : 0 = slot := Option.some.inj hslot
    obtain rfl : ⟨template, []⟩ = g := Option.some.inj hg
    exact .inl ⟨rfl, rfl⟩

theorem Documented.call {k : Call (σ × List SinkEvent)} (hc : k.before.Grouped)
    (h : Documented stage bundle used k.before.holders k.before) (htaken : k.Taken)
    (hprefixed : k.Prefixed) :
    Documented stage bundle (used ++ (k.before.slotUsed k.step).toList) k.after.holders k.after := by
  rcases Call.cases htaken with ⟨f, hf, -, hafter⟩ | ⟨-, -, hafter⟩ | ⟨reason, quiet, -, -, hafter⟩ |
    ⟨rule, record, hmakes, -, hafter⟩ | ⟨fault, -, -, hafter⟩
  · rw [hafter, holders_mapTop hf]
    have hquiet : Documented stage bundle used k.before.holders (k.before.mapTop f) :=
      h.of_eq rfl rfl rfl
    exact hquiet.mono _
  · rw [hafter]
    have hquiet : Documented stage bundle used k.before.generateIdentifier.2.holders
        k.before.generateIdentifier.2 := h.of_eq rfl rfl rfl
    exact hquiet.mono _
  · rw [hafter]
    have hquiet : Documented stage bundle used (k.before.skip reason quiet).holders
        (k.before.skip reason quiet) := h.of_eq rfl rfl rfl
    exact hquiet.mono _
  · rw [hafter]
    exact h.make hc hmakes (hprefixed rule record hmakes)
  · rw [hafter]
    exact h.mono _

/-- What a run keeps, if the slots that it uses have plain identifiers. -/
theorem Usage.documented {us : List String} (h : Usage c us d) (hc : c.Grouped)
    (hstart : Documented stage bundle [] c.holders c) (hplain : ∀ i ∈ us, PlainText i) :
    d.Grouped ∧ Documented stage bundle us d.holders d := by
  induction h with
  | nil => exact ⟨hc, hstart⟩
  | @call us k _ htaken hprefixed ih =>
    obtain ⟨hgrouped, hdocumented⟩ := ih fun i hi => hplain i (List.mem_append_left _ hi)
    refine ⟨?_, hdocumented.call hgrouped htaken hprefixed⟩
    rcases Call.cases htaken with ⟨f, hf, -, hafter⟩ | ⟨-, -, hafter⟩ |
      ⟨reason, quiet, -, -, hafter⟩ | ⟨rule, record, -, -, hafter⟩ | ⟨fault, -, -, hafter⟩ <;>
      rw [hafter]
    · exact hgrouped.mapTop hf
    · exact hgrouped.generateIdentifier
    · exact hgrouped.skip reason quiet
    · exact hgrouped.make rule record
    · exact hgrouped
  | openKind kind name _ ih =>
    obtain ⟨hgrouped, hdocumented⟩ := ih fun i hi => hplain i (List.mem_append_left _ hi)
    exact ⟨hgrouped.openKind kind name, hdocumented.openKind kind name
      (hplain _ (List.mem_append_right _ (List.mem_singleton_self _)))⟩
  | closeScope _ ih =>
    obtain ⟨hgrouped, hdocumented⟩ := ih hplain
    exact ⟨hgrouped.closeScope, hdocumented.closeScope⟩

/-! ## Places -/

/-- When all scopes are closed, the documents are in different places. -/
theorem Documented.nodup_places (h : Documented stage bundle used [] c) (hnodup : used.Nodup)
    (hplain : ∀ i ∈ used, PlainText i) (hne : ∀ i ∈ used, i ≠ "") (l : Layout) :
    (c.log.map fun e => (e.path l).place).Nodup := by
  obtain ⟨ids, hids, hrules⟩ := h.rules
  obtain ⟨idents, hidents, hgroups⟩ := h.groups
  rw [List.map_nil, List.append_nil] at hidents
  have hallNodup : ("" :: used).Nodup := List.nodup_cons.mpr ⟨fun hmem => hne _ hmem rfl, hnodup⟩
  have hallPlain : ∀ i ∈ "" :: used, PlainText i :=
    List.forall_mem_cons.mpr ⟨(fun _ hx => by cases hx), hplain⟩
  have hsplit := List.filter_append_perm (fun e : SinkEvent => e.isGroup) c.log
  refine (hsplit.map fun e => (e.path l).place).nodup_iff.mp ?_
  rw [List.map_append, List.nodup_append]
  refine ⟨?_, ?_, ?_⟩
  · refine nodup_map_of_forall₂ hgroups (nodup_of_subperm hidents hallNodup) ?_
    rintro i hi j hj _ _ ⟨g, rfl, hg⟩ ⟨g', rfl, hg'⟩ hplace
    exact hg.ident_eq hg' (hallPlain i (hidents.subset hi)) (hallPlain j (hidents.subset hj))
      (Layout.groupPath_injective hplace)
  · refine nodup_map_of_forall₂ hrules (nodup_of_subperm hids hnodup) ?_
    rintro i hi j hj _ _ ⟨location, metadata, spec, title, rfl, hstage, hfront, hname⟩
      ⟨location', metadata', spec', title', rfl, hstage', hfront', hname'⟩ hplace
    simp only [SinkEvent.path, hname, hname'] at hplace
    exact Layout.specificationPath_injective (hstage.trans hstage'.symm) (hplain i (hids.subset hi))
      (hplain j (hids.subset hj)) (hne i (hids.subset hi)) (hne j (hids.subset hj)) hfront hfront'
      hplace
  · intro x hx y hy
    obtain ⟨e, he, rfl⟩ := List.mem_map.mp hx
    obtain ⟨e', he', rfl⟩ := List.mem_map.mp hy
    obtain ⟨-, -, g, rfl, -⟩ := exists_of_mem_right hgroups he
    obtain ⟨-, -, location, metadata, spec, title, rfl, -, hfront, -⟩ :=
      exists_of_mem_right hrules he'
    exact (Layout.specificationPath_ne_groupPath hfront).symm

/-- **No document is written over another.** In a run whose slots have different identifiers of
plain characters, and whose rules have their identifiers in their names, the documents that the
sink is asked for have different paths, and the paths lead to different places. This is so for
rules and for scopes, the outermost one included, whatever titles, tags, the bundle and its folder
are called, however rules and scopes get files, and also when the sink refuses some of them. -/
theorem documents_have_places {σ : Type} (settings : CompilerSettings) (catalog : Catalog)
    (template : GroupMetadata) (sink : Sink σ) (st : σ) (c : Compiler (σ × List SinkEvent))
    (hc : start settings catalog template sink.logged (st, []) = .ok c) (strict : Bool)
    (steps : List Step)
    (hprefixed : ∀ k ∈ calls c steps (takeSteps strict c steps).1, k.Prefixed)
    (hnodup : (usedSlots c steps (takeSteps strict c steps).1).Nodup)
    (hplain : ∀ i ∈ usedSlots c steps (takeSteps strict c steps).1, PlainText i) (l : Layout) :
    ((takeSteps strict c steps).2.1.finish.2.log.map (SinkEvent.path l)).Nodup ∧
      ((takeSteps strict c steps).2.1.finish.2.log.map fun e => (e.path l).place).Nodup := by
  have husage := usage_takeSteps strict c steps hprefixed
  obtain ⟨-, hdocumented⟩ := husage.documented (grouped_start hc) (documented_start hc) hplain
  have hclosed : Documented settings.stage template.name
      (usedSlots c steps (takeSteps strict c steps).1) []
      (takeSteps strict c steps).2.1.finish.2 := hdocumented.closeAll
  have hplaces := hclosed.nodup_places hnodup hplain husage.ne_empty l
  refine ⟨?_, hplaces⟩
  have hmap : ((takeSteps strict c steps).2.1.finish.2.log.map fun e => (e.path l).place) =
      ((takeSteps strict c steps).2.1.finish.2.log.map (SinkEvent.path l)).map Path.place := by
    rw [List.map_map]
    rfl
  rw [hmap] at hplaces
  exact hplaces.of_map

/-- Two sections with one tag, in which only slots tell rules and groups apart, and a rule around
them with the same title; titles and tags have characters that do not stand in names of files. -/
def alikeSteps : List Step :=
  let doors : FacetGroup := ⟨"Door", "", [.entity (.exact "IFCDOOR") none], []⟩
  let rule : Step := .create doors (.attributeDefined "Name") (some "../Doors: all? ")
  [.setTag "a/b:. ", .scope .sectional "" [rule, .scope .sectional "" [rule]],
    .scope .sectional "B-1" [rule, rule], rule]

theorem documents_of_alikeSteps :
    ∃ c : Compiler (Unit × List SinkEvent),
      start ((CompilerSettings.of .stage3 .coreOnly).partitioned true true) default
        (.named "3_02 a-b. ") Sink.null.logged ((), []) = .ok c ∧
        usedSlots c alikeSteps (takeSteps false c alikeSteps).1 =
          ["01", "01_01", "01_02", "01_02_01", "B-1", "B-1_01", "B-1_02", "03"] ∧
        (∀ i ∈ ["01", "01_01", "01_02", "01_02_01", "B-1", "B-1_01", "B-1_02", "03"],
          PlainText i) ∧
        (takeSteps false c alikeSteps).2.1.finish.2.log.length = 9 ∧
        ((takeSteps false c alikeSteps).2.1.finish.2.log.map fun e =>
          (e.path ⟨⟨"out/.."⟩⟩).place).Nodup := by
  obtain ⟨c, hc⟩ : ∃ c : Compiler (Unit × List SinkEvent),
      start ((CompilerSettings.of .stage3 .coreOnly).partitioned true true) default
        (.named "3_02 a-b. ") Sink.null.logged ((), []) = .ok c := ⟨_, rfl⟩
  have hused : usedSlots c alikeSteps (takeSteps false c alikeSteps).1 =
      ["01", "01_01", "01_02", "01_02_01", "B-1", "B-1_01", "B-1_02", "03"] := by
    rw [eq_of_start hc]
    decide +kernel
  have hplain : ∀ i ∈ ["01", "01_01", "01_02", "01_02_01", "B-1", "B-1_01", "B-1_02", "03"],
      PlainText i := by
    decide +kernel
  have hprefixed : (calls c alikeSteps (takeSteps false c alikeSteps).1).all
      (·.before.top.prefixNames) = true := by
    rw [eq_of_start hc]
    decide +kernel
  refine ⟨c, hc, hused, hplain, by rw [eq_of_start hc]; decide +kernel, ?_⟩
  exact (documents_have_places ((CompilerSettings.of .stage3 .coreOnly).partitioned true true)
    default (.named "3_02 a-b. ") Sink.null () c hc false alikeSteps
    (fun k hk _ _ _ => List.all_eq_true.mp hprefixed k hk) (hused ▸ by decide +kernel)
    (hused ▸ hplain) ⟨⟨"out/.."⟩⟩).2

end Compiler

end Eir
