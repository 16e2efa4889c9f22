import Eir.Proofs.Compiler.Offers

/-!
# One group for all rules

Where scopes have no files of their own, all rules are collected in the group of
the outermost scope (`OneGroup`). So what a run gives in the end are the offers
that apply, in order (`finish_offers`).
-/

namespace Eir

namespace Compiler

variable {σ : Type} {c d : Compiler σ}

/-- All rules are collected in the group of the outermost scope. -/
structure OneGroup (c : Compiler σ) : Prop where
  grouped : c.Grouped
  perScope : c.settings.oneFilePerScope = false
  around : .own none ∉ c.collections
  length : c.groups.length ≤ 1

theorem OneGroup.of_eq (h : c.OneGroup) (hgrouped : d.Grouped) (hsetup : d.setup = c.setup)
    (hcollections : d.collections = c.collections) (hlength : d.groups.length ≤ c.groups.length) :
    d.OneGroup :=
  ⟨hgrouped, settings_of_setup hsetup ▸ h.perScope, hcollections ▸ h.around,
    Nat.le_trans hlength h.length⟩

theorem OneGroup.activeSlot (h : c.OneGroup) : c.activeSlot.2 = c := by
  rcases c.activeSlot_cases with ⟨slot, -, heq⟩ | ⟨hnone, -⟩
  · rw [heq]
  · have howns : c.groupOwner.ownsGroup = true := List.find?_some h.grouped.exists_owner
    have hmem : c.groupOwner.collection ∈ c.collections := List.mem_map_of_mem c.groupOwner_mem
    cases hcoll : c.groupOwner.collection with
    | around => simp [Scope.ownsGroup, hcoll] at howns
    | own slot =>
      cases slot with
      | none => exact absurd (hcoll ▸ hmem) h.around
      | some slot => exact absurd hcoll (hnone slot)

theorem OneGroup.collect (h : c.OneGroup) (spec : Specification) : (c.collect spec).OneGroup := by
  have hgrouped := h.grouped.collect spec
  rw [collect_eq, h.activeSlot] at hgrouped ⊢
  exact h.of_eq hgrouped rfl rfl (Nat.le_of_eq (List.length_map _))

theorem OneGroup.append (h : c.OneGroup) (spec : Specification) : (c.append spec).2.OneGroup := by
  rcases c.append_cases spec with ⟨-, heq⟩ | ⟨-, st, fault, -, heq⟩
  · rw [heq]
    exact h.collect spec
  · have hhanded : ({ c with sinkState := st } : Compiler σ).OneGroup :=
      h.of_eq (h.grouped.of_eq rfl rfl rfl) rfl rfl (Nat.le_refl _)
    rw [heq]
    cases fault with
    | none => exact hhanded.collect spec
    | some f => exact hhanded

theorem OneGroup.make (h : c.OneGroup) (rule : Compiler σ → String → Specification)
    (record : RuleIndex → String → RuleIndex) : (c.make rule record).2.OneGroup := by
  rcases c.make_cases rule record with
    ⟨reason, -, heq⟩ | ⟨-, -, heq⟩ | ⟨-, -, fault, d, happend, heq⟩
  · rwa [heq]
  · rw [heq]
    exact h.of_eq (h.grouped.skip _ _) rfl rfl (Nat.le_refl _)
  · have hprepared : (c.prepared record).OneGroup :=
      h.of_eq (h.grouped.prepared record) rfl rfl (Nat.le_refl _)
    have happended := hprepared.append (rule (c.prepared record) c.generateIdentifier.1)
    rw [happend] at happended
    rwa [heq]

theorem OneGroup.openKind (h : c.OneGroup) (kind : ScopeKind) (name : String) :
    (c.openKind kind name).OneGroup := by
  have hcollection : c.collectionOf kind = .around := by
    cases kind with
    | sectional => rw [collectionOf, h.perScope]; rfl
    | numbering => rfl
  refine ⟨h.grouped.openKind kind name, h.perScope, ?_, h.length⟩
  have hcollections : (c.openKind kind name).collections = c.collectionOf kind :: c.collections :=
    rfl
  rw [hcollections, hcollection]
  exact fun hmem => (List.mem_cons.mp hmem).elim (by simp) h.around

theorem collections_settle (c : Compiler σ) (s : Scope) :
    (c.settle s).collections = c.collections := by
  have hclose : (c.closeGroup s).2.collections = c.collections := by
    rcases c.closeGroup_cases s with ⟨-, notices, h⟩ | ⟨slot, g, -, -, -, h⟩ |
      ⟨slot, g, d, -, -, -, rfl, ⟨-, h⟩ | ⟨-, st, fault, -, h⟩⟩ <;>
      rw [h] <;> rfl
  rcases c.settle_cases s with ⟨-, h⟩ | ⟨f, -, h⟩ <;> rw [h] <;> exact hclose

/-- No group is made when a scope closes. -/
theorem length_groups_settle (c : Compiler σ) (s : Scope) :
    (c.settle s).groups.length ≤ c.groups.length := by
  have hclose : (c.closeGroup s).2.groups.length ≤ c.groups.length := by
    rcases c.closeGroup_cases s with ⟨-, notices, h⟩ | ⟨slot, g, -, -, -, h⟩ |
      ⟨slot, g, d, -, -, -, rfl, ⟨-, h⟩ | ⟨-, st, fault, -, h⟩⟩ <;> rw [h]
    · exact List.length_filter_le ..
    · exact Nat.le_of_eq (List.length_map _)
    · exact Nat.le_of_eq (List.length_map _)
  rcases c.settle_cases s with ⟨-, h⟩ | ⟨f, -, h⟩ <;> rw [h] <;> exact hclose

theorem OneGroup.closeScope (h : c.OneGroup) : c.closeScope.OneGroup := by
  rcases c.closeScope_cases with ⟨-, heq⟩ | ⟨parent, outer, houter, heq⟩
  · rwa [heq]
  · have hlength : c.closeScope.groups.length ≤ c.groups.length := by
      rw [heq]
      exact length_groups_settle (c.popped parent outer) c.top
    have hcollections : c.closeScope.collections = (c.popped parent outer).collections := by
      rw [heq, collections_settle]
    refine ⟨h.grouped.closeScope, settings_of_setup c.setup_closeScope ▸ h.perScope, ?_,
      Nat.le_trans hlength h.length⟩
    rw [hcollections]
    intro hmem
    have houtside : c.collections = c.top.collection :: (c.popped parent outer).collections := by
      rw [collections, houter]
      rfl
    exact h.around (houtside ▸ List.mem_cons_of_mem _ hmem)

theorem tracks_oneGroup : Tracks (σ := σ) fun c _ d => c.OneGroup → d.OneGroup where
  refl _ := id
  trans h h' hc := h' (h hc)
  mapTop c _ _ hf h := h.of_eq (h.grouped.mapTop hf) rfl (by
    simp only [collections, Compiler.mapTop, List.map_cons, Step.collection_setter hf])
    (Nat.le_refl _)
  generateIdentifier _ h := h.of_eq h.grouped.generateIdentifier rfl rfl (Nat.le_refl _)
  skip _ reason quiet h := h.of_eq (h.grouped.skip reason quiet) rfl rfl (Nat.le_refl _)
  make _ _ record _ h := h.make _ record
  openKind _ kind name h := h.openKind kind name
  closeScope _ h := h.closeScope

theorem length_groups_finish (c : Compiler σ) : c.finish.2.groups.length ≤ c.groups.length := by
  have hall (scopes : List Scope) (e : Compiler σ) :
      (e.closeAll scopes).groups.length ≤ e.groups.length := by
    induction scopes generalizing e with
    | nil => exact Nat.le_refl _
    | cons s scopes ih => exact Nat.le_trans (ih (e.settle s)) (e.length_groups_settle s)
  exact hall (c.top :: c.outer) c

end Compiler

/-- Rules that were dealt out to one group at most are its rules. -/
theorem DealtOut.flatMap_eq {rules : List Specification} {groups : List SpecGroup}
    (h : DealtOut rules groups) (hone : groups.length ≤ 1) :
    groups.flatMap (·.specifications) = rules := by
  match groups, hone with
  | [], _ => exact h.perm.nil_eq
  | [g], _ =>
    have hperm := h.perm
    rw [List.flatMap_singleton] at hperm ⊢
    exact (h.sublist g (List.mem_singleton_self g)).eq_of_length hperm.length_eq

/-- All rules that were compiled, group by group. -/
def CompiledRules.specifications (rules : CompiledRules) : List Specification :=
  rules.groups.flatMap (·.specifications)

namespace Compiler

variable {σ : Type} {c : Compiler σ} {settings : CompilerSettings} {catalog : Catalog}
  {template : GroupMetadata} {sink : Sink σ} {st : σ}

theorem oneGroup_start (h : start settings catalog template sink st = .ok c)
    (hscope : settings.oneFilePerScope = false) : c.OneGroup := by
  have hgrouped := grouped_start h
  obtain rfl := eq_of_start h
  exact ⟨hgrouped, hscope, (by simp [collections, Scope.root]), Nat.le_refl 1⟩

/-- What a run gives in the end are the offers that apply, if all rules are in one group and stay
as they are. -/
theorem finish_offers (h : start settings catalog template sink st = .ok c) (hsink : sink.Reliable)
    (hscope : settings.oneFilePerScope = false) (hgroup : settings.groupByApplicability = false)
    (strict : Bool) (steps : List Step) :
    ∃ rules, (takeSteps strict c steps).2.1.finish.1 = .ok rules ∧
      rules.specifications =
        ((offers strict c steps).filter (·.applies settings)).map (·.spec) := by
  obtain ⟨rules, hfinish, hgroups, -⟩ := finish_takeSteps h hsink strict steps
  have htrace := trace_takeSteps strict c steps
  have hdealt := dealtOut_finish h hsink hgroup strict steps
  have hone := htrace.tracks tracks_oneGroup (oneGroup_start h hscope)
  have hlength := Nat.le_trans (length_groups_finish _) hone.length
  refine ⟨rules, hfinish, ?_⟩
  rw [CompiledRules.specifications, hgroups, hdealt.flatMap_eq (by rwa [List.length_map]),
    ← emissions_calls, spec_emissions_trace htrace (sound_start h hsink), (fresh_start h).1]
  rfl

end Compiler

end Eir
