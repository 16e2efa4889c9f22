import Eir.Proofs.Compiler.Delivery
import Eir.Proofs.Compiler.Settling
import Eir.Proofs.Schema.Inference
import Eir.Proofs.Schema.Loading

/-!
# The dialects of all rules

What every rule has when it is made, and what merging hands on, all rules of a run
have: those that are collected and those that the sink was asked for, whatever the
sink does (`Throughout`). A list of dialects is inferred for every rule, and merging
unites such lists, so each rule has some dialects, in order and each once.
-/

namespace Eir

/-- The rules that are in what the sink was asked for. -/
def SinkEvent.rules : SinkEvent → List Specification
  | specification _ _ spec => [spec]
  | group _ g => g.specifications

theorem Specification.listed_mergeAll {cs : List Specification} {s : Specification}
    (h : mergeAll cs = some s) (hcs : ∀ c ∈ cs, Dialect.Listed c.dialects) :
    Dialect.Listed s.dialects := by
  have hreplaces := replaces_of_mergeAll h
  obtain ⟨c, hc, -⟩ := hreplaces.selects
  obtain ⟨d, hd⟩ := List.exists_mem_of_ne_nil _ (hcs c hc).ne_nil
  exact ⟨List.ne_nil_of_mem ((hreplaces.mem_dialects d).mpr ⟨c, hc, hd⟩),
    hreplaces.dialects_sublist⟩

namespace Compiler

variable {σ : Type} {P : Specification → Prop} {c d : Compiler (σ × List SinkEvent)}

/-- Rules have the property when they are made, and when rules with it are merged into them. -/
structure Inherited (τ : Type) (P : Specification → Prop) : Prop where
  made : ∀ {step : Step} {rule : Compiler τ → String → Specification}
    {record : RuleIndex → String → RuleIndex}, step.Makes rule record →
      ∀ c identifier, P (rule c identifier)
  merged : ∀ {cs s}, Specification.mergeAll cs = some s → (∀ c ∈ cs, P c) → P s

theorem listed_of_makes {τ : Type} {step : Step} {rule : Compiler τ → String → Specification}
    {record : RuleIndex → String → RuleIndex} (hmakes : step.Makes rule record) (c : Compiler τ)
    (identifier : String) : Dialect.Listed (rule c identifier).dialects := by
  cases hmakes with
  | create a => exact c.catalog.listed_inferDialects c.settings.supported c.settings.target a
  | createPresence a =>
    exact c.catalog.listed_inferDialects c.settings.supported c.settings.target a

theorem inherited_listed (τ : Type) : Inherited τ fun s => Dialect.Listed s.dialects :=
  ⟨listed_of_makes, Specification.listed_mergeAll⟩

/-! ## The invariant -/

/-- All rules that are collected have the property, and all that the sink was asked for. -/
structure Throughout (P : Specification → Prop) (c : Compiler (σ × List SinkEvent)) : Prop where
  logged : ∃ sink : Sink σ, c.sink = sink.logged
  groups : ∀ p ∈ c.groups, ∀ s ∈ p.2.specifications, P s
  log : ∀ e ∈ c.log, ∀ s ∈ e.rules, P s

theorem throughout_start {settings : CompilerSettings} {catalog : Catalog}
    {template : GroupMetadata} {sink : Sink σ} {st : σ}
    (h : start settings catalog template sink.logged (st, []) = .ok c) : Throughout P c := by
  obtain rfl := eq_of_start h
  refine ⟨⟨sink, rfl⟩, fun p hp s hs => ?_, fun e he => absurd he List.not_mem_nil⟩
  obtain rfl := List.mem_singleton.mp hp
  cases hs

theorem Throughout.of_groups (h : Throughout P c) (hsink : d.sink = c.sink)
    (hgroups : ∀ p ∈ d.groups, ∀ s ∈ p.2.specifications, P s) (hlog : d.log = c.log) :
    Throughout P d := ⟨hsink ▸ h.logged, hgroups, hlog ▸ h.log⟩

theorem Throughout.of_eq (h : Throughout P c) (hsink : d.sink = c.sink)
    (hgroups : d.groups = c.groups) (hlog : d.log = c.log) : Throughout P d :=
  h.of_groups hsink (hgroups ▸ h.groups) hlog

/-- One more thing that the sink was asked for. -/
theorem Throughout.snoc_log {e : SinkEvent} (h : Throughout P c) (hsink : d.sink = c.sink)
    (hgroups : d.groups = c.groups) (hlog : d.log = c.log ++ [e]) (he : ∀ s ∈ e.rules, P s) :
    Throughout P d := by
  refine ⟨hsink ▸ h.logged, hgroups ▸ h.groups, ?_⟩
  rw [hlog]
  exact List.forall_mem_append.mpr ⟨h.log, List.forall_mem_singleton.mpr he⟩

theorem Throughout.mapGroup {slot : Nat} {f : SpecGroup → SpecGroup} (h : Throughout P c)
    (hf : ∀ p ∈ c.groups, ∀ s ∈ (f p.2).specifications, P s) : Throughout P (c.mapGroup slot f) := by
  refine h.of_groups rfl (fun p hp => ?_) rfl
  obtain ⟨q, hq, rfl⟩ := mem_mapGroup.mp hp
  split
  · exact hf q hq
  · exact h.groups q hq

theorem Throughout.activeSlot (h : Throughout P c) : Throughout P c.activeSlot.2 := by
  rcases c.activeSlot_cases with ⟨slot, -, heq⟩ | ⟨-, top, outer, -, heq⟩
  · rwa [heq]
  · rw [heq]
    refine h.of_groups rfl (List.forall_mem_append.mpr ⟨h.groups, ?_⟩) rfl
    exact List.forall_mem_singleton.mpr fun s hs => absurd hs List.not_mem_nil

theorem Throughout.collect {spec : Specification} (h : Throughout P c) (hspec : P spec) :
    Throughout P (c.collect spec) := by
  rw [collect_eq]
  exact h.activeSlot.mapGroup fun p hp =>
    List.forall_mem_append.mpr ⟨h.activeSlot.groups p hp, List.forall_mem_singleton.mpr hspec⟩

theorem Throughout.append {spec : Specification} (h : Throughout P c) (hspec : P spec) :
    Throughout P (c.append spec).2 := by
  rcases c.append_cases spec with ⟨-, heq⟩ | ⟨-, st, fault, hwrite, heq⟩
  · rw [heq]
    exact h.collect hspec
  · obtain ⟨sink, hsink⟩ := h.logged
    -- A rule that the sink refuses is in the log all the same.
    have hlog : st.2 = c.log ++
        [.specification ⟨c.settings.stage, c.top.fullPrefix⟩ (c.singleMetadata spec) spec] := by
      rw [hsink] at hwrite
      exact (congrArg (fun x => x.1.2) hwrite).symm
    have hasked : Throughout P { c with sinkState := st } :=
      h.snoc_log rfl rfl hlog (List.forall_mem_singleton.mpr hspec)
    rw [heq]
    cases fault with
    | none => exact hasked.collect hspec
    | some f => exact hasked

section Runs

variable (hP : Inherited (σ × List SinkEvent) P)
include hP

theorem Throughout.make {step : Step}
    {rule : Compiler (σ × List SinkEvent) → String → Specification}
    {record : RuleIndex → String → RuleIndex} (h : Throughout P c)
    (hmakes : step.Makes rule record) : Throughout P (c.make rule record).2 := by
  rcases c.make_cases rule record with ⟨reason, -, heq⟩ | ⟨-, -, heq⟩ |
    ⟨-, -, fault, d, happend, heq⟩
  · rwa [heq]
  · rw [heq]
    exact h.of_eq rfl rfl rfl
  · have hprepared : Throughout P (c.prepared record) := h.of_eq rfl rfl rfl
    have happended := hprepared.append (hP.made hmakes (c.prepared record) c.generateIdentifier.1)
    rw [happend] at happended
    rw [heq]
    exact happended

theorem forall_mem_settledGroup (c : Compiler (σ × List SinkEvent)) {g : SpecGroup}
    (h : ∀ s ∈ g.specifications, P s) : ∀ s ∈ (c.settledGroup g).specifications, P s := by
  rw [settledGroup]
  split
  · exact Consolidation.forall_mem_consolidate hP.merged h
  · exact h

theorem Throughout.closeGroup (h : Throughout P c) (s : Scope) :
    Throughout P (c.closeGroup s).2 := by
  rcases c.closeGroup_cases s with ⟨-, notices, heq⟩ | ⟨slot, g, -, -, -, heq⟩ |
    ⟨slot, g, d, -, hg, -, rfl, hcase⟩
  · rw [heq]
    exact h.of_eq rfl rfl rfl
  · rw [heq]
    exact h.of_groups rfl (fun p hp => h.groups p (List.mem_of_mem_filter hp)) rfl
  · have hgroup := forall_mem_settledGroup hP c (h.groups _ (mem_of_lookup hg))
    let notified := c.notify (.closed (label s) s.tag g.specifications.length)
    have hnotified : Throughout P notified := h.of_eq rfl rfl rfl
    have hsettled : Throughout P (notified.mapGroup slot fun _ => c.settledGroup g) :=
      hnotified.mapGroup fun _ _ => hgroup
    rcases hcase with ⟨-, heq⟩ | ⟨-, st, fault, hwrite, heq⟩
    · rw [heq]
      exact hsettled
    · obtain ⟨sink, hsink⟩ := h.logged
      have hlog : st.2 = c.log ++ [.group c.settings.stage (c.settledGroup g)] := by
        rw [hsink] at hwrite
        exact (congrArg (fun x => x.1.2) hwrite).symm
      rw [heq]
      exact hsettled.snoc_log rfl rfl hlog hgroup

theorem Throughout.settle (h : Throughout P c) (s : Scope) : Throughout P (c.settle s) := by
  rcases c.settle_cases s with ⟨-, heq⟩ | ⟨f, -, heq⟩
  · rw [heq]
    exact h.closeGroup hP s
  · rw [heq]
    exact (h.closeGroup hP s).of_eq rfl rfl rfl

theorem Throughout.closeScope (h : Throughout P c) : Throughout P c.closeScope := by
  rcases c.closeScope_cases with ⟨-, heq⟩ | ⟨parent, outer, -, heq⟩
  · rwa [heq]
  · have hpopped : Throughout P (c.popped parent outer) := h.of_eq rfl rfl rfl
    rw [heq]
    exact hpopped.settle hP c.top

theorem Throughout.closeAll (h : Throughout P c) (scopes : List Scope) :
    Throughout P (c.closeAll scopes) := by
  induction scopes generalizing c with
  | nil => exact h
  | cons s scopes ih => exact ih (h.settle hP s)

/-! ## Runs -/

theorem Throughout.call {k : Call (σ × List SinkEvent)} (h : Throughout P k.before)
    (htaken : k.Taken) : Throughout P k.after := by
  rcases Call.cases htaken with ⟨f, -, -, hafter⟩ | ⟨-, -, hafter⟩ | ⟨reason, quiet, -, -, hafter⟩ |
    ⟨rule, record, hmakes, -, hafter⟩ | ⟨fault, -, -, hafter⟩ <;> rw [hafter]
  · exact h.of_eq rfl rfl rfl
  · exact h.of_eq rfl rfl rfl
  · exact h.of_eq rfl rfl rfl
  · exact h.make hP hmakes
  · exact h

theorem Trace.throughout {ks : List (Call (σ × List SinkEvent))} (htrace : Trace c ks d)
    (h : Throughout P c) : Throughout P d := by
  induction htrace with
  | nil => exact h
  | call _ htaken ih => exact ih.call hP htaken
  | openKind kind name _ ih => exact ih.of_eq rfl rfl rfl
  | closeScope _ ih => exact ih.closeScope hP

/-- What is inherited all rules of a finished run have. -/
theorem Throughout.finish (h : Throughout P c) (strict : Bool) (steps : List Step) :
    Throughout P (takeSteps strict c steps).2.1.finish.2 :=
  ((trace_takeSteps strict c steps).throughout hP h).closeAll hP _

end Runs

/-- **The dialects of a rule are those that its types have in common.** What is inferred are, in
order and each once, the supported dialects that have all known types of a selection, each as such
or as its type object, and just the target if no type is known or no dialect has them all. It does
not depend on the order, the repetition or the case of the names, nor on unknown ones, and more
known types have fewer dialects in common. So every rule that a compilation returns, or that the
sink was asked for, has some dialects, in order and each once, whether or not rules were merged into
it. -/
theorem dialects_are_shared (settings : CompilerSettings) (catalog : Catalog) :
    (∀ g, Dialect.Listed (catalog.inferDialects settings.supported settings.target g) ∧
      ((∃ t, catalog.Selected g t) → (∃ d, catalog.Common settings.supported g d) →
        ∀ d, d ∈ catalog.inferDialects settings.supported settings.target g ↔
          catalog.Common settings.supported g d) ∧
      (((∃ t, catalog.Selected g t) → ¬∃ d, catalog.Common settings.supported g d) →
        catalog.inferDialects settings.supported settings.target g = [settings.target])) ∧
    (∀ g g', catalog.KnownIn g g' →
      (∀ d, catalog.Common settings.supported g' d → catalog.Common settings.supported g d) ∧
      (catalog.KnownIn g' g →
        catalog.inferDialects settings.supported settings.target g =
          catalog.inferDialects settings.supported settings.target g')) ∧
    ∀ (σ : Type) (template : GroupMetadata) (sink : Sink σ) (st : σ)
      (c : Compiler (σ × List SinkEvent)),
      start settings catalog template sink.logged (st, []) = .ok c →
        ∀ (strict : Bool) (steps : List Step),
          (∀ e ∈ (takeSteps strict c steps).2.1.finish.2.log, ∀ s ∈ e.rules,
            Dialect.Listed s.dialects) ∧
          ∀ rules, (takeSteps strict c steps).2.1.finish.1 = .ok rules →
            ∀ g ∈ rules.groups, ∀ s ∈ g.specifications, Dialect.Listed s.dialects := by
  refine ⟨fun g => ⟨catalog.listed_inferDialects .., fun hknown hcommon d =>
    Catalog.mem_inferDialects hknown hcommon, Catalog.inferDialects_eq_target⟩,
    fun g g' h => ⟨fun d => h.common, Catalog.inferDialects_congr h⟩, ?_⟩
  intro σ template sink st c hc strict steps
  have hfinish := (throughout_start hc).finish (inherited_listed _) strict steps
  refine ⟨hfinish.log, fun rules hrules => ?_⟩
  obtain rfl := eq_of_finish hrules
  exact List.forall_mem_map.mpr hfinish.groups

/-- Ducts, of which IFC2X3 has just the types. -/
def ductRows : List CatalogRow :=
  [⟨"IfcDuct", none, false, none, [.ifc4], [], none⟩,
    ⟨"IfcDuctType", none, false, none, [.ifc2x3, .ifc4], [], none⟩]

def ducts : FacetGroup := ⟨"Duct", "", [.entity (.list ["IFCDUCT", "IfcNothing"]) none], []⟩

/-- Two rules about ducts, which are merged. -/
def ductSteps : List Step :=
  [.create ducts (.attributeDefined "Name") none, .create ducts (.attributeDefined "Tag") none]

def ductSettings : CompilerSettings :=
  { CompilerSettings.of .stage3 .coreOnly with
    supported := .ofList [.ifc2x3, .ifc4], target := .ifc4, groupByApplicability := true }

theorem dialects_of_ducts : ∃ catalog c, Catalog.ofRows ductRows = .ok catalog ∧
    .ifc2x3 ∈ catalog.inferDialects ductSettings.supported ductSettings.target ducts ∧
    start ductSettings catalog (.named "Bundle") Sink.null.logged ((), []) = .ok c ∧
    ∀ rules, (takeSteps true c ductSteps).2.1.finish.1 = .ok rules →
      ∀ g ∈ rules.groups, ∀ s ∈ g.specifications, Dialect.Listed s.dialects := by
  obtain ⟨catalog, hc⟩ := Catalog.exists_ofRows_iff.mpr
    (show Catalog.WellFormed ductRows by decide +kernel)
  obtain ⟨hinferred, -, hall⟩ := dialects_are_shared ductSettings catalog
  obtain ⟨-, hmem, -⟩ := hinferred ducts
  obtain ⟨duct, hduct⟩ := Catalog.exists_nodeOf hc ductRows[0]
  obtain ⟨type, htype⟩ := Catalog.exists_nodeOf hc ductRows[1]
  have hfound : catalog.find? "IFCDUCT" = some duct :=
    (Catalog.find?_eq_some_iff hc).mpr ⟨_, List.getElem_mem _, by decide +kernel, hduct⟩
  have hunknown : catalog.find? "IfcNothing" = none := by
    refine Option.eq_none_iff_forall_ne_some.mpr fun t ht => ?_
    obtain ⟨row, hrow, hname, -⟩ := (Catalog.find?_eq_some_iff hc).mp ht
    have hnone : ∀ row ∈ ductRows, ¬SameName row.name "IfcNothing" := by decide +kernel
    exact hnone row hrow hname
  have hcommon : catalog.Common ductSettings.supported ducts .ifc2x3 := by
    refine ⟨by decide, fun t ht => .inr ⟨type, ?_, ?_⟩⟩
    · obtain ⟨name, hname, ht⟩ := ht
      obtain rfl : t = duct := by
        rcases List.mem_pair.mp hname with rfl | rfl
        · exact Option.some.inj (ht.symm.trans hfound)
        · rw [hunknown] at ht
          cases ht
      rw [EntityType.upperName, hduct.name_eq]
      exact (Catalog.find?_eq_some_iff hc).mpr ⟨_, List.getElem_mem _, by decide +kernel, htype⟩
    · rw [show type.dialects = .ofList [.ifc2x3, .ifc4] from congrArg _ htype.node]
      decide
  have hselected : catalog.Selected ducts duct := ⟨"IFCDUCT", List.mem_cons_self, hfound⟩
  exact ⟨catalog, _, hc, (hmem ⟨duct, hselected⟩ ⟨_, hcommon⟩ _).mpr hcommon, rfl,
    (hall Unit (.named "Bundle") .null () _ rfl true ductSteps).2⟩

end Compiler

end Eir
