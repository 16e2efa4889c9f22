import Eir.Proofs.Compiler.Calls
import Eir.Proofs.Compiler.Groups
import Eir.Proofs.Compiler.Settling
import Eir.Proofs.Ids.Acceptance
import Eir.Proofs.Schema.Inference

/-!
# Compilations make rules that can be accepted

If each rule of a program selects its objects by some facet and has a title
(`Step.Selective`), then all that a run collects and all that it hands to the sink can
be accepted: there is always a dialect for a rule, merged rules keep a dialect and what
they select, and groups have titles. `Accepting` is the invariant. The state of the
sink has a property `Q` in it that such rules and groups keep, also where the sink
refuses them.
-/

namespace Eir

/-! ## Rules and groups -/

theorem Titled.append_left {name : String} (h : Titled name) (rest : String) :
    Titled (name ++ rest) := by
  obtain ⟨c, hc, hblank⟩ := h
  exact ⟨c, by rw [String.toList_append]; exact List.mem_append_left _ hc, hblank⟩

theorem Titled.append_right {name : String} (h : Titled name) (before : String) :
    Titled (before ++ name) := by
  obtain ⟨c, hc, hblank⟩ := h
  exact ⟨c, by rw [String.toList_append]; exact List.mem_append_right _ hc, hblank⟩

namespace Specification

theorem name_merge_ne_empty (first : Specification) (rest : List Specification) :
    (merge first rest).name ≠ "" := by
  simp [merge]

/-- A rule that rules were merged into can be accepted if each of them can. -/
theorem acceptable_mergeAll {cs : List Specification} {s : Specification}
    (h : mergeAll cs = some s) (hcs : ∀ c ∈ cs, c.Acceptable) : s.Acceptable := by
  have hreplaces := replaces_of_mergeAll h
  obtain ⟨c, hc, happlicability, -⟩ := hreplaces.selects
  refine ⟨?_, ?_, happlicability ▸ (hcs c hc).applicability⟩
  · obtain ⟨first, rest, -, rfl⟩ := exists_of_mergeAll h
    exact name_merge_ne_empty first rest
  · obtain ⟨d, hd⟩ := List.exists_mem_of_ne_nil _ (hcs c hc).dialects
    exact List.ne_nil_of_mem ((hreplaces.mem_dialects d).mpr ⟨c, hc, hd⟩)

end Specification

/-- Consolidation makes nothing that cannot be accepted. -/
theorem acceptable_consolidate {specs : List Specification} (h : ∀ s ∈ specs, s.Acceptable) :
    ∀ s ∈ (consolidate specs).2, s.Acceptable :=
  Consolidation.forall_mem_consolidate Specification.acceptable_mergeAll h

/-! ## Steps -/

/-- Every rule that the step makes selects objects by some facet, and has a title. -/
inductive Step.Selective : Step → Prop where
  | create {a : FacetGroup} {r : Requirement} {title : Option String} : a.facets ≠ [] →
      title ≠ some "" → Selective (.create a r title)
  | createPresence {a : FacetGroup} : a.facets ≠ [] → Selective (.createPresence a)
  | scope {kind : ScopeKind} {name : String} {body : List Step} :
      (∀ step ∈ body, Selective step) → Selective (.scope kind name body)
  | plain {step : Step} : (∀ a r title, step ≠ .create a r title) →
      (∀ a, step ≠ .createPresence a) → (∀ kind name body, step ≠ .scope kind name body) →
      Selective step

theorem Step.selective_create {a : FacetGroup} {r : Requirement} {title : Option String} :
    (Step.create a r title).Selective ↔ a.facets ≠ [] ∧ title ≠ some "" := by
  refine ⟨fun h => ?_, fun h => .create h.1 h.2⟩
  cases h with
  | create hfacets htitle => exact ⟨hfacets, htitle⟩
  | plain hcreate _ _ => exact absurd rfl (hcreate a r title)

theorem Step.selective_createPresence {a : FacetGroup} :
    (Step.createPresence a).Selective ↔ a.facets ≠ [] := by
  refine ⟨fun h => ?_, .createPresence⟩
  cases h with
  | createPresence hfacets => exact hfacets
  | plain _ hpresence _ => exact absurd rfl (hpresence a)

theorem Step.selective_scope {kind : ScopeKind} {name : String} {body : List Step} :
    (Step.scope kind name body).Selective ↔ ∀ step ∈ body, step.Selective := by
  refine ⟨fun h => ?_, .scope⟩
  cases h with
  | scope hbody => exact hbody
  | plain _ _ hscope => exact absurd rfl (hscope kind name body)

namespace Compiler

variable {σ : Type}

theorem ruleName_ne_empty (c : Compiler σ) (identifier : String) {title : String}
    (h : title ≠ "") : c.ruleName identifier title ≠ "" := by
  rw [ruleName]
  split
  · simp
  · exact h

/-- A rule that selects objects by some facet, and has a title, can be accepted. -/
theorem acceptable_of_makes {step : Step} {rule : Compiler σ → String → Specification}
    {record : RuleIndex → String → RuleIndex} (hmakes : step.Makes rule record)
    (h : step.Selective) (c : Compiler σ) (identifier : String) :
    (rule c identifier).Acceptable := by
  cases hmakes with
  | create a r title =>
    obtain ⟨hfacets, htitle⟩ := Step.selective_create.mp h
    have hdialects := c.catalog.listed_inferDialects c.settings.supported c.settings.target a
    refine ⟨c.ruleName_ne_empty identifier ?_, hdialects.ne_nil, hfacets⟩
    cases title with
    | none => simp [synthesizedTitle]
    | some title => exact fun hempty => htitle (congrArg some hempty)
  | createPresence a =>
    have hdialects := c.catalog.listed_inferDialects c.settings.supported c.settings.target a
    exact ⟨c.ruleName_ne_empty identifier (by simp), hdialects.ne_nil,
      Step.selective_createPresence.mp h⟩

end Compiler

/-! ## The invariant -/

/-- The sink keeps a property of its state as long as it is asked for what can be accepted. -/
structure Sink.Keeps {σ : Type} (s : Sink σ) (Q : σ → Prop) : Prop where
  writeSpecification : ∀ l m x st, Q st → SpecGroup.Acceptable ⟨m, [x]⟩ →
    Q (s.writeSpecification l m x st).1
  writeGroup : ∀ stage g st, Q st → g.Acceptable → Q (s.writeGroup stage g st).1

namespace Compiler

variable {σ : Type} {Q : σ → Prop} {c d : Compiler σ}

/-- All groups can be accepted, and so could all that the sink was asked for. -/
structure Accepting (Q : σ → Prop) (c : Compiler σ) : Prop where
  keeps : c.sink.Keeps Q
  titled : Titled c.template.name
  groups : ∀ p ∈ c.groups, p.2.Acceptable
  state : Q c.sinkState

theorem Accepting.of_groups (h : Accepting Q c) (hsetup : d.setup = c.setup)
    (hgroups : ∀ p ∈ d.groups, p.2.Acceptable) (hstate : Q d.sinkState) : Accepting Q d := by
  have hsink : d.sink = c.sink := congrArg (fun x => x.2.2.2) hsetup
  have htemplate : d.template = c.template := congrArg (fun x => x.2.2.1) hsetup
  exact ⟨hsink ▸ h.keeps, htemplate ▸ h.titled, hgroups, hstate⟩

theorem Accepting.of_eq (h : Accepting Q c) (hsetup : d.setup = c.setup)
    (hgroups : d.groups = c.groups) (hstate : d.sinkState = c.sinkState) : Accepting Q d :=
  h.of_groups hsetup (hgroups ▸ h.groups) (hstate ▸ h.state)

theorem accepting_start {settings : CompilerSettings} {catalog : Catalog}
    {template : GroupMetadata} {sink : Sink σ} {st : σ} (hkeeps : sink.Keeps Q)
    (htitled : Titled template.name) (hstate : Q st)
    (h : start settings catalog template sink st = .ok c) : Accepting Q c := by
  obtain rfl := eq_of_start h
  refine ⟨hkeeps, htitled, fun p hp => ?_, hstate⟩
  rw [List.mem_singleton.mp hp]
  exact ⟨htitled, fun _ hs => absurd hs List.not_mem_nil⟩

theorem acceptable_newGroup (c : Compiler σ) : c.newGroup.Acceptable := by
  refine ⟨?_, fun _ hs => absurd hs List.not_mem_nil⟩
  show Titled (c.groupName c.groupOwner)
  rw [groupName]
  have hdash : Titled " - " := by decide
  exact (hdash.append_right _).append_left _

theorem Accepting.activeSlot (h : Accepting Q c) : Accepting Q c.activeSlot.2 := by
  rcases c.activeSlot_cases with ⟨slot, -, heq⟩ | ⟨-, top, outer, -, heq⟩
  · rwa [heq]
  · rw [heq]
    refine h.of_groups rfl (fun p hp => ?_) h.state
    rcases List.mem_append.mp hp with hp | hp
    · exact h.groups p hp
    · rw [List.mem_singleton.mp hp]
      exact c.acceptable_newGroup

theorem Accepting.mapGroup {slot : Nat} {f : SpecGroup → SpecGroup} (h : Accepting Q c)
    (hf : ∀ p ∈ c.groups, (f p.2).Acceptable) : Accepting Q (c.mapGroup slot f) := by
  refine h.of_groups rfl (fun p hp => ?_) h.state
  obtain ⟨q, hq, rfl⟩ := mem_mapGroup.mp hp
  split
  · exact hf q hq
  · exact h.groups q hq

theorem Accepting.collect {spec : Specification} (h : Accepting Q c) (hspec : spec.Acceptable) :
    Accepting Q (c.collect spec) := by
  rw [collect_eq]
  refine h.activeSlot.mapGroup fun p hp => ?_
  obtain ⟨htitled, hrules⟩ := h.activeSlot.groups p hp
  refine ⟨htitled, fun s hs => ?_⟩
  rcases List.mem_append.mp hs with hs | hs
  · exact hrules s hs
  · rwa [List.mem_singleton.mp hs]

theorem acceptable_single (c : Compiler σ) {spec : Specification} (h : spec.Acceptable) :
    SpecGroup.Acceptable ⟨c.singleMetadata spec, [spec]⟩ := by
  refine ⟨?_, fun s hs => List.mem_singleton.mp hs ▸ h⟩
  show Titled ("Single IDS File: " ++ spec.name ++ " at " ++ c.settings.stage.name)
  have hname : Titled "Single IDS File: " := by decide
  exact ((hname.append_left _).append_left _).append_left _

theorem Accepting.append {spec : Specification} (h : Accepting Q c) (hspec : spec.Acceptable) :
    Accepting Q (c.append spec).2 := by
  rcases c.append_cases spec with ⟨-, heq⟩ | ⟨-, st, fault, hwrite, heq⟩
  · rw [heq]
    exact h.collect hspec
  · have hst := h.keeps.writeSpecification ⟨c.settings.stage, c.top.fullPrefix⟩
      (c.singleMetadata spec) spec c.sinkState h.state (c.acceptable_single hspec)
    rw [hwrite] at hst
    have hwritten : Accepting Q { c with sinkState := st } := h.of_groups rfl h.groups hst
    rw [heq]
    cases fault with
    | none => exact hwritten.collect hspec
    | some f => exact hwritten

theorem Accepting.make {step : Step} {rule : Compiler σ → String → Specification}
    {record : RuleIndex → String → RuleIndex} (h : Accepting Q c) (hmakes : step.Makes rule record)
    (hstep : step.Selective) : Accepting Q (c.make rule record).2 := by
  rcases c.make_cases rule record with ⟨reason, -, heq⟩ | ⟨-, -, heq⟩ |
    ⟨-, -, fault, d, happend, heq⟩
  · rwa [heq]
  · rw [heq]
    exact h.of_eq rfl rfl rfl
  · have hprepared : Accepting Q (c.prepared record) := h.of_eq rfl rfl rfl
    have happended := hprepared.append
      (acceptable_of_makes hmakes hstep (c.prepared record) c.generateIdentifier.1)
    rw [happend] at happended
    rw [heq]
    exact happended

theorem acceptable_settledGroup (c : Compiler σ) {g : SpecGroup} (h : g.Acceptable) :
    (c.settledGroup g).Acceptable := by
  rw [settledGroup]
  split
  · exact ⟨h.titled, acceptable_consolidate h.rules⟩
  · exact h

theorem Accepting.closeGroup (h : Accepting Q c) (s : Scope) : Accepting Q (c.closeGroup s).2 := by
  rcases c.closeGroup_cases s with ⟨-, notices, heq⟩ | ⟨slot, g, -, -, -, heq⟩ |
    ⟨slot, g, d, -, hg, -, rfl, hcase⟩
  · rw [heq]
    exact h.of_eq rfl rfl rfl
  · rw [heq]
    exact h.of_groups rfl (fun p hp => h.groups p (List.mem_of_mem_filter hp)) h.state
  · have hgroup := c.acceptable_settledGroup (h.groups _ (mem_of_lookup hg))
    let notified := c.notify (.closed (label s) s.tag g.specifications.length)
    have hnotified : Accepting Q notified := h.of_eq rfl rfl rfl
    have hsettled : Accepting Q (notified.mapGroup slot fun _ => c.settledGroup g) :=
      hnotified.mapGroup fun _ _ => hgroup
    rcases hcase with ⟨-, heq⟩ | ⟨-, st, fault, hwrite, heq⟩
    · rw [heq]
      exact hsettled
    · have hst := h.keeps.writeGroup c.settings.stage (c.settledGroup g) c.sinkState h.state hgroup
      rw [hwrite] at hst
      rw [heq]
      exact hsettled.of_groups rfl hsettled.groups hst

theorem Accepting.settle (h : Accepting Q c) (s : Scope) : Accepting Q (c.settle s) := by
  rcases c.settle_cases s with ⟨-, heq⟩ | ⟨f, -, heq⟩
  · rw [heq]
    exact h.closeGroup s
  · rw [heq]
    exact (h.closeGroup s).of_eq rfl rfl rfl

theorem Accepting.closeScope (h : Accepting Q c) : Accepting Q c.closeScope := by
  rcases c.closeScope_cases with ⟨-, heq⟩ | ⟨parent, outer, -, heq⟩
  · rwa [heq]
  · have hpopped : Accepting Q (c.popped parent outer) := h.of_eq rfl rfl rfl
    rw [heq]
    exact hpopped.settle c.top

theorem Accepting.closeAll (h : Accepting Q c) (scopes : List Scope) :
    Accepting Q (c.closeAll scopes) := by
  induction scopes generalizing c with
  | nil => exact h
  | cons s scopes ih => exact ih (h.settle s)

/-! ## Runs -/

theorem Accepting.call {k : Call σ} (h : Accepting Q k.before) (htaken : k.Taken)
    (hstep : k.step.Selective) : Accepting Q k.after := by
  rcases Call.cases htaken with ⟨f, hf, -, hafter⟩ | ⟨-, -, hafter⟩ | ⟨reason, quiet, -, -, hafter⟩ |
    ⟨rule, record, hmakes, -, hafter⟩ | ⟨fault, -, -, hafter⟩ <;> rw [hafter]
  · exact h.of_eq rfl rfl rfl
  · exact h.of_eq rfl rfl rfl
  · exact h.of_eq rfl rfl rfl
  · exact h.make hmakes hstep
  · exact h

theorem Trace.accepting {ks : List (Call σ)} (htrace : Trace c ks d) (h : Accepting Q c)
    (hsteps : ∀ k ∈ ks, k.step.Selective) : Accepting Q d := by
  induction htrace with
  | nil => exact h
  | @call ks k _ htaken ih =>
    have hbefore := ih fun x hx => hsteps x (List.mem_append_left _ hx)
    exact hbefore.call htaken (hsteps k (List.mem_append_right _ (List.mem_singleton_self k)))
  | openKind kind name _ ih => exact (ih hsteps).of_eq rfl rfl rfl
  | closeScope _ ih => exact (ih hsteps).closeScope

mutual

theorem selective_callsOf {step : Step} (h : step.Selective) (c : Compiler σ) :
    ∀ (o : Outcome σ), ∀ k ∈ callsOf c step o, k.step.Selective
  | .step result after, k, hk => by
    rw [callsOf_step] at hk
    rwa [List.mem_singleton.mp hk]
  | .scope opened inner after, k, hk => by
    rw [callsOf_scope] at hk
    refine selective_calls (fun s hs => ?_) opened inner k hk
    cases h with
    | scope hbody => exact hbody s hs
    | create => cases hs
    | createPresence => cases hs
    | plain _ _ hscope =>
      cases step with
      | scope kind name body => exact absurd rfl (hscope kind name body)
      | _ => cases hs

/-- What a program calls are its steps and those of its scopes. -/
theorem selective_calls {steps : List Step} (h : ∀ step ∈ steps, step.Selective) (c : Compiler σ) :
    ∀ (os : List (Outcome σ)), ∀ k ∈ calls c steps os, k.step.Selective
  | [], k, hk => by
    rw [calls_nil_right] at hk
    cases hk
  | o :: os, k, hk => by
    cases steps with
    | nil =>
      rw [calls_nil_left] at hk
      cases hk
    | cons step steps =>
      rw [calls_cons, List.mem_append] at hk
      rcases hk with hk | hk
      · exact selective_callsOf (h step List.mem_cons_self) c o k hk
      · exact selective_calls (fun s hs => h s (List.mem_cons_of_mem step hs)) o.after os k hk

end

/-- A run of a program whose rules select objects and have titles collects, and hands to the sink,
only what can be accepted. -/
theorem Accepting.takeSteps (h : Accepting Q c) (strict : Bool) {steps : List Step}
    (hsteps : ∀ step ∈ steps, step.Selective) : Accepting Q (takeSteps strict c steps).2.1 :=
  (trace_takeSteps strict c steps).accepting h (selective_calls hsteps c _)

/-- So does the end of a run, at which the open scopes are closed. -/
theorem Accepting.finish (h : Accepting Q c) : Accepting Q c.finish.2 := h.closeAll _

/-- What a finished compilation gives can be accepted, also all of it under the header of the
bundle. -/
theorem Accepting.of_finish (h : Accepting Q c) {rules : CompiledRules}
    (hrules : c.finish.1 = .ok rules) :
    (∀ g ∈ rules.groups, g.Acceptable) ∧ Titled rules.root.name := by
  obtain rfl := eq_of_finish hrules
  exact ⟨List.forall_mem_map.mpr h.finish.groups, h.finish.titled⟩

end Compiler

end Eir
