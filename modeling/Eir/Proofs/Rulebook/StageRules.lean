import Eir.Proofs.Rulebook.NameRules
import Eir.Proofs.Text.Casing
import Eir.Sample.Model

/-!
# The rules of a stage

When all rules of a stage can be compiled, they are those that the rulebook makes
and that apply then, in order (`Inputs.yields_allRules`). An identifier that is looked up is
that of such a rule, which is among the specifications (`Yields.exists_of_lookup`).
-/

namespace Eir

open Compiler IndexedRule

/-! ## What the rulebook yields -/

/-- The rules are what a rulebook for these inputs makes and what applies at the stage. -/
structure Rulebook.Yields (b : Rulebook) (i : Inputs) (settings : CompilerSettings)
    (rules : CompiledRules) : Prop where
  namer : b.namer = i.namer
  schema : b.schema = i.catalog.view i.settings.schema.target
  occurrenceSchema : b.occurrenceSchema = (SampleSources.mk i rules.index).logicalView
  /-- All its rules can be made. -/
  failures : failures b.program = []
  holds : rules.Holds ((creations Scope.root.bare b.program).filter (·.applies settings))
  demanding : ∀ spec ∈ rules.specifications, spec.demands = true

/-- The rules are just those that apply, in order. -/
theorem Rulebook.Yields.made {b : Rulebook} {i : Inputs} {settings : CompilerSettings}
    {rules : CompiledRules} (h : b.Yields i settings rules) : List.Forall₂ Creation.Gives
      ((creations Scope.root.bare b.program).filter (·.applies settings)) rules.specifications := by
  have hmade := h.holds.made
  rwa [List.filter_eq_self.mpr h.demanding] at hmade

theorem eq_of_asRun_ok {α : Type} {x : Except Fault α} {a : α} (h : asRun x = .ok a) : x = .ok a := by
  cases x with
  | error fault => cases h
  | ok b => exact congrArg Except.ok (Except.ok.inj h)

/-- A program that is run without a fault, and has no step that ends it, is run to its end. -/
theorem Compiler.halt_eq_none {σ : Type} {c d : Compiler σ} {steps : List Step}
    (h : c.run steps = (.ok (), d)) (honly : ∀ step ∈ steps, step.Only fun _ _ => True) :
    (takeSteps true c steps).2.2 = none ∧ (takeSteps true c steps).2.1 = d := by
  have hstopped := halt_ne_stopped honly true c
  rw [run] at h
  rcases htake : takeSteps true c steps with ⟨os, e, _ | _ | fault⟩
  · rw [htake] at h
    exact ⟨rfl, (Prod.mk.inj h).2⟩
  · rw [htake] at hstopped
    exact absurd rfl hstopped
  · rw [htake] at h
    cases (Prod.mk.inj h).1

namespace Inputs

/-- The settings of the compilation of all rules of a stage. -/
def stageSettings (i : Inputs) (stage : Stage) : CompilerSettings :=
  { i.compilerSettings stage .all with
    oneFilePerSpecification := false
    oneFilePerScope := false
    groupByApplicability := false }

/-- The rulebook for a stage. -/
def stageRulebook (i : Inputs) (stage : Stage) : Rulebook where
  project := i.settings.project
  content := i.content
  namer := i.namer
  policy := i.settings.undefinedSubKind
  stage := stage
  schema := i.catalog.view i.settings.schema.target
  occurrenceSchema := (SampleSources.mk i .empty).logicalView

variable {i : Inputs} {date : Date} {stage : Stage}

theorem rulebook_eq_stageRulebook {c : Compiler Unit} {template : GroupMetadata}
    (h : Compiler.start (i.stageSettings stage) i.catalog template Sink.null () = .ok c) :
    i.rulebook c = i.stageRulebook stage := by
  rw [eq_of_start h]
  rfl

/-- All rules of a stage that can be compiled come from its rulebook. -/
theorem yields_allRules {rules : CompiledRules} (h : i.allRules date stage = .ok rules) :
    (i.stageRulebook stage).Yields i (i.stageSettings stage) rules := by
  rw [allRules] at h
  obtain ⟨c, hstart, h⟩ := exists_of_bind_ok h
  rcases hrun : c.run (i.rulebook c).program with ⟨result, d⟩
  rw [hrun] at h
  obtain ⟨⟨⟩, hresult, hfinish⟩ := exists_of_bind_ok h
  have hstart : Compiler.start (i.stageSettings stage) i.catalog
      (i.settings.rootMetadata stage .all date) Sink.null () = .ok c := eq_of_asRun_ok hstart
  rw [eq_of_asRun_ok hresult, rulebook_eq_stageRulebook hstart] at hrun
  obtain ⟨hhalt, hend⟩ := halt_eq_none hrun (i.stageRulebook stage).only_program
  have hrules := hend ▸ eq_of_asRun_ok hfinish
  exact ⟨rfl, rfl, rfl, failures_eq_nil c _ hhalt,
    holds_finish hstart Sink.reliable_null rfl rfl hhalt hrules,
    demands_finish hstart Sink.reliable_null rfl rfl (i.stageRulebook stage).only_program hrules⟩

/-- All rules of a stage can be compiled if each rule of its rulebook can be made. -/
theorem exists_allRules (htarget : stage.isTarget = true)
    (h : failures (i.stageRulebook stage).program = []) (date : Date) :
    ∃ rules, i.allRules date stage = .ok rules := by
  obtain ⟨c, hstart⟩ : ∃ c, Compiler.start (i.stageSettings stage) i.catalog
      (i.settings.rootMetadata stage .all date) Sink.null () = .ok c :=
    ⟨_, if_pos htarget⟩
  have hnever := fun fault => halt_ne_failed (sound_start hstart Sink.reliable_null) fault _ h
  obtain ⟨rules, hfinish, -⟩ :=
    finish_takeSteps hstart Sink.reliable_null true (i.stageRulebook stage).program
  have hrun : c.run (i.rulebook c).program =
      (.ok (), (takeSteps true c (i.stageRulebook stage).program).2.1) := by
    rw [rulebook_eq_stageRulebook hstart, Compiler.run]
    rcases htake : takeSteps true c (i.stageRulebook stage).program with ⟨os, d, _ | _ | fault⟩
    · rfl
    · rfl
    · exact absurd (congrArg (·.2.2) htake) (hnever fault)
  refine ⟨rules, ?_⟩
  have hparts : i.allRules date stage = (do
      let c ← asRun (Compiler.start (i.stageSettings stage) i.catalog
        (i.settings.rootMetadata stage .all date) Sink.null ())
      asRun (c.run (i.rulebook c).program).1
      asRun (c.run (i.rulebook c).program).2.finish.1) := rfl
  rw [hparts, hstart]
  change (do
    asRun (c.run (i.rulebook c).program).1
    asRun (c.run (i.rulebook c).program).2.finish.1) = _
  rw [hrun]
  exact congrArg asRun hfinish

end Inputs

namespace Rulebook.Yields

variable {b : Rulebook} {i : Inputs} {settings : CompilerSettings} {rules : CompiledRules}
  {key : RuleKey} {id : String}

/-- What is found is the identifier of a rule that answers the key, or that answers it without a
sub-kind if none does with it. -/
theorem exists_of_mem_lookupAll (h : b.Yields i settings rules)
    (hmem : id ∈ rules.index.lookupAll key) :
    ∃ x ∈ creations Scope.root.bare b.program, x.identifier = id ∧
      (x.indexed.answers key = true ∨ x.indexed.answers { key with subKind := none } = true) ∧
      ∃ spec ∈ rules.specifications, x.Gives spec := by
  have hfound {other : RuleKey} (hother : id ∈ identifiersFor (((creations Scope.root.bare
      b.program).filter (·.applies settings)).map Creation.indexed) other) :
      ∃ x ∈ creations Scope.root.bare b.program, x.identifier = id ∧
        x.indexed.answers other = true ∧ ∃ spec ∈ rules.specifications, x.Gives spec := by
    obtain ⟨y, hy, hanswers, rfl⟩ := mem_identifiersFor.mp hother
    obtain ⟨x, hx, rfl⟩ := List.mem_map.mp hy
    exact ⟨x, (List.mem_filter.mp hx).1, rfl, hanswers, h.holds.specifications x hx⟩
  rw [h.holds.index.lookupAll] at hmem
  split at hmem
  · obtain ⟨x, hx, hid, hanswers, hspec⟩ := hfound hmem
    exact ⟨x, hx, hid, .inr hanswers, hspec⟩
  · obtain ⟨x, hx, hid, hanswers, hspec⟩ := hfound hmem
    exact ⟨x, hx, hid, .inl hanswers, hspec⟩

/-- So it is with what is looked up. -/
theorem exists_of_lookup (h : b.Yields i settings rules) (hid : rules.index.lookup? key = some id) :
    ∃ x ∈ creations Scope.root.bare b.program, x.identifier = id ∧
      (x.indexed.answers key = true ∨ x.indexed.answers { key with subKind := none } = true) ∧
      ∃ spec ∈ rules.specifications, x.Gives spec :=
  h.exists_of_mem_lookupAll (List.mem_of_mem_head? hid)

/-- Something is looked up if a rule that applies answers the key. -/
theorem exists_lookup (h : b.Yields i settings rules) {x : Creation}
    (hx : x ∈ creations Scope.root.bare b.program) (happlies : x.applies settings = true)
    (hanswers : x.indexed.answers key = true) : ∃ id, rules.index.lookup? key = some id := by
  have hmem : x.identifier ∈ identifiersFor (((creations Scope.root.bare b.program).filter
      (·.applies settings)).map Creation.indexed) key :=
    mem_identifiersFor.mpr ⟨x.indexed, List.mem_map_of_mem (List.mem_filter.mpr ⟨hx, happlies⟩),
      hanswers, rfl⟩
  have hlookup := h.holds.index.lookupAll key
  rw [if_neg (List.ne_nil_of_mem hmem)] at hlookup
  rw [RuleIndex.lookup?, hlookup]
  exact Option.isSome_iff_exists.mp (List.isSome_head?.mpr (List.ne_nil_of_mem hmem))

/-- What is looked up if some rule applies and answers the key, and all that answer it with or
without the sub-kind have one identifier. -/
theorem lookup_of_only (h : b.Yields i settings rules)
    (hx : ∃ x ∈ creations Scope.root.bare b.program, x.applies settings = true ∧
      x.indexed.answers key = true)
    (honly : ∀ x ∈ creations Scope.root.bare b.program, x.indexed.answers key = true ∨
      x.indexed.answers { key with subKind := none } = true → x.identifier = id) :
    rules.index.lookup? key = some id := by
  obtain ⟨x, hmem, happlies, hanswers⟩ := hx
  obtain ⟨found, hfound⟩ := h.exists_lookup hmem happlies hanswers
  obtain ⟨y, hy, rfl, hanswers, -⟩ := h.exists_of_lookup hfound
  rw [hfound, honly y hy hanswers]

/-- What is looked up for the predefined type of a type is rule 07.03. -/
theorem undefinedRule_of_lookup (h : b.Yields i settings rules) {name : String}
    (hid : rules.index.lookup? (.of name none .attributeHasValue "PredefinedType") = some id) :
    id = b.undefinedRule.identifier ∧
      b.undefinedRule.indexed.answers (.of name none .attributeHasValue "PredefinedType") = true := by
  obtain ⟨x, hx, rfl, hanswers, -⟩ := h.exists_of_lookup hid
  have hanswers : x.indexed.answers (.of name none .attributeHasValue "PredefinedType") = true :=
    hanswers.elim (fun h => h) fun h => h
  have htyped : Typed x.requirement := by
    simp only [answers, Bool.and_eq_true, beq_iff_eq] at hanswers
    exact ⟨hanswers.1.2, hanswers.2⟩
  obtain rfl := eq_undefinedRule hx htyped
  exact ⟨rfl, hanswers⟩

end Rulebook.Yields

/-! ## Rules about types -/

/-- Objects of the type and the sub-kind are selected: one of the types that are named, in any
case, is theirs, and so is the predefined type if one is given. -/
def FacetGroup.Selects (g : FacetGroup) (entity : String) (subKind : Option String) : Prop :=
  ∃ types predefined, g.facets = [.entity types predefined] ∧
    entity.toUpper ∈ listedTypes types ∧
      ∀ p, predefined = some p → ∃ k, p = .exact k ∧ subKind = some k

namespace Rulebook

variable {t : EntityType} {k : Option String} {x : IndexedRule} {key : RuleKey}

theorem selects_typeFacet {a : FacetGroup} {entity : String} {subKind : Option String}
    (h : a.facets = [typeFacet t k]) (hname : entity.toUpper = t.upperName)
    (hkind : k = none ∨ k = subKind) : a.Selects entity subKind := by
  refine ⟨_, _, h, List.mem_singleton.mpr hname, fun p hp => ?_⟩
  obtain ⟨kind, rfl, rfl⟩ := Option.map_eq_some_iff.mp hp
  exact ⟨kind, rfl, hkind.elim nofun Eq.symm⟩

/-- A rule about one type answers under this type, and under the predefined type if it has one. -/
theorem answers_typeFacet (h : x.applicability.facets = [typeFacet t k]) :
    x.answers key = true ↔ t.upperName = key.entity ∧ k = key.subKind ∧
      x.requirement.kind = key.kind ∧ x.requirement.subject = key.subject := by
  have hnames : x.applicability.entityNames = [t.upperName] := by
    rw [FacetGroup.entityNames, h]
    rfl
  have hpredefined : x.applicability.predefinedType? = k := by
    rw [FacetGroup.predefinedType?, h]
    cases k <;> rfl
  have hupper : t.upperName.toUpper = t.upperName := toUpper_toUpper t.name
  simp [answers, hnames, hpredefined, hupper, and_assoc]

/-- An identifier that is looked up for the names of objects of a type is that of a rule about this
type, if all rules on names with the identifier are about some type of the catalog. -/
theorem Yields.nameRule_of_lookup {b : Rulebook} {i : Inputs} {settings : CompilerSettings}
    {rules : CompiledRules} (h : b.Yields i settings rules) {t : EntityType}
    (ht : b.occurrenceSchema.catalog.find? t.name = some t) {subKind : Option String} {id : String}
    (hid : rules.index.lookup? (.of t.name subKind .attributeMatchesPattern "Name") = some id)
    {P : EntityType → Option String → FacetGroup → Requirement → Prop}
    (hrules : ∀ x ∈ creations Scope.root.bare b.program, x.identifier = id →
      x.requirement.kind = .attributeMatchesPattern →
        ∃ u k, P u k x.applicability x.requirement)
    (htypes : ∀ u k a r, P u k a r → b.occurrenceSchema.catalog.find? u.name = some u ∧
      a.facets = [typeFacet u k]) :
    ∃ k a r, P t k a r ∧ (k = none ∨ k = subKind) ∧
      ∃ spec ∈ rules.specifications, spec.identifier = id ∧
        spec.applicability.Selects t.name subKind ∧ spec.requirement.facets = [r.facet] := by
  obtain ⟨x, hx, rfl, hanswers, spec, hspec, hgives⟩ := h.exists_of_lookup hid
  have hkind : x.requirement.kind = .attributeMatchesPattern := by
    rcases hanswers with hanswers | hanswers <;>
      simp only [answers, Bool.and_eq_true, beq_iff_eq] at hanswers <;> exact hanswers.1.2
  obtain ⟨u, k, hrule⟩ := hrules x hx rfl hkind
  obtain ⟨hu, hfacets⟩ := htypes u k _ _ hrule
  have hfound : u.upperName = t.name.toUpper ∧ (k = none ∨ k = subKind) := by
    rcases hanswers with hanswers | hanswers
    · obtain ⟨hname, hk, -⟩ := (answers_typeFacet hfacets).mp hanswers
      exact ⟨hname, .inr hk⟩
    · obtain ⟨hname, hk, -⟩ := (answers_typeFacet hfacets).mp hanswers
      exact ⟨hname, .inl hk⟩
  obtain rfl : u = t := by
    have hsame : b.occurrenceSchema.catalog.find? u.name =
        b.occurrenceSchema.catalog.find? t.name := by
      rw [Catalog.find?, Catalog.find?, ← hfound.1, EntityType.upperName]
    exact Option.some.inj (hu.symm.trans (hsame.trans ht))
  refine ⟨k, _, _, hrule, hfound.2, spec, hspec, hgives.identifier, ?_, ?_⟩
  · rw [hgives.applicability]
    exact selects_typeFacet hfacets rfl hfound.2
  · rw [hgives.requirement]
    rfl

end Rulebook

/-! ## Rules about names -/

/-- A rule of stage 5 about the pattern of names. -/
structure NameRule where
  identifier : String
  /-- What it selects, in upper case. -/
  types : List String
  subKind : Option String
  applies : Bool
  deriving DecidableEq, Repr

/-- The rule selects objects of the type, in upper case, and of just the sub-kind. -/
def NameRule.answers (r : NameRule) (key : String) (subKind : Option String) : Bool :=
  r.types.any (· == key) && r.subKind == subKind

namespace Inputs

/-- The rules of stage 5 about the patterns of names. -/
def nameRules (i : Inputs) : List NameRule :=
  ((creations Scope.root.bare (i.stageRulebook .stage5).program).filter fun x =>
    x.requirement.kind == .attributeMatchesPattern && x.requirement.subject == "Name").map fun x =>
      ⟨x.identifier, x.applicability.entityNames.map (·.toUpper), x.applicability.predefinedType?,
        x.applies (i.stageSettings .stage5)⟩

variable {i : Inputs} {date : Date} {rules : CompiledRules}

/-- What is looked up for names of objects of a type, if the rules that answer have one
identifier. -/
theorem lookup_of_nameRules (h : i.allRules date .stage5 = .ok rules) 
    {entity key id : String} {subKind : Option String} (hkey : entity.toUpper = key)
    (hsome : (i.nameRules.any fun r => r.applies && r.answers key subKind) = true)
    (honly : (i.nameRules.all fun r =>
      !(r.answers key subKind || r.answers key none) || r.identifier == id) = true) :
    rules.index.lookup? (.of entity subKind .attributeMatchesPattern "Name") = some id := by
  have htypes (x : Creation) : (x.applicability.entityNames.map (·.toUpper)).any (· == key) =
      x.applicability.entityNames.any (·.toUpper == entity.toUpper) := by
    rw [List.any_map, hkey]
    rfl
  refine (yields_allRules h).lookup_of_only ?_ fun x hx hanswers => ?_
  · obtain ⟨r, hr, happlies⟩ := List.any_eq_true.mp hsome
    obtain ⟨x, hx, rfl⟩ := List.mem_map.mp hr
    obtain ⟨hx, hname⟩ := List.mem_filter.mp hx
    simp only [NameRule.answers, htypes, Bool.and_eq_true] at happlies hname
    refine ⟨x, hx, happlies.1, ?_⟩
    simp only [answers, Bool.and_eq_true]
    exact ⟨⟨happlies.2, hname.1⟩, hname.2⟩
  · have hanswers : ∃ k, (k = subKind ∨ k = none) ∧
        x.indexed.answers (.of entity k .attributeMatchesPattern "Name") = true :=
      hanswers.elim (fun h => ⟨_, .inl rfl, h⟩) fun h => ⟨none, .inr rfl, h⟩
    obtain ⟨k, hk, hanswers⟩ := hanswers
    simp only [answers, Bool.and_eq_true] at hanswers
    have honly := List.all_eq_true.mp honly _ (List.mem_map_of_mem (List.mem_filter.mpr
      ⟨hx, Bool.and_eq_true_iff.mpr ⟨hanswers.1.2, hanswers.2⟩⟩))
    have hfound : NameRule.answers ⟨x.identifier, x.applicability.entityNames.map (·.toUpper),
        x.applicability.predefinedType?, x.applies (i.stageSettings .stage5)⟩ key k = true := by
      rw [NameRule.answers, htypes, Bool.and_eq_true]
      exact hanswers.1.1
    rcases hk with rfl | rfl <;> rw [hfound] at honly <;> simpa using honly

end Inputs

end Eir
