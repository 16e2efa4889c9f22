import Eir.Proofs.Compiler.Creations
import Eir.Proofs.Rulebook.Passes

/-!
# What the sections make

The rulebook makes what its nine sections make, each in a scope with the number of
the section (`mem_creations_program`). So the identifier of a rule tells the
section. Of the rules about names, those of section 07 are in section 07.05, and
those of section 08 in section 08.02. Rule 07.02 is about having a predefined type,
and rule 07.03 forbids the undefined one (`definedRule`, `undefinedRule`).
-/

namespace Eir

open Compiler

namespace Rulebook

variable (b : Rulebook) {x : Creation} {s : Scope}

/-- The scope around the sections when `n` of them are behind. -/
def rootScope (n : Nat) (stages : StageWindow) : Scope :=
  { Scope.root.bare with section_ := n, stages, passes := .coreOnly }

/-- The scope of a section. -/
def sectionScope (n : Nat) (stages : StageWindow) : Scope :=
  { Scope.root.bare with
    ident := Text.zeroPadded 2 n
    fullPrefix := Text.zeroPadded 2 n
    stages
    passes := .coreOnly }

theorem openChild_rootScope (n : Nat) (stages : StageWindow) :
    (rootScope n stages).openChild "" .around =
      (sectionScope (n + 1) stages, rootScope (n + 1) stages) := by
  simp only [rootScope, sectionScope, Scope.openChild, Scope.advance, Scope.identifier,
    Scope.slotText, Scope.root, Scope.bare, if_true]

/-- The sections with their numbers and stages. -/
def sections : List (Nat × StageWindow × List Step) :=
  let later : StageWindow := .starting .stage4
  [(1, .all, b.projectSection), (2, .all, b.siteSection), (3, .all, b.buildingSection),
    (4, .all, b.storeySection), (5, .all, b.spaceSection), (6, .all, b.zoneSection),
    (7, later, b.typeSection), (8, later, b.componentSection), (9, later, b.systemSection)]

/-- The rulebook makes what its sections make. -/
theorem creations_program : creations Scope.root.bare b.program =
    b.sections.flatMap fun (n, stages, body) => creations (sectionScope n stages) body := by
  have hstages (t : Scope) (window : StageWindow) : (Step.setStages window).creations t = [] :=
    creations_setter rfl t
  have hpasses (t : Scope) (passes : PassSet) : (Step.setPasses passes).creations t = [] :=
    creations_setter rfl t
  have hstart : (Step.setPasses .coreOnly).next ((Step.setStages .all).next Scope.root.bare) =
      rootScope 0 .all := rfl
  have hlater (n : Nat) : (Step.setStages (.starting .stage4)).next (rootScope n .all) =
      rootScope n (.starting .stage4) := rfl
  have hscope (n : Nat) (stages : StageWindow) (body : List Step) :
      (Step.scope .sectional "" body).next (rootScope n stages) = rootScope (n + 1) stages := by
    rw [Step.next, openChild_rootScope]
  simp only [program, spatialSections, objectSections, sections, List.map_cons, List.map_nil,
    List.cons_append, List.nil_append, creations_cons, creations_nil, creations_scope, hstages,
    hpasses, hstart, hlater, hscope, openChild_rootScope, List.flatMap_cons, List.flatMap_nil]

/-- Outside of scopes, a section gives identifiers of two parts. -/
theorem separators_creations (hs : s.OfSection) {steps : List Step}
    (hsection : ∀ step ∈ steps, step.InSection)
    (hplain : ∀ step ∈ steps, ∀ kind name body, step ≠ .scope kind name body) :
    ∀ x ∈ creations s steps, separators x.identifier = 1 := by
  induction steps generalizing s with
  | nil => simp [creations_nil]
  | cons step steps ih =>
    have hnext : (step.next s).OfSection ∧ ∀ x ∈ step.creations s, separators x.identifier = 1 := by
      cases hsection step List.mem_cons_self with
      | scope _ => exact absurd rfl (hplain _ List.mem_cons_self _ _ _)
      | plain hpasses hname hscope =>
        have hadvanced : s.advance.2.OfSection := ⟨hs.passes, rfl, hs.ident, hs.separators⟩
        have hset {t : Scope} (hbare : (t.passes, t.pendingName, t.ident) =
            (s.passes, s.pendingName, s.ident)) : t.OfSection := by
          simp only [Prod.mk.injEq] at hbare
          obtain ⟨hp, hn, hi⟩ := hbare
          exact ⟨hp ▸ hs.passes, hn ▸ hs.pendingName, hi ▸ hs.ident, hi ▸ hs.separators⟩
        cases step with
        | create a r title =>
          refine ⟨hadvanced, fun x hx => ?_⟩
          rw [creations_create] at hx
          obtain rfl := List.mem_singleton.mp hx
          rw [Creation.identifier, Scope.advance_fst, separators_slotIdent hs.ident, hs.pendingName,
            Scope.nextPart_number, separators_zeroPadded, hs.separators]
        | setPasses passes => exact absurd rfl (hpasses passes)
        | setName name => exact absurd rfl (hname name)
        | scope kind name body => exact absurd rfl (hscope kind name body)
        | identifier => exact ⟨hadvanced, by simp [creations_of_plain]⟩
        | skip => exact ⟨hadvanced, by simp [creations_of_plain]⟩
        | createPresence => exact ⟨hadvanced, by simp [creations_of_plain]⟩
        | _ => exact ⟨hset rfl, by simp [creations_of_plain]⟩
    rw [creations_cons, List.forall_mem_append]
    exact ⟨hnext.2, ih hnext.1 (fun t ht => hsection t (List.mem_cons_of_mem step ht))
      fun t ht => hplain t (List.mem_cons_of_mem step ht)⟩

/-! ## Sections by the demands of their rules -/

/-- The requirement is about the value of the predefined type. -/
def Typed (r : Requirement) : Prop := r.kind = .attributeHasValue ∧ r.subject = "PredefinedType"

/-- The requirement is not about the value of the predefined type. -/
def Untyped (_ : FacetGroup) (r : Requirement) : Prop := ¬Typed r

/-- Nor does it demand that an attribute matches a pattern. -/
def Plain (_ : FacetGroup) (r : Requirement) : Prop := r.kind ≠ .attributeMatchesPattern ∧ ¬Typed r

theorem only_projectSection : ∀ step ∈ b.projectSection, step.Only Untyped := by
  simp only [projectSection, identityRules, List.forall_mem_cons, List.forall_mem_append,
    Step.forall_mem_about, Step.forall_mem_rules]
  simp [Step.Only.plain, Step.only_create, Untyped, Typed, Requirement.kind, Requirement.subject]

theorem only_siteSection : ∀ step ∈ b.siteSection, step.Only Untyped := by
  simp only [siteSection, identityRules, List.forall_mem_cons, Step.forall_mem_about]
  simp [Step.Only.plain, Step.only_create, Untyped, Typed, Requirement.kind, Requirement.subject]

theorem only_buildingSection : ∀ step ∈ b.buildingSection, step.Only Untyped := by
  simp only [buildingSection, identityRules, List.forall_mem_cons, List.forall_mem_append,
    Step.forall_mem_about, Step.forall_mem_rules]
  simp [Step.Only.plain, Step.only_create, Untyped, Typed, Requirement.kind, Requirement.subject]

theorem only_storeySection : ∀ step ∈ b.storeySection, step.Only Untyped := by
  simp only [storeySection, List.forall_mem_cons, List.forall_mem_append, Step.forall_mem_about,
    Step.forall_mem_rules]
  simp [Step.Only.plain, Step.only_create, Untyped, Typed, Requirement.withDataType,
    Requirement.propertyAbove, Requirement.kind]

theorem only_consistencySection : ∀ step ∈ b.consistencySection, step.Only Untyped := by
  simp only [consistencySection, List.forall_mem_append, List.forall_mem_flatMap,
    List.forall_mem_cons, Step.forall_mem_about, Step.forall_mem_rules]
  simp [Step.Only.plain, Step.only_create, Untyped, Typed, Requirement.kind]

theorem only_spaceSection : ∀ step ∈ b.spaceSection, step.Only Untyped := by
  simp only [spaceSection, List.forall_mem_cons, List.forall_mem_append, Step.forall_mem_about,
    Step.forall_mem_rules, Step.forall_mem_within]
  simpa [Step.Only.plain, Step.only_create, Step.only_scope, Untyped, Typed, Requirement.withDataType,
    Requirement.propertyAbove, Requirement.kind] using fun _ _ => b.only_consistencySection

theorem only_zoneSection : ∀ step ∈ b.zoneSection, step.Only Untyped := by
  simp only [zoneSection, List.forall_mem_cons, List.forall_mem_append, Step.forall_mem_about,
    Step.forall_mem_rules]
  simp [Step.Only.plain, Step.only_create, Untyped, Typed, Requirement.kind]

theorem only_systemSection : ∀ step ∈ b.systemSection, step.Only Untyped := by
  simp only [systemSection, List.forall_mem_cons, List.forall_mem_append, Step.forall_mem_about,
    Step.forall_mem_rules]
  simp [Step.Only.plain, Step.only_create, Untyped, Typed, Requirement.kind]

theorem only_productRules : ∀ step ∈ b.productRules, step.Only Plain := by
  simp only [productRules, warrantyRules, propertyRules, List.forall_mem_append,
    Step.forall_mem_about, Step.forall_mem_rules, Step.forall_mem_within]
  simp [Step.Only.plain, Step.only_create, Plain, Typed, Requirement.withDataType,
    Requirement.propertyAbove, Requirement.kind]

/-! ## Type objects -/

/-- The scope of section 07 when the rule 07.03 is made. -/
def undefinedScope : Scope :=
  { sectionScope 7 (.starting .stage4) with
    section_ := 2
    tag := "Type"
    requirement := .prohibited }

/-- Rule 07.03: type objects that list predefined types are not of the undefined one. -/
def undefinedRule : Creation :=
  ⟨undefinedScope, enumeratedSelection b.schema,
    .attributeHasValue "PredefinedType" undefinedSubKind⟩

theorem identifier_undefinedRule : b.undefinedRule.identifier = "07_03" := by
  have hscope : undefinedScope.advance.1 = "07_03" := by decide +kernel
  exact hscope

/-- The scope of section 07 when the rule 07.02 is made. -/
def definedScope : Scope :=
  { sectionScope 7 (.starting .stage4) with
    section_ := 1
    tag := "Type"
    requirement := .optional }

/-- Rule 07.02: type objects that list predefined types may be of one. -/
def definedRule : Creation :=
  ⟨definedScope, enumeratedSelection b.schema, .attributeDefined "PredefinedType"⟩

theorem identifier_definedRule : b.definedRule.identifier = "07_02" := by
  have hscope : definedScope.advance.1 = "07_02" := by decide +kernel
  exact hscope

/-- The steps of section 07 in front of rule 07.03. -/
def undefinedSteps : List Step := [
  .setTag "Type",
  .skip "07.01 Entity Correctly defined" false,
  .setRequirement .optional,
  .create (enumeratedSelection b.schema) (.attributeDefined "PredefinedType") none,
  .setRequirement .prohibited]

/-- The rules of section 07 behind rule 07.03 are about names, or plain. -/
theorem typeSection_eq {a : FacetGroup}
    (h : b.schema.select "Object Type" (present b.schema rootTypes) = .ok a) :
    ∃ later, b.typeSection = b.undefinedSteps ++ .create (enumeratedSelection b.schema)
        (.attributeHasValue "PredefinedType" undefinedSubKind) none :: later ∧
      ∀ step ∈ later, step = .scope .sectional "" b.typeNameSection ∨ step.Only Plain := by
  rw [typeSection, h]
  refine ⟨_, rfl, List.forall_mem_append.mpr ⟨?_, fun step hstep => ?_⟩⟩
  · simp [Step.Only.plain, Step.only_create, Plain, Typed, Requirement.kind]
  · exact .inr (b.only_productRules step hstep)

/-- What section 07 makes is rule 07.03, one of the rules about names, or plain. -/
theorem mem_typeSection
    (hx : x ∈ creations (sectionScope 7 (.starting .stage4)) b.typeSection) :
    x = b.undefinedRule ∨ (∃ s, x ∈ creations s b.typeNameSection) ∨
      Plain x.applicability x.requirement := by
  cases hselect : b.schema.select "Object Type" (present b.schema rootTypes) with
  | error fault =>
    simp [typeSection, hselect, Step.about, creations_cons, creations_nil, creations_of_plain] at hx
  | ok a =>
    obtain ⟨later, heq, hlater⟩ := b.typeSection_eq hselect
    rw [heq, creations_append, creations_cons, creations_create, List.mem_append,
      List.mem_append, List.mem_singleton] at hx
    rcases hx with hx | hx | hx
    · have hfirst : ∀ step ∈ b.undefinedSteps, step.Only Plain := by
        simp [undefinedSteps, Step.Only.plain, Step.only_create, Plain, Typed, Requirement.kind]
      exact .inr (.inr (forall_mem_creations hfirst _ x hx))
    · exact .inl hx
    · obtain ⟨step, hstep, t, hmem⟩ := exists_of_mem_creations hx
      rcases hlater step hstep with rfl | honly
      · rw [creations_scope] at hmem
        exact .inr (.inl ⟨_, hmem⟩)
      · exact .inr (.inr (honly.forall_mem t x hmem))

/-- Both rules are made if their section can be. -/
theorem enumeratedRules_mem (h : failures b.typeSection = []) :
    b.definedRule ∈ creations (sectionScope 7 (.starting .stage4)) b.typeSection ∧
      b.undefinedRule ∈ creations (sectionScope 7 (.starting .stage4)) b.typeSection := by
  have hselect : ∃ a, b.schema.select "Object Type" (present b.schema rootTypes) = .ok a := by
    rw [typeSection, failures_cons, List.append_eq_nil_iff] at h
    exact exists_of_failures_about h.2
  obtain ⟨a, ha⟩ := hselect
  obtain ⟨later, heq, -⟩ := b.typeSection_eq ha
  have hfirst : creations (sectionScope 7 (.starting .stage4)) b.undefinedSteps =
      [b.definedRule] := by
    have htag (s : Scope) : (Step.setTag "Type").creations s = [] := creations_setter rfl s
    have hrequirement (s : Scope) (r : RequirementCardinality) :
        (Step.setRequirement r).creations s = [] := creations_setter rfl s
    have hskip (s : Scope) (reason : String) : (Step.skip reason false).creations s = [] :=
      creations_of_plain (by simp) (by simp)
    simp only [undefinedSteps, creations_cons, creations_create, creations_nil, htag,
      hrequirement, hskip, List.nil_append, List.append_nil]
    rfl
  rw [heq, creations_append, hfirst, creations_cons, creations_create]
  exact ⟨List.mem_cons_self, List.mem_cons_of_mem _ List.mem_cons_self⟩

/-! ## Components -/

/-- What section 08 makes is one of the rules about names, or plain. -/
theorem mem_componentSection (hx : x ∈ creations s b.componentSection) :
    (∃ s, x ∈ creations s b.componentNameSection) ∨ Plain x.applicability x.requirement := by
  have hsteps : ∀ step ∈ b.componentSection,
      step = .scope .sectional "" b.componentNameSection ∨ step.Only Plain := by
    simp only [componentSection, List.forall_mem_cons, List.forall_mem_append,
      Step.forall_mem_about, Step.forall_mem_rules]
    simp [Step.Only.plain, Step.only_create, Plain, Typed, Requirement.kind]
  obtain ⟨step, hstep, t, hmem⟩ := exists_of_mem_creations hx
  rcases hsteps step hstep with rfl | honly
  · rw [creations_scope] at hmem
    exact .inl ⟨_, hmem⟩
  · exact .inr (honly.forall_mem t x hmem)

end Rulebook

end Eir
