import Eir.Proofs.Rulebook.Sections
import Eir.Proofs.Sample.Synthesis

/-!
# The rules about names

What the rules of sections 07.05 and 08.02 select and demand. A rule is about one
type, and about one predefined type where names tell them apart
(`TypeNameRule`, `ComponentNameRule`). With these, every step of the rulebook is
known to make a rule or to go on (`only_program`).
-/

namespace Eir

open Compiler

/-- A selection of one type is one facet with its name. -/
theorem SchemaView.facets_selectExact {v : SchemaView} {label name : String} {a : FacetGroup}
    (h : v.selectExact label name = .ok a) :
    ∃ t, v.find? name = some t ∧ a.facets = [.entity (.exact t.upperName) none] := by
  rw [selectExact, require] at h
  cases hfind : v.find? name with
  | none =>
    rw [hfind] at h
    cases h
  | some t =>
    rw [hfind] at h
    cases h
    exact ⟨t, rfl, by simp [entitySelector, FacetGroup.addFacet, FacetGroup.empty, List.eraseReps,
      List.eraseRepsBy, List.eraseRepsBy.loop]⟩

/-- The facet of a type, and of a predefined type if one is given. -/
def typeFacet (t : EntityType) (subKind : Option String) : Facet :=
  .entity (.exact t.upperName) (subKind.map .exact)

theorem facets_withPredefinedType {a : FacetGroup} {types : Constraint}
    (h : a.facets = [.entity types none]) (subKind : String) :
    (a.withPredefinedType subKind).facets = [.entity types (some (.exact subKind))] := by
  simp only [FacetGroup.withPredefinedType, h, FacetGroup.narrowFirst]

namespace Rulebook

variable (b : Rulebook)

/-! ## Names of types -/

/-- The rule is about the names of the types of a type object, and of one predefined type just
if names tell those apart. -/
structure TypeNameRule (t : EntityType) (subKind : Option String) (a : FacetGroup)
    (r : Requirement) : Prop where
  listed : ∃ types, b.schema.concreteSubtypes "IfcTypeObject" = .ok types ∧ t ∈ types
  kinds : if b.namer.conventions.enumeratesSubKinds t.name = true ∧ t.subKinds ≠ [] then
      ∃ k ∈ t.subKinds, subKind = some k
    else subKind = none
  facets : ∃ u, b.occurrenceSchema.find? t.name = some u ∧ a.facets = [typeFacet u subKind]
  requirement : r = .attributeMatchesPattern "Name"
    ((b.namer.typeConvention t.name subKind).1.pattern (b.namer.conventions.hasFreeLabel t.name))
    none

/-- The rule is about names of types. -/
def NamesTypes (a : FacetGroup) (r : Requirement) : Prop :=
  ∃ t subKind, b.TypeNameRule t subKind a r

theorem only_typeNameRule {P : FacetGroup → Requirement → Prop} {t : EntityType}
    {subKind : Option String}
    (h : ∀ a u, b.occurrenceSchema.find? t.name = some u → a.facets = [typeFacet u subKind] →
      P a (.attributeMatchesPattern "Name" ((b.namer.typeConvention t.name subKind).1.pattern
        (b.namer.conventions.hasFreeLabel t.name)) none)) :
    ∀ step ∈ b.typeNameRule t subKind, step.Only P := by
  simp only [typeNameRule, Step.forall_mem_about, Step.forall_mem_rules,
    List.forall_mem_singleton, Step.only_create]
  refine ⟨fun fault _ => .plain (by simp) (by simp) (by simp) (by simp), fun a ha => ?_⟩
  obtain ⟨u, hu, hfacets⟩ := SchemaView.facets_selectExact ha
  cases subKind with
  | none => exact h a u hu hfacets
  | some k => exact h _ u hu (facets_withPredefinedType hfacets k)

theorem only_typeNameSection : ∀ step ∈ b.typeNameSection, step.Only b.NamesTypes := by
  rw [typeNameSection]
  refine List.forall_mem_append.mpr ⟨by simp [Step.Only.plain], ?_⟩
  split
  · exact List.forall_mem_singleton.mpr (.plain (by simp) (by simp) (by simp) (by simp))
  rename_i types htypes
  refine List.forall_mem_flatMap.mpr fun t ht => ?_
  have hlisted : ∃ types, b.schema.concreteSubtypes "IfcTypeObject" = .ok types ∧ t ∈ types :=
    ⟨types, htypes, List.mem_of_mem_filter ht⟩
  rw [typeNameRules]
  split
  · rename_i hkinds
    simp only [Bool.and_eq_true, Bool.not_eq_true', List.isEmpty_eq_false_iff] at hkinds
    refine List.forall_mem_singleton.mpr (.scope (List.forall_mem_flatMap.mpr fun k hk => ?_))
    refine List.forall_mem_cons.mpr ⟨.plain (by simp) (by simp) (by simp) (by simp),
      b.only_typeNameRule fun a u hu hfacets => ?_⟩
    refine ⟨t, some k, hlisted, ?_, ⟨u, hu, hfacets⟩, rfl⟩
    rw [if_pos hkinds]
    exact ⟨k, List.mem_of_mem_filter hk, rfl⟩
  · rename_i hkinds
    simp only [Bool.and_eq_true, Bool.not_eq_true', List.isEmpty_eq_false_iff] at hkinds
    refine List.forall_mem_cons.mpr ⟨.plain (by simp) (by simp) (by simp) (by simp),
      b.only_typeNameRule fun a u hu hfacets => ?_⟩
    exact ⟨t, none, hlisted, by rw [if_neg hkinds], ⟨u, hu, hfacets⟩, rfl⟩

/-! ## Names of components -/

/-- The rule is about the names of the components of a type, and of one predefined type just if
there are codes for those. -/
structure ComponentNameRule (t : EntityType) (subKind : Option String) (a : FacetGroup)
    (r : Requirement) : Prop where
  listed : ∃ name ∈ b.components, ∃ types, b.occurrenceSchema.concreteSubtypes name = .ok types ∧
    t ∈ types
  code : ∃ code, b.namer.code? t.name = some code ∧ subKind.isSome = code.hasOverrides
  facets : ∃ u, b.occurrenceSchema.find? t.name = some u ∧ a.facets = [typeFacet u subKind]
  requirement : ∃ pattern, b.namer.rulePattern? t.name subKind = some pattern ∧
    r = .attributeMatchesPattern "Name" pattern none

/-- The rule is about names of components. -/
def NamesComponents (a : FacetGroup) (r : Requirement) : Prop :=
  ∃ t subKind, b.ComponentNameRule t subKind a r

theorem only_componentNameRule {P : FacetGroup → Requirement → Prop} {t : EntityType}
    {subKind : Option String} {slot pattern : String}
    (h : ∀ a u, b.occurrenceSchema.find? t.name = some u → a.facets = [typeFacet u subKind] →
      P a (.attributeMatchesPattern "Name" pattern none)) :
    ∀ step ∈ b.componentNameRule t subKind slot pattern, step.Only P := by
  rw [componentNameRule]
  refine List.forall_mem_cons.mpr ⟨.plain (by simp) (by simp) (by simp) (by simp), ?_⟩
  simp only [Step.forall_mem_about, Step.forall_mem_rules, List.forall_mem_singleton,
    Step.only_create]
  refine ⟨fun fault _ => .plain (by simp) (by simp) (by simp) (by simp), fun a ha => ?_⟩
  obtain ⟨u, hu, hfacets⟩ := SchemaView.facets_selectExact ha
  cases subKind with
  | none => exact h a u hu hfacets
  | some k => exact h _ u hu (facets_withPredefinedType hfacets k)

theorem only_componentNameRules {t : EntityType}
    (hlisted : ∃ name ∈ b.components, ∃ types, b.occurrenceSchema.concreteSubtypes name = .ok types ∧
      t ∈ types) : ∀ step ∈ b.componentNameRules t, step.Only b.NamesComponents := by
  rw [componentNameRules]
  split
  · exact List.forall_mem_nil _
  rename_i code hcode
  split
  · rename_i hoverrides
    split
    · exact List.forall_mem_nil _
    refine List.forall_mem_singleton.mpr (.scope (List.forall_mem_flatMap.mpr fun k _ => ?_))
    split
    · exact List.forall_mem_nil _
    rename_i pattern hpattern
    exact b.only_componentNameRule fun a u hu hfacets =>
      ⟨t, some k, hlisted, ⟨code, hcode, hoverrides.symm⟩, ⟨u, hu, hfacets⟩, pattern, hpattern, rfl⟩
  · rename_i hoverrides
    split
    · exact List.forall_mem_nil _
    rename_i pattern hpattern
    exact b.only_componentNameRule fun a u hu hfacets =>
      ⟨t, none, hlisted, ⟨code, hcode, (Bool.eq_false_iff.mpr hoverrides).symm⟩, ⟨u, hu, hfacets⟩,
        pattern, hpattern, rfl⟩

theorem only_componentNameSection :
    ∀ step ∈ b.componentNameSection, step.Only b.NamesComponents := by
  rw [componentNameSection]
  refine List.forall_mem_append.mpr ⟨by simp [Step.Only.plain], ?_⟩
  split
  · exact List.forall_mem_singleton.mpr (.plain (by simp) (by simp) (by simp) (by simp))
  rename_i types htypes
  refine List.forall_mem_flatMap.mpr fun t ht => b.only_componentNameRules ?_
  have hfound := (SchemaView.sublist_dedupNames _).subset ht
  exact (Synthesizer.mem_flatten_of_mapM htypes).mp (List.mem_mergeSort.mp hfound)

/-! ## The whole rulebook -/

theorem only_typeSection : ∀ step ∈ b.typeSection, step.Only fun _ _ => True := by
  have hnames : ∀ step ∈ b.typeNameSection, step.Only fun _ _ => True :=
    fun step hstep => (b.only_typeNameSection step hstep).mono fun _ _ _ => trivial
  have hproducts : ∀ step ∈ b.productRules, step.Only fun _ _ => True :=
    fun step hstep => (b.only_productRules step hstep).mono fun _ _ _ => trivial
  simp only [typeSection, List.forall_mem_cons, List.forall_mem_append, Step.forall_mem_about]
  simpa [Step.Only.plain, Step.only_create, Step.only_scope] using fun _ _ => ⟨hnames, hproducts⟩

theorem only_componentSection : ∀ step ∈ b.componentSection, step.Only fun _ _ => True := by
  have hnames : ∀ step ∈ b.componentNameSection, step.Only fun _ _ => True :=
    fun step hstep => (b.only_componentNameSection step hstep).mono fun _ _ _ => trivial
  simp only [componentSection, List.forall_mem_cons, List.forall_mem_append,
    Step.forall_mem_about, Step.forall_mem_rules]
  simpa [Step.Only.plain, Step.only_create, Step.only_scope] using fun _ _ => hnames

theorem only_sections : ∀ p ∈ b.sections, ∀ step ∈ p.2.2, step.Only fun _ _ => True := by
  have hall {steps : List Step} (h : ∀ step ∈ steps, step.Only Untyped) :
      ∀ step ∈ steps, step.Only fun _ _ => True :=
    fun step hstep => (h step hstep).mono fun _ _ _ => trivial
  simp only [sections, List.forall_mem_cons]
  exact ⟨hall b.only_projectSection, hall b.only_siteSection, hall b.only_buildingSection,
    hall b.only_storeySection, hall b.only_spaceSection, hall b.only_zoneSection,
    b.only_typeSection, b.only_componentSection, hall b.only_systemSection,
    List.forall_mem_nil _⟩

/-- Every step of the rulebook makes a rule or goes on. -/
theorem only_program : ∀ step ∈ b.program, step.Only fun _ _ => True := by
  have hsections := b.only_sections
  simp only [sections, List.forall_mem_cons] at hsections
  simpa [program, spatialSections, objectSections, Step.Only.plain, Step.only_scope] using hsections

variable {b} {x : Creation} {n : Nat} {stages : StageWindow} {body : List Step}

/-- What the rulebook makes is made in one of its sections. -/
theorem mem_creations_program : x ∈ creations Scope.root.bare b.program ↔
    ∃ p ∈ b.sections, x ∈ creations (sectionScope p.1 p.2.1) p.2.2 := by
  rw [creations_program, List.mem_flatMap]

/-- The identifiers of the rules of a section begin with its number. -/
theorem under_section (h : x ∈ creations (sectionScope n stages) body) :
    Under (Text.zeroPadded 2 n) x.identifier := by
  have hident : (sectionScope n stages).ident = Text.zeroPadded 2 n := rfl
  have hunder := (under_creations (hident ▸ Text.zeroPadded_ne_empty 2 n) body h).1
  rwa [hident] at hunder

/-- So an identifier tells the section. -/
theorem section_eq {m : Nat} {id : String} (hm : Under (Text.zeroPadded 2 m) id)
    (hn : Under (Text.zeroPadded 2 n) id) : m = n := by
  have hfree (k : Nat) : '_' ∉ (Text.zeroPadded 2 k).toList :=
    List.count_eq_zero.mp (separators_zeroPadded k)
  exact Text.zeroPadded_injective (eq_of_under (i := "") (hfree m) (hfree n) hm hn)

/-- A rule with an identifier of section 07 is made there. -/
theorem mem_typeSection_of_under (hx : x ∈ creations Scope.root.bare b.program)
    (h : Under "07" x.identifier) :
    x ∈ creations (sectionScope 7 (.starting .stage4)) b.typeSection := by
  obtain ⟨p, hp, hmem⟩ := mem_creations_program.mp hx
  have hnumber : p.1 = 7 := section_eq (under_section hmem) h
  simp only [sections, List.mem_cons, List.not_mem_nil, or_false] at hp
  rcases hp with rfl | rfl | rfl | rfl | rfl | rfl | rfl | rfl | rfl <;> cases hnumber
  exact hmem

/-- A rule with an identifier of section 08 is made there. -/
theorem mem_componentSection_of_under (hx : x ∈ creations Scope.root.bare b.program)
    (h : Under "08" x.identifier) :
    x ∈ creations (sectionScope 8 (.starting .stage4)) b.componentSection := by
  obtain ⟨p, hp, hmem⟩ := mem_creations_program.mp hx
  have hnumber : p.1 = 8 := section_eq (under_section hmem) h
  simp only [sections, List.mem_cons, List.not_mem_nil, or_false] at hp
  rcases hp with rfl | rfl | rfl | rfl | rfl | rfl | rfl | rfl | rfl <;> cases hnumber
  exact hmem

/-- A rule of section 07 on the pattern of an attribute is about names of types. -/
theorem namesTypes_of_under (hx : x ∈ creations Scope.root.bare b.program)
    (h : Under "07" x.identifier) (hkind : x.requirement.kind = .attributeMatchesPattern) :
    b.NamesTypes x.applicability x.requirement := by
  rcases b.mem_typeSection (mem_typeSection_of_under hx h) with rfl | ⟨s, hs⟩ | hplain
  · cases hkind
  · exact forall_mem_creations b.only_typeNameSection s x hs
  · exact absurd hkind hplain.1

/-- A rule of section 08 on the pattern of an attribute is about names of components. -/
theorem namesComponents_of_under (hx : x ∈ creations Scope.root.bare b.program)
    (h : Under "08" x.identifier) (hkind : x.requirement.kind = .attributeMatchesPattern) :
    b.NamesComponents x.applicability x.requirement := by
  rcases b.mem_componentSection (mem_componentSection_of_under hx h) with ⟨s, hs⟩ | hplain
  · exact forall_mem_creations b.only_componentNameSection s x hs
  · exact absurd hkind hplain.1

/-- One rule of the rulebook is about the value of the predefined type. -/
theorem eq_undefinedRule (hx : x ∈ creations Scope.root.bare b.program)
    (htyped : Typed x.requirement) : x = b.undefinedRule := by
  have hnot {steps : List Step} {s : Scope} (h : ∀ step ∈ steps, step.Only Untyped)
      (hmem : x ∈ creations s steps) : x = b.undefinedRule :=
    absurd htyped (forall_mem_creations h s x hmem)
  obtain ⟨p, hp, hmem⟩ := mem_creations_program.mp hx
  simp only [sections, List.mem_cons, List.not_mem_nil, or_false] at hp
  rcases hp with rfl | rfl | rfl | rfl | rfl | rfl | rfl | rfl | rfl
  · exact hnot b.only_projectSection hmem
  · exact hnot b.only_siteSection hmem
  · exact hnot b.only_buildingSection hmem
  · exact hnot b.only_storeySection hmem
  · exact hnot b.only_spaceSection hmem
  · exact hnot b.only_zoneSection hmem
  · rcases b.mem_typeSection hmem with h | ⟨s, hs⟩ | hplain
    · exact h
    · obtain ⟨t, k, hrule⟩ := forall_mem_creations b.only_typeNameSection s x hs
      rw [hrule.requirement] at htyped
      cases htyped.1
    · exact absurd htyped hplain.2
  · rcases b.mem_componentSection hmem with ⟨s, hs⟩ | hplain
    · obtain ⟨t, k, hrule⟩ := forall_mem_creations b.only_componentNameSection s x hs
      obtain ⟨pattern, -, hrequirement⟩ := hrule.requirement
      rw [hrequirement] at htyped
      cases htyped.1
    · exact absurd htyped hplain.2
  · exact hnot b.only_systemSection hmem

/-- Rules 07.02 and 07.03 are among those of a rulebook all of whose rules can be made. -/
theorem enumeratedRules_mem_program (h : failures b.program = []) :
    b.definedRule ∈ creations Scope.root.bare b.program ∧
      b.undefinedRule ∈ creations Scope.root.bare b.program := by
  have hmem : Step.scope .sectional "" b.typeSection ∈ b.program := by
    simp [program, objectSections]
  have hsection := failures_eq_nil_of_mem h hmem
  rw [failures_scope] at hsection
  have hrules := b.enumeratedRules_mem hsection
  have hnumbered : (7, .starting .stage4, b.typeSection) ∈ b.sections := by simp [sections]
  exact ⟨mem_creations_program.mpr ⟨_, hnumbered, hrules.1⟩,
    mem_creations_program.mpr ⟨_, hnumbered, hrules.2⟩⟩

end Rulebook

end Eir
