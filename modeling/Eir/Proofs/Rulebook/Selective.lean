import Eir.Proofs.Compiler.Acceptable
import Eir.Proofs.Rulebook.Passes
import Eir.Proofs.Sample.Synthesis

/-!
# Every rule of the rulebook selects something

However objects are selected, by their types, by a class or by a predefined type,
there is a facet that does it (`SchemaView.facets_select`). So all that the rulebook
makes can be accepted, whatever the tables and the settings that it is written from
(`Rulebook.selective_program`).
-/

namespace Eir

theorem facets_entitySelector (label : String) (names : List String) :
    (entitySelector label names).facets ≠ [] := by
  simp [entitySelector, FacetGroup.addFacet]

namespace SchemaView

variable {v : SchemaView} {label : String} {a : FacetGroup}

theorem facets_select {entities : List String} (h : v.select label entities = .ok a) :
    a.facets ≠ [] := by
  obtain ⟨found, -, h⟩ := exists_of_bind_ok h
  split at h
  · cases h
  · obtain rfl := Except.ok.inj h
    exact facets_entitySelector label _

theorem facets_selectExact_ne_nil {entity : String} (h : v.selectExact label entity = .ok a) :
    a.facets ≠ [] := by
  obtain ⟨t, -, h⟩ := exists_of_bind_ok h
  obtain rfl := Except.ok.inj h
  exact facets_entitySelector label _

end SchemaView

namespace FacetGroup

theorem facets_classified (g : FacetGroup) (system : Constraint) (codes : List String) :
    (g.classified system codes).facets ≠ [] := by
  simp [classified, addFacet]

theorem length_narrowFirst (predefinedType : String) (fs : List Facet) :
    (narrowFirst predefinedType fs).length = fs.length := by
  induction fs with
  | nil => rfl
  | cons f fs ih =>
    cases f with
    | entity types old => rfl
    | _ => rw [narrowFirst, List.length_cons, List.length_cons, ih]; simp

theorem facets_withPredefinedType_ne_nil {g : FacetGroup} (h : g.facets ≠ [])
    (predefinedType : String) : (g.withPredefinedType predefinedType).facets ≠ [] := by
  rw [← List.length_pos_iff] at h ⊢
  rwa [withPredefinedType, length_narrowFirst]

end FacetGroup

namespace Step

/-- The steps about a selection are selective if those about any objects with a facet are. -/
theorem selective_about {selection : Except Fault FacetGroup} {steps : FacetGroup → List Step}
    (hfacets : ∀ a, selection = .ok a → a.facets ≠ [])
    (h : ∀ a, a.facets ≠ [] → ∀ step ∈ steps a, step.Selective) :
    ∀ step ∈ about selection steps, step.Selective := by
  rw [forall_mem_about]
  exact ⟨fun _ _ => .plain (by simp) (by simp) (by simp), fun a ha => h a (hfacets a ha)⟩

/-- A step that makes no rule and opens no scope. -/
theorem selective_of_setter {step : Step} {f : Scope → Scope} (h : step.setter? = some f) :
    step.Selective := by
  refine .plain (fun a r title hstep => ?_) (fun a hstep => ?_) (fun kind name body hstep => ?_) <;>
    rw [hstep] at h <;> cases h

end Step

namespace Rulebook

variable (b : Rulebook)

/-! ## Spaces and what is around them -/

theorem selective_projectSection : ∀ step ∈ b.projectSection, step.Selective := by
  refine List.forall_mem_cons.mpr ⟨Step.selective_of_setter rfl,
    Step.selective_about (fun _ => SchemaView.facets_select) fun a ha => ?_⟩
  simp only [identityRules, List.forall_mem_append, List.forall_mem_cons, Step.forall_mem_rules]
  simp [Step.selective_create, ha]

theorem selective_siteSection : ∀ step ∈ b.siteSection, step.Selective := by
  refine List.forall_mem_cons.mpr ⟨Step.selective_of_setter rfl,
    Step.selective_about (fun _ => SchemaView.facets_select) fun a ha => ?_⟩
  simp [identityRules, Step.selective_create, ha]

theorem selective_buildingSection : ∀ step ∈ b.buildingSection, step.Selective := by
  refine List.forall_mem_cons.mpr ⟨Step.selective_of_setter rfl,
    Step.selective_about (fun _ => SchemaView.facets_select) fun a ha => ?_⟩
  simp only [identityRules, List.forall_mem_append, List.forall_mem_cons, Step.forall_mem_rules]
  simp [Step.selective_create, ha]

theorem selective_storeySection : ∀ step ∈ b.storeySection, step.Selective := by
  refine List.forall_mem_cons.mpr ⟨Step.selective_of_setter rfl,
    Step.selective_about (fun _ => SchemaView.facets_select) fun a ha => ?_⟩
  simp only [List.forall_mem_append, List.forall_mem_cons, Step.forall_mem_rules]
  simp [Step.Selective.plain, Step.selective_create, ha]

theorem selective_consistencySection : ∀ step ∈ b.consistencySection, step.Selective := by
  refine List.forall_mem_append.mpr ⟨by simp [Step.Selective.plain],
    List.forall_mem_flatMap.mpr fun sheets _ => List.forall_mem_cons.mpr
      ⟨Step.selective_of_setter rfl, Step.selective_about (fun a ha => ?_) fun a ha => ?_⟩⟩
  · obtain ⟨found, -, hclassified⟩ := exists_of_bind_ok ha
    obtain rfl := Except.ok.inj hclassified
    exact FacetGroup.facets_classified found _ _
  · simp [Step.rules, Step.selective_create, ha]

theorem selective_spaceSection : ∀ step ∈ b.spaceSection, step.Selective := by
  refine List.forall_mem_cons.mpr ⟨Step.selective_of_setter rfl,
    Step.selective_about (fun _ => SchemaView.facets_select) fun a ha => ?_⟩
  simp only [List.forall_mem_append, List.forall_mem_cons, Step.forall_mem_rules,
    Step.forall_mem_within, Step.selective_scope]
  simpa [Step.Selective.plain, Step.selective_create, ha] using b.selective_consistencySection

theorem selective_zoneSection : ∀ step ∈ b.zoneSection, step.Selective := by
  refine List.forall_mem_append.mpr ⟨by simp [Step.Selective.plain],
    Step.selective_about (fun _ => SchemaView.facets_select) fun a ha => ?_⟩
  simp only [List.forall_mem_append, List.forall_mem_cons, Step.forall_mem_rules]
  simp [Step.Selective.plain, Step.selective_create, ha]

/-! ## Types -/

theorem selective_typeNameRule (t : EntityType) (subKind : Option String) :
    ∀ step ∈ b.typeNameRule t subKind, step.Selective := by
  refine Step.selective_about (fun _ => SchemaView.facets_selectExact_ne_nil) fun a ha => ?_
  cases subKind with
  | none => simp [Step.rules, Step.selective_create, ha]
  | some k =>
    have hnarrowed := FacetGroup.facets_withPredefinedType_ne_nil ha k
    simp [Step.rules, Step.selective_create, hnarrowed]

theorem selective_typeNameRules (t : EntityType) :
    ∀ step ∈ b.typeNameRules t, step.Selective := by
  rw [typeNameRules]
  split
  · exact List.forall_mem_singleton.mpr (.scope (List.forall_mem_flatMap.mpr fun k _ =>
      List.forall_mem_cons.mpr ⟨Step.selective_of_setter rfl, b.selective_typeNameRule t (some k)⟩))
  · exact List.forall_mem_cons.mpr
      ⟨Step.selective_of_setter rfl, b.selective_typeNameRule t none⟩

theorem selective_typeNameSection : ∀ step ∈ b.typeNameSection, step.Selective := by
  refine List.forall_mem_append.mpr ⟨by simp [Step.Selective.plain], ?_⟩
  split
  · exact List.forall_mem_singleton.mpr (.plain (by simp) (by simp) (by simp))
  · exact List.forall_mem_flatMap.mpr fun t _ => b.selective_typeNameRules t

theorem selective_productRules : ∀ step ∈ b.productRules, step.Selective := by
  refine Step.selective_about (fun _ => SchemaView.facets_select) fun a ha => ?_
  simp only [warrantyRules, propertyRules, List.forall_mem_append, Step.forall_mem_rules,
    Step.forall_mem_within]
  simp [Step.Selective.plain, Step.selective_create, ha]

theorem facets_enumeratedSelection (v : SchemaView) : (enumeratedSelection v).facets ≠ [] := by
  simp [enumeratedSelection, FacetGroup.addFacet]

theorem selective_typeSection : ∀ step ∈ b.typeSection, step.Selective := by
  refine List.forall_mem_cons.mpr ⟨Step.selective_of_setter rfl,
    Step.selective_about (fun _ => SchemaView.facets_select) fun a ha => ?_⟩
  refine List.forall_mem_append.mpr ⟨?_, b.selective_productRules⟩
  simp only [List.forall_mem_cons, Step.selective_scope]
  simpa [Step.Selective.plain, Step.selective_create, ha, facets_enumeratedSelection] using
    b.selective_typeNameSection

/-! ## Components and systems -/

theorem selective_componentNameRule (t : EntityType) (subKind : Option String)
    (slot pattern : String) :
    ∀ step ∈ b.componentNameRule t subKind slot pattern, step.Selective := by
  refine List.forall_mem_cons.mpr ⟨Step.selective_of_setter rfl,
    Step.selective_about (fun _ => SchemaView.facets_selectExact_ne_nil) fun a ha => ?_⟩
  cases subKind with
  | none => simp [Step.rules, Step.selective_create, ha]
  | some k =>
    have hnarrowed := FacetGroup.facets_withPredefinedType_ne_nil ha k
    simp [Step.rules, Step.selective_create, hnarrowed]

theorem selective_componentNameRules (t : EntityType) :
    ∀ step ∈ b.componentNameRules t, step.Selective := by
  rw [componentNameRules]
  split
  · exact List.forall_mem_nil _
  · split
    · split
      · exact List.forall_mem_nil _
      · refine List.forall_mem_singleton.mpr (.scope (List.forall_mem_flatMap.mpr fun k _ => ?_))
        split
        · exact List.forall_mem_nil _
        · exact b.selective_componentNameRule t _ _ _
    · split
      · exact List.forall_mem_nil _
      · exact b.selective_componentNameRule t _ _ _

theorem selective_componentNameSection : ∀ step ∈ b.componentNameSection, step.Selective := by
  refine List.forall_mem_append.mpr ⟨by simp [Step.Selective.plain], ?_⟩
  split
  · exact List.forall_mem_singleton.mpr (.plain (by simp) (by simp) (by simp))
  · exact List.forall_mem_flatMap.mpr fun t _ => b.selective_componentNameRules t

theorem selective_componentSection : ∀ step ∈ b.componentSection, step.Selective := by
  refine List.forall_mem_cons.mpr ⟨Step.selective_of_setter rfl,
    Step.selective_about (fun _ => SchemaView.facets_select) fun a ha => ?_⟩
  refine List.forall_mem_append.mpr ⟨?_, List.forall_mem_cons.mpr ⟨Step.selective_of_setter rfl,
    Step.selective_about (fun _ => SchemaView.facets_select) fun doors hdoors => ?_⟩⟩
  · simp only [List.forall_mem_append, List.forall_mem_cons, Step.forall_mem_rules,
      Step.selective_scope]
    simpa [Step.Selective.plain, Step.selective_create, ha] using b.selective_componentNameSection
  · simp only [List.forall_mem_append, List.forall_mem_cons, Step.forall_mem_rules]
    simp [Step.Selective.plain, Step.selective_create, hdoors]

theorem selective_systemSection : ∀ step ∈ b.systemSection, step.Selective := by
  refine List.forall_mem_cons.mpr ⟨Step.selective_of_setter rfl,
    Step.selective_about (fun _ => SchemaView.facets_selectExact_ne_nil) fun a ha => ?_⟩
  simp only [List.forall_mem_append, List.forall_mem_cons, Step.forall_mem_rules]
  simp [Step.Selective.plain, Step.selective_create, ha]

/-! ## The whole rulebook -/

/-- Every rule of the rulebook selects objects by some facet, and has a title. -/
theorem selective_program : ∀ step ∈ b.program, step.Selective := by
  simp only [program, spatialSections, objectSections, List.forall_mem_cons,
    List.forall_mem_append, List.map_cons, List.map_nil, Step.selective_scope]
  have hnone : ∀ step ∈ ([] : List Step), step.Selective := List.forall_mem_nil _
  exact ⟨⟨⟨Step.selective_of_setter rfl, Step.selective_of_setter rfl, hnone⟩,
    b.selective_projectSection, b.selective_siteSection, b.selective_buildingSection,
    b.selective_storeySection, b.selective_spaceSection, b.selective_zoneSection, hnone⟩,
    Step.selective_of_setter rfl, b.selective_typeSection, b.selective_componentSection,
    b.selective_systemSection, hnone⟩

end Rulebook

end Eir
