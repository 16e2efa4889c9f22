import Eir.Proofs.Sample.Presence
import Eir.Proofs.Text.Affix

/-!
# Objects of the undefined kind

Rules 07.02 and 07.03 select the type objects that list predefined types, but none
whose name begins with that of a space. So a sample of the undefined kind has the
identifier of rule 07.03, unless the name of its type object begins so: then it has
no tag, and neither rule is about it (`undefined_samples_have_rule`).
-/

namespace Eir

open Compiler IndexedRule

/-! ## Types that list predefined types -/

namespace Rulebook

variable {b : Rulebook} {v : SchemaView} {t : EntityType} {name : String}

/-- The name of the type begins with that of a space. -/
def NamedAsSpace (name : String) : Prop := "IFCSPACE".toList <+: name.toUpper.toList

theorem mem_enumeratedTypes {upper : String} : upper ∈ enumeratedTypes v ↔
    ∃ t ∈ v.types, "TYPE".toList <:+ upper.toList ∧ t.subKinds ≠ [] ∧ ¬ NamedAsSpace t.name ∧
      t.upperName = upper := by
  simp only [enumeratedTypes, List.mem_mergeSort, List.mem_map, List.mem_filter, Bool.and_eq_true,
    Text.isSome_stripSuffix?, Option.isNone_iff_eq_none, Text.stripPrefix?_eq_none,
    Bool.not_eq_true', List.isEmpty_eq_false_iff, NamedAsSpace]
  constructor
  · rintro ⟨t, ⟨ht, ⟨hsuffix, hkinds⟩, hspace⟩, rfl⟩
    exact ⟨t, ht, hsuffix, hkinds, hspace, rfl⟩
  · rintro ⟨t, ht, hsuffix, hkinds, hspace, rfl⟩
    exact ⟨t, ⟨ht, ⟨hsuffix, hkinds⟩, hspace⟩, rfl⟩

/-- A type object of the view that has predefined types is among those that list some, unless
its name begins as that of a space does. -/
theorem upperName_mem_iff (h : t ∈ v.types) (hkinds : t.subKinds ≠ [])
    (hsuffix : ∃ stem, t.name = stem ++ "Type") :
    t.upperName ∈ enumeratedTypes v ↔ ¬ NamedAsSpace t.name := by
  rw [mem_enumeratedTypes]
  constructor
  · rintro ⟨u, -, -, -, hspace, hname⟩
    have hupper : u.name.toUpper = t.name.toUpper := hname
    rwa [NamedAsSpace, hupper] at hspace
  · intro hspace
    refine ⟨t, h, ?_, hkinds, hspace, rfl⟩
    obtain ⟨stem, hstem⟩ := hsuffix
    rw [EntityType.upperName, hstem, String.toUpper, String.toList_map, String.toList_append,
      List.map_append]
    exact List.suffix_append _ _

theorem selects_enumerated (h : t.upperName ∈ enumeratedTypes v) (subKind : Option String) :
    (enumeratedSelection v).Selects t.name subKind :=
  ⟨.list (enumeratedTypes v), none, rfl, h, nofun⟩

/-- Rule 07.03 answers for the predefined types of the types that list some. -/
theorem answers_undefinedRule :
    b.undefinedRule.indexed.answers (.of name none .attributeHasValue "PredefinedType") = true ↔
      name.toUpper ∈ enumeratedTypes b.schema := by
  have hnames : (enumeratedSelection b.schema).entityNames = enumeratedTypes b.schema := rfl
  have hupper : ∀ u ∈ enumeratedTypes b.schema, u.toUpper = u := by
    intro u hu
    obtain ⟨t, -, -, -, -, rfl⟩ := mem_enumeratedTypes.mp hu
    exact toUpper_toUpper t.name
  have hany : (enumeratedTypes b.schema).any (·.toUpper == name.toUpper) = true ↔
      name.toUpper ∈ enumeratedTypes b.schema := by
    simp only [List.any_eq_true, beq_iff_eq]
    constructor
    · rintro ⟨u, hu, heq⟩
      rwa [← heq, hupper u hu]
    · exact fun h => ⟨_, h, hupper _ h⟩
  rw [← hany, ← hnames]
  simp [answers, Creation.indexed, undefinedRule, RuleKey.of, FacetGroup.predefinedType?,
    enumeratedSelection, FacetGroup.addFacet, FacetGroup.empty, Requirement.kind,
    Requirement.subject]

namespace Yields

variable {i : Inputs} {settings : CompilerSettings} {rules : CompiledRules}

/-- Rules of the core pass from stage 4 on are among all rules of stage 5. -/
theorem applies_later {x : Creation} (hstage : settings.stage = .stage5)
    (hpass : settings.pass = .all) (hstages : x.scope.stages = .starting .stage4)
    (hpasses : x.scope.passes = .coreOnly) : x.applies settings = true := by
  rw [Creation.applies, hstages, hpasses, hstage, hpass]
  decide

/-- Under a type and its predefined type the index has rule 07.03, if the type is listed. -/
theorem lookup_predefinedType (h : b.Yields i settings rules) (hstage : settings.stage = .stage5)
    (hpass : settings.pass = .all) (name : String) :
    (name.toUpper ∈ enumeratedTypes b.schema →
      rules.index.lookup? (.of name none .attributeHasValue "PredefinedType") =
        some b.undefinedRule.identifier) ∧
    (name.toUpper ∉ enumeratedTypes b.schema →
      rules.index.lookup? (.of name none .attributeHasValue "PredefinedType") = none) := by
  have hfound {id : String}
      (hid : rules.index.lookup? (.of name none .attributeHasValue "PredefinedType") = some id) :
      name.toUpper ∈ enumeratedTypes b.schema ∧ id = b.undefinedRule.identifier := by
    obtain ⟨hid, hanswers⟩ := h.undefinedRule_of_lookup hid
    exact ⟨answers_undefinedRule.mp hanswers, hid⟩
  constructor
  · intro hlisted
    obtain ⟨id, hid⟩ := h.exists_lookup (enumeratedRules_mem_program h.failures).2
      (applies_later hstage hpass rfl rfl) (answers_undefinedRule.mpr hlisted)
    rw [hid, (hfound hid).2]
  · intro hlisted
    exact Option.eq_none_iff_forall_ne_some.mpr fun id hid => hlisted (hfound hid).1

/-- Rules 07.02 and 07.03 are among the rules, and each is about the types that are listed. -/
theorem enumeratedRules (h : b.Yields i settings rules) (hstage : settings.stage = .stage5)
    (hpass : settings.pass = .all) :
    (∃ spec ∈ rules.specifications, b.definedRule.Gives spec) ∧
      ∃ spec ∈ rules.specifications, b.undefinedRule.Gives spec := by
  have hmem := enumeratedRules_mem_program h.failures
  exact ⟨h.holds.specifications _ (List.mem_filter.mpr
      ⟨hmem.1, applies_later hstage hpass rfl rfl⟩),
    h.holds.specifications _ (List.mem_filter.mpr ⟨hmem.2, applies_later hstage hpass rfl rfl⟩)⟩

end Yields

end Rulebook

/-! ## Samples of the undefined kind -/

theorem Synthesizer.mem_kindsOf {t : EntityType} {k : String} :
    some k ∈ kindsOf t ↔ k ∈ t.subKinds := by
  rw [kindsOf]
  cases t.subKinds <;> simp

namespace SampleSources

variable {s : SampleSources} {t : EntityType} {x : Sample}

/-- What is made for the undefined kind of a type object has the tag of the rule about its
predefined type. -/
theorem MadeFor.undefined_tags (h : s.MadeFor t x) (hx : x.subKind = some undefinedSubKind) :
    x.tags = (s.tag t.name none .attributeHasValue "PredefinedType").toList ∧ t.subKinds ≠ [] := by
  have hkinds (hmem : some undefinedSubKind ∈ Synthesizer.kindsOf t) : t.subKinds ≠ [] :=
    List.ne_nil_of_mem (Synthesizer.mem_kindsOf.mp hmem)
  rcases h with h | ⟨st, samples, st', hrun, hmem⟩
  · cases s.pushes_typesOfKinds t 1 _ x h with
    | good _ hdefined => exact absurd hx hdefined
    | bad _ hdefined => exact absurd hx hdefined
    | undefined name hmem => exact ⟨rfl, hkinds hmem⟩
  · obtain ⟨o, ho, hmakes⟩ := Synthesizer.makes_samplesOf hrun
    obtain ⟨htype, -⟩ := Synthesizer.spec_of_occurrence ho
    cases hmakes x hmem with
    | good _ _ _ hdefined => exact absurd hx hdefined
    | bad _ _ _ hdefined => exact absurd hx hdefined
    | undefined name typeName hkind =>
      rw [htype]
      exact ⟨rfl, hkinds hkind⟩

/-- The samples of the metadata model that are of the undefined kind are made for type objects
below the roots. -/
theorem exists_of_undefined {m : SampleModel} (h : s.metadataModel = .ok m) {y : Sample}
    (hy : y ∈ m.samples) (hundefined : y.subKind = some undefinedSubKind) :
    ∃ types t x, s.synthesizer.typesBelow s.typeRoots = .ok types ∧ t ∈ types ∧ s.MadeFor t x ∧
      y.Furnishes x := by
  obtain ⟨types, occurrences, places, furnished, broken, hparts⟩ := parts_of_metadataModel h
  obtain ⟨z, hz, hfurnishes⟩ := exists_of_mem_left hparts.stamped hy
  have hkind : z.subKind = some undefinedSubKind := hfurnishes.subKind.symm.trans hundefined
  simp only [List.mem_append] at hz
  rcases hz with ((hz | hz) | hz) | hz
  · exact absurd ((hparts.plain z hz).1.symm.trans hkind) nofun
  · obtain ⟨t, ht, hz⟩ := List.mem_flatMap.mp hz
    exact ⟨types, t, z, hparts.below, ht, .inl hz, hfurnishes⟩
  · obtain ⟨x, hx, hfurnished⟩ := exists_of_mem_left hparts.furnishes hz
    obtain ⟨counters, hsynthesized⟩ := hparts.synthesized
    obtain ⟨types', hbelow, hmade⟩ := Synthesizer.exists_of_mem_synthesize hsynthesized
    obtain ⟨t, ht, hmade⟩ := hmade x hx
    obtain ⟨st, samples, st', hrun, hmem⟩ := hmade
    exact ⟨types', t, x, hbelow, ht, .inr ⟨st, samples, st', hrun, hmem⟩,
      hfurnishes.trans hfurnished⟩
  · exact absurd hkind (hparts.broken z hz).1

/-- What is made for the undefined kind of a type object of the target schema has the tag of rule
07.03, unless the name of the type object begins as that of a space does. -/
theorem MadeFor.undefined_tags_iff {b : Rulebook} {settings : CompilerSettings}
    {rules : CompiledRules} (hyields : b.Yields s.inputs settings rules)
    (hindex : s.index = rules.index) (hstage : settings.stage = .stage5)
    (hpass : settings.pass = .all) (h : s.MadeFor t x) (hx : x.subKind = some undefinedSubKind)
    (ht : t ∈ b.schema.types) (hsuffix : ∃ stem, t.name = stem ++ "Type") :
    (¬ Rulebook.NamedAsSpace t.name →
      t.upperName ∈ Rulebook.enumeratedTypes b.schema ∧ x.tags = [b.undefinedRule.identifier]) ∧
    (Rulebook.NamedAsSpace t.name → x.tags = []) := by
  obtain ⟨htags, hkinds⟩ := h.undefined_tags hx
  have hlisted := Rulebook.upperName_mem_iff ht hkinds hsuffix
  have hlookup := hyields.lookup_predefinedType hstage hpass t.name
  rw [htags, tag, hindex]
  constructor
  · intro hspace
    rw [hlookup.1 (hlisted.mpr hspace)]
    exact ⟨hlisted.mpr hspace, rfl⟩
  · intro hspace
    rw [hlookup.2 fun hmem => hlisted.mp hmem hspace]
    rfl

/-- **Which rules samples of the undefined kind point at.** When all rules of stage 5 can be
compiled and the metadata model be made with them, each of its samples that is of the undefined
kind is made for a type object below the roots. If that is a type of the target schema whose name
ends with `Type`, the sample has a tag just when the name does not begin as that of a space does.
The tag is that of a rule that selects the type object and prohibits the undefined kind. And each
such type object with predefined types, if its name does not begin so, is selected by rules 07.02
and 07.03. -/
theorem undefined_samples_have_rule (i : Inputs) (date : Date) (rules : CompiledRules)
    (hrules : i.allRules date .stage5 = .ok rules) (m : SampleModel)
    (hmodel : (SampleSources.mk i rules.index).metadataModel = .ok m) :
    let s := SampleSources.mk i rules.index
    let types := (i.catalog.view s.dialect).types
    (∀ y ∈ m.samples, y.subKind = some undefinedSubKind →
      (∃ below t x, s.synthesizer.typesBelow s.typeRoots = .ok below ∧ t ∈ below ∧
        s.MadeFor t x ∧ y.Furnishes x) ∧
      ∀ t x, s.MadeFor t x → y.Furnishes x → t ∈ types → (∃ stem, t.name = stem ++ "Type") →
        (y.tags ≠ [] ↔ ¬ Rulebook.NamedAsSpace t.name) ∧
        ∀ id ∈ y.tags, ∃ spec ∈ rules.specifications, spec.identifier = id ∧
          spec.applicability.Selects t.name y.subKind ∧
          spec.requirement.entries =
            [(.attr "PredefinedType" (some (.exact undefinedSubKind)), .prohibited)]) ∧
    ∀ t ∈ types, (∃ stem, t.name = stem ++ "Type") → t.subKinds ≠ [] →
      ¬ Rulebook.NamedAsSpace t.name → ∀ id ∈ ["07_02", "07_03"],
        ∃ spec ∈ rules.specifications, spec.identifier = id ∧
          ∀ subKind, spec.applicability.Selects t.name subKind := by
  intro s types
  have hyields := Inputs.yields_allRules hrules
  have htypes : types = (i.stageRulebook .stage5).schema.types := rfl
  obtain ⟨⟨defined, hdefined, hgivesDefined⟩, ⟨undefined, hundefined, hgivesUndefined⟩⟩ :=
    hyields.enumeratedRules rfl rfl
  have hselects {t : EntityType} (hlisted : t.upperName ∈ Rulebook.enumeratedTypes (i.stageRulebook .stage5).schema)
      (subKind : Option String) : defined.applicability.Selects t.name subKind ∧
        undefined.applicability.Selects t.name subKind := by
    rw [hgivesDefined.applicability, hgivesUndefined.applicability]
    exact ⟨Rulebook.selects_enumerated hlisted subKind, Rulebook.selects_enumerated hlisted subKind⟩
  refine ⟨fun y hy hkind => ⟨exists_of_undefined hmodel hy hkind, ?_⟩, ?_⟩
  · intro t x hmade hfurnishes ht hsuffix
    obtain ⟨htagged, huntagged⟩ := hmade.undefined_tags_iff hyields rfl rfl rfl
      (hfurnishes.subKind.symm.trans hkind) (htypes ▸ ht) hsuffix
    rw [hfurnishes.tags]
    by_cases hspace : Rulebook.NamedAsSpace t.name
    · rw [huntagged hspace]
      exact ⟨iff_of_false (by simp) (not_not_intro hspace), fun id hid => by cases hid⟩
    · obtain ⟨hmem, htags⟩ := htagged hspace
      rw [htags]
      refine ⟨iff_of_true (by simp) hspace, fun id hid => ?_⟩
      obtain rfl := List.mem_singleton.mp hid
      refine ⟨undefined, hundefined, hgivesUndefined.identifier, (hselects hmem _).2, ?_⟩
      rw [hgivesUndefined.requirement]
      rfl
  · intro t ht hsuffix hkinds hspace id hid
    have hmem := (Rulebook.upperName_mem_iff (htypes ▸ ht) hkinds hsuffix).mpr hspace
    rcases List.mem_pair.mp hid with rfl | rfl
    · exact ⟨defined, hdefined, hgivesDefined.identifier.trans
        (i.stageRulebook .stage5).identifier_definedRule, fun subKind => (hselects hmem subKind).1⟩
    · exact ⟨undefined, hundefined, hgivesUndefined.identifier.trans
        (i.stageRulebook .stage5).identifier_undefinedRule, fun subKind => (hselects hmem subKind).2⟩

section House

variable {index : RuleIndex} {types : List EntityType} {m : SampleModel} {name : String}
  {kinds : List String}

theorem mem_view_of_house (h : (ofHouse index).synthesizer.typesBelow (ofHouse index).typeRoots =
    .ok types) (ht : t ∈ types) :
    t ∈ (Inputs.ofHouse.catalog.view (ofHouse index).dialect).types := by
  have hkeyed : Catalog.Keyed (ofHouse index).logicalView.catalog.entries := by
    rw [catalog_logicalView]
    exact Catalog.keyed_of_ofRows Inputs.catalog_of_house
  have hfound := find?_of_mem_typesBelow hkeyed h ht
  rw [catalog_logicalView] at hfound
  have hvalid : ∀ u ∈ Inputs.ofHouse.catalog.types,
      (Inputs.ofHouse.catalog.view .ifc2x3).includes u = true := by decide +kernel
  have hmem := Catalog.mem_types hfound
  exact List.mem_mergeSort.mpr (List.mem_filter.mpr ⟨hmem, hvalid t hmem⟩)

/-- The model of the house has a type of the undefined kind where a type has this kind. -/
theorem exists_undefined_of_house (hmodel : (ofHouse index).metadataModel = .ok m)
    (hlisted : (name, kinds) ∈ houseTypes.map fun row => (row.name, row.subKinds))
    (hkind : undefinedSubKind ∈ kinds) :
    ∃ t x y, t.name = name ∧ t ∈ (Inputs.ofHouse.catalog.view (ofHouse index).dialect).types ∧
      (ofHouse index).MadeFor t x ∧ x.subKind = some undefinedSubKind ∧ y ∈ m.samples ∧
      y.Furnishes x := by
  obtain ⟨types, occurrences, places, furnished, broken, hparts⟩ := parts_of_metadataModel hmodel
  obtain ⟨t, ht, heq⟩ := (mem_types_of_house hparts.below).mpr hlisted
  obtain ⟨rfl, rfl⟩ := Prod.mk.inj heq
  obtain ⟨x, hx, hundefined⟩ := exists_undefined_type (s := ofHouse index) t 1 rfl
    (Synthesizer.mem_kindsOf.mpr hkind)
  obtain ⟨y, hy, hfurnishes⟩ := hparts.exists_of_type (List.mem_flatMap.mpr ⟨t, ht, hx⟩)
  exact ⟨t, x, y, rfl, mem_view_of_house hparts.below ht, .inl hx, hundefined, hy, hfurnishes⟩

/-- The bridge of the undefined kind points at a rule that prohibits this. -/
theorem undefined_bridge_of_house :
    ∃ rules m, Inputs.ofHouse.allRules default .stage5 = .ok rules ∧
      (ofHouse rules.index).metadataModel = .ok m ∧
      ∃ y ∈ m.samples, y.subKind = some undefinedSubKind ∧ y.tags ≠ [] ∧
        ∀ id ∈ y.tags, ∃ spec ∈ rules.specifications, spec.identifier = id ∧
          spec.applicability.Selects "IfcCivilElementType" y.subKind ∧
          spec.requirement.entries =
            [(.attr "PredefinedType" (some (.exact undefinedSubKind)), .prohibited)] := by
  obtain ⟨rules, hrules⟩ := Inputs.exists_rules_of_house default
  obtain ⟨m, hmodel⟩ := exists_model_of_house rules.index
  have hlisted : ("IfcCivilElementType", ["BRIDGE", "NOTDEFINED"]) ∈
      houseTypes.map fun row => (row.name, row.subKinds) := by decide
  obtain ⟨t, x, y, hname, ht, hmade, hundefined, hy, hfurnishes⟩ :=
    exists_undefined_of_house hmodel hlisted (by decide)
  have hkind := hfurnishes.subKind.trans hundefined
  obtain ⟨hpoints, -⟩ := undefined_samples_have_rule Inputs.ofHouse default rules hrules m hmodel
  obtain ⟨htags, hrule⟩ := (hpoints y hy hkind).2 t x hmade hfurnishes ht ⟨"IfcCivilElement", hname⟩
  have hspace : ¬ Rulebook.NamedAsSpace t.name := by
    rw [hname, Rulebook.NamedAsSpace]
    decide +kernel
  exact ⟨rules, m, hrules, hmodel, y, hy, hkind, htags.mpr hspace, hname ▸ hrule⟩

/-- The heater of the undefined kind points at no rule. -/
theorem undefined_heater_of_house :
    ∃ rules m, Inputs.ofHouse.allRules default .stage5 = .ok rules ∧
      (ofHouse rules.index).metadataModel = .ok m ∧
      ∃ t x y, t.name = "IfcSpaceHeaterType" ∧
        t ∈ (Inputs.ofHouse.catalog.view (ofHouse rules.index).dialect).types ∧
        (ofHouse rules.index).MadeFor t x ∧ y ∈ m.samples ∧ y.Furnishes x ∧
        y.subKind = some undefinedSubKind ∧ y.tags = [] := by
  obtain ⟨rules, hrules⟩ := Inputs.exists_rules_of_house default
  obtain ⟨m, hmodel⟩ := exists_model_of_house rules.index
  have hlisted : ("IfcSpaceHeaterType", ["NOTDEFINED"]) ∈
      houseTypes.map fun row => (row.name, row.subKinds) := by decide
  obtain ⟨t, x, y, hname, ht, hmade, hundefined, hy, hfurnishes⟩ :=
    exists_undefined_of_house hmodel hlisted (by decide)
  have hyields := Inputs.yields_allRules hrules
  have hspace : Rulebook.NamedAsSpace t.name := by
    rw [hname, Rulebook.NamedAsSpace]
    decide +kernel
  have htags := (hmade.undefined_tags_iff hyields rfl rfl rfl hundefined ht
    ⟨"IfcSpaceHeater", hname⟩).2 hspace
  exact ⟨rules, m, hrules, hmodel, t, x, y, hname, ht, hmade, hy, hfurnishes,
    hfurnishes.subKind.trans hundefined, hfurnishes.tags.trans htags⟩

end House

end SampleSources

end Eir
