import Eir.Proofs.Sample.Presence

/-!
# Occurrences agree with the rules about their names

A sample of an occurrence with the tag of a rule of section 08.02 was named by the
code that the pattern of the rule is made from: the rule is about its type, and
about its sub-kind where the code has others for sub-kinds
(`Namer.pattern_of_code`). So its name matches the pattern just when it is meant to
(`occurrences_agree`).
-/

namespace Eir

open Compiler IndexedRule Pattern

/-! ## Codes -/

namespace Namer

variable {n : Namer} {kind : String} {code : TypeCode} {k subKind label : Option String}

/-- Where there is a code, the pattern of a rule is made from the decision on the names that the
rule is about. -/
theorem pattern_of_code (hcode : n.code? kind = some code) (hkind : k = none ∨ k = subKind)
    (hoverrides : k.isSome = code.hasOverrides) {pattern : String}
    (hrule : n.rulePattern? kind k = some pattern) :
    pattern = (n.decide kind subKind label).pattern .convention ∧
      ((∃ c, n.decide kind subKind label = .sequence c) ∨
        ∃ c, n.decide kind subKind label = .spatial c) := by
  have hfound : n.codes.get? (n.conventions.entityLabel kind) = some code := hcode
  have hsame : n.decide kind k none = n.decide kind subKind label := by
    rcases hkind with rfl | rfl
    · simp only [decide, hfound, ← hoverrides, Option.isSome_none, Bool.false_eq_true, if_false]
    · simp only [decide, hfound]
  have hshape : (∃ c, n.decide kind subKind label = .sequence c) ∨
      ∃ c, n.decide kind subKind label = .spatial c := by
    simp only [decide, hfound]
    split
    · exact .inl ⟨_, rfl⟩
    · split
      · exact .inr ⟨_, rfl⟩
      · exact .inl ⟨_, rfl⟩
  refine ⟨?_, hshape⟩
  have hconvention : (n.decide kind subKind label).hasConvention = true := by
    rcases hshape with ⟨c, hc⟩ | ⟨c, hc⟩ <;> rw [hc] <;> rfl
  rw [rulePattern?, hsame] at hrule
  exact (Option.some.inj ((if_pos hconvention).symm.trans hrule)).symm

end Namer

/-! ## Rules about components -/

namespace Rulebook.Yields

variable {b : Rulebook} {i : Inputs} {settings : CompilerSettings} {rules : CompiledRules}

/-- An identifier of section 08 that is looked up for names of objects of a type is that of a rule
about the names of the components of this type. -/
theorem componentRule_of_lookup (h : b.Yields i settings rules)
    (hkeyed : Catalog.Keyed b.occurrenceSchema.catalog.entries) {t : EntityType}
    (ht : b.occurrenceSchema.catalog.find? t.name = some t) {subKind : Option String} {id : String}
    (hid : rules.index.lookup? (.of t.name subKind .attributeMatchesPattern "Name") = some id)
    (hunder : Under "08" id) :
    ∃ k a r, b.ComponentNameRule t k a r ∧ (k = none ∨ k = subKind) ∧
      ∃ spec ∈ rules.specifications, spec.identifier = id ∧
        spec.applicability.Selects t.name subKind ∧ spec.requirement.facets = [r.facet] := by
  refine h.nameRule_of_lookup ht hid (fun x hx hid hkind =>
    namesComponents_of_under hx (hid ▸ hunder) hkind) fun u k a r hrule => ?_
  -- The type of the rule is the one that is found under its name.
  obtain ⟨name, -, types, htypes, hmem⟩ := hrule.listed
  obtain ⟨v, hv, hfacets⟩ := hrule.facets
  have hu := SchemaView.find?_of_mem_concreteSubtypes hkeyed htypes hmem
  obtain rfl : u = v := Option.some.inj (hu.symm.trans (SchemaView.find?_of_find? hv))
  exact ⟨hu, hfacets⟩

/-- No rule of section 08 is about the value of the predefined type. -/
theorem not_under_of_typed (h : b.Yields i settings rules) {name id : String}
    (hid : rules.index.lookup? (.of name none .attributeHasValue "PredefinedType") = some id) :
    ¬ Under "08" id := by
  rw [(h.undefinedRule_of_lookup hid).1, identifier_undefinedRule]
  have hseven : Under "07" "07_03" := ⟨"_03".toList, rfl, Text.stopsAt_cons rfl⟩
  exact fun height => absurd (section_eq (m := 8) (n := 7) height hseven) (by decide)

end Rulebook.Yields

/-! ## Names of samples -/

namespace SampleSources

variable {s : SampleSources} {o : Occurrence}

/-- The spaces of the occurrences have names of spaces. -/
theorem containers_mem_spaceNames :
    goodElementRoom.toList ∈ spaceNames ∧ badElementRoom.toList ∈ spaceNames :=
  ⟨NamingDecision.mem_spaceNames.mpr (by decide +kernel),
    NamingDecision.mem_spaceNames.mpr (by decide +kernel)⟩

/-- A decision by a code gives names that match the pattern of the rule, and such as do not once
they are broken. -/
theorem decides_convention {d : NamingDecision}
    (hd : (∃ c, d = .sequence c) ∨ ∃ c, d = .spatial c) (number : Nat) :
    Decides (d.pattern .convention) (d.render (d.counterKey goodElementRoom) number) true ∧
      Decides (d.pattern .convention) (d.broken badElementRoom number) false := by
  have hgood : (d.render (d.counterKey goodElementRoom) number).toList ∈ d.names .convention := by
    rcases hd with ⟨c, rfl⟩ | ⟨c, rfl⟩
    · exact NamingDecision.render_mem_names (.sequence c) goodElementRoom number
    · exact NamingDecision.render_mem_convention containers_mem_spaceNames.1 number
  have hconvention : d.hasConvention = true := by
    rcases hd with ⟨c, rfl⟩ | ⟨c, rfl⟩ <;> rfl
  exact ⟨NamingDecision.decides_pattern (iff_of_true rfl hgood),
    NamingDecision.decides_pattern
      (iff_of_false nofun (d.broken_not_mem_convention badElementRoom number hconvention))⟩

/-- A tag of section 08.02 of an occurrence is that of a rule about its type, if there is none about
its type object there. -/
theorem lookup_logical {rules : CompiledRules} {b : Rulebook} {settings : CompilerSettings}
    (h : b.Yields s.inputs settings rules) (hindex : s.index = rules.index)
    (hview : s.logicalView = b.occurrenceSchema)
    (hkeyed : Catalog.Keyed b.occurrenceSchema.catalog.entries) {t : EntityType}
    (ht : b.occurrenceSchema.catalog.find? t.name = some t)
    (ho : s.synthesizer.occurrence t = .ok o)
    (hapart : ∀ name ∈ Rulebook.componentTypes, ∀ types,
      s.logicalView.concreteSubtypes name = .ok types → t ∉ types)
    {subKind : Option String} {id : String} (hid : s.synthesizer.namingTag o subKind = some id)
    (hunder : Under "08" id) :
    ∃ k a r, b.ComponentNameRule o.logical k a r ∧ (k = none ∨ k = subKind) ∧
      ∃ spec ∈ rules.specifications, spec.identifier = id ∧
        spec.applicability.Selects o.logical.name subKind ∧ spec.requirement.facets = [r.facet] := by
  obtain ⟨htype, name, hname⟩ := Synthesizer.spec_of_occurrence ho
  have hlogical : b.occurrenceSchema.catalog.find? o.logical.name = some o.logical := by
    have hfound : s.logicalView.find? name = some o.logical := hname
    rw [hview] at hfound
    exact Catalog.find?_name hkeyed (SchemaView.find?_of_find? hfound)
  have hlookup : (rules.index.lookup? (.of o.logical.name subKind .attributeMatchesPattern
      "Name")).or (rules.index.lookup? (.of t.name subKind .attributeMatchesPattern "Name")) =
        some id := by
    rw [← hindex, ← htype]
    exact hid
  rcases Option.or_eq_some_iff.mp hlookup with hfirst | ⟨-, hsecond⟩
  · exact h.componentRule_of_lookup hkeyed hlogical hfirst hunder
  · obtain ⟨k, a, r, hrule, -⟩ := h.componentRule_of_lookup hkeyed ht hsecond hunder
    obtain ⟨name, hcomponent, types, htypes, hmem⟩ := hrule.listed
    exact absurd hmem (hapart name (List.mem_filter.mp hcomponent).1 types (hview ▸ htypes))

section Judges

variable {rules : CompiledRules} {b : Rulebook} {settings : CompilerSettings}
  (h : b.Yields s.inputs settings rules) (hindex : s.index = rules.index)
  (hview : s.logicalView = b.occurrenceSchema)
  (hkeyed : Catalog.Keyed b.occurrenceSchema.catalog.entries) {t : EntityType}
  (ht : b.occurrenceSchema.catalog.find? t.name = some t)
  (ho : s.synthesizer.occurrence t = .ok o)
  (hapart : ∀ name ∈ Rulebook.componentTypes, ∀ types,
    s.logicalView.concreteSubtypes name = .ok types → t ∉ types)

include h hindex hview hkeyed ht ho hapart

/-- The rule of a tag judges the names that are decided for the sub-kind. -/
theorem judges_of_tag {subKind : Option String} {id : String}
    (hid : s.synthesizer.namingTag o subKind = some id) (hunder : Under "08" id)
    {d : NamingDecision} {label : Option String}
    (hd : d = s.inputs.namer.decide o.logical.name subKind label) (number : Nat) {x : Sample}
    (hkind : x.subKind = subKind)
    (hname : x.conforming = true ∧ x.name = d.render (d.counterKey goodElementRoom) number ∨
      x.conforming = false ∧ x.name = d.broken badElementRoom number) :
    rules.Judges id o.logical.name x := by
  obtain ⟨k, a, r, hrule, hk, spec, hspec, hidentifier, hselects, hfacets⟩ :=
    lookup_logical h hindex hview hkeyed ht ho hapart hid hunder
  obtain ⟨code, hcode, hoverrides⟩ := hrule.code
  obtain ⟨pattern, hpattern, hrequirement⟩ := hrule.requirement
  rw [h.namer] at hcode hpattern
  obtain ⟨hsame, hshape⟩ := Namer.pattern_of_code hcode hk hoverrides hpattern
  rw [← hd] at hsame hshape
  refine ⟨d.pattern .convention, ⟨spec, hspec, hidentifier, hkind ▸ hselects, ?_⟩, ?_⟩
  · rw [hfacets, hrequirement, hsame]
    rfl
  · obtain ⟨hgood, hbad⟩ := decides_convention hshape number
    rcases hname with ⟨hconforming, hname⟩ | ⟨hconforming, hname⟩ <;> rw [hconforming, hname]
    · exact hgood
    · exact hbad

theorem judges_of_makes {kinds : List (Option String)} {x : Sample}
    (hx : s.synthesizer.Makes o kinds x) {id : String} (hid : id ∈ x.tags)
    (hunder : Under "08" id) : rules.Judges id x.logicalEntity x := by
  cases hx with
  | good typeName number _ _ hd =>
    exact judges_of_tag h hindex hview hkeyed ht ho hapart (Option.mem_toList.mp hid) hunder hd
      number rfl (.inl ⟨rfl, Synthesizer.name_sample o _ goodElementRoom _ typeName true⟩)
  | bad typeName number _ _ hd =>
    exact judges_of_tag h hindex hview hkeyed ht ho hapart (Option.mem_toList.mp hid) hunder hd
      number rfl (.inr ⟨rfl, Synthesizer.name_sample o _ badElementRoom _ typeName false⟩)
  | undefined name typeName _ =>
    have hlookup : rules.index.lookup? (.of o.typeObject.name none .attributeHasValue
        "PredefinedType") = some id := by
      rw [← hindex]
      exact Option.mem_toList.mp hid
    exact absurd hunder (h.not_under_of_typed hlookup)

end Judges

/-- **Occurrences agree with the rules about their names.** When all rules of stage 5 can be
compiled and the metadata model be made with them, and no type below the type roots is one of the
components, then every occurrence that is made for a type stands in the model. With the tag of a
rule of section 08.02, it is an object that a rule with this identifier selects, and its name
matches the pattern of the rule just when it is meant to pass. -/
theorem occurrences_agree (i : Inputs) (rows : List CatalogRow)
    (hcatalog : Catalog.ofRows rows = .ok i.catalog) (date : Date) (rules : CompiledRules)
    (hrules : i.allRules date .stage5 = .ok rules) (m : SampleModel)
    (hmodel : (SampleSources.mk i rules.index).metadataModel = .ok m)
    (hapart : ∀ below, (SampleSources.mk i rules.index).synthesizer.typesBelow
      (SampleSources.mk i rules.index).typeRoots = .ok below → ∀ t ∈ below,
        ∀ name ∈ Rulebook.componentTypes, ∀ types,
          (SampleSources.mk i rules.index).logicalView.concreteSubtypes name = .ok types →
            t ∉ types) :
    let s := SampleSources.mk i rules.index
    ∃ occurrences counters,
      (s.synthesizer.synthesize s.typeRoots).run .fresh = .ok (occurrences, counters) ∧
      ∀ x ∈ occurrences, (∃ y ∈ m.samples, y.Furnishes x) ∧
        ∀ id ∈ x.tags, Under "08_02" id → rules.Judges id x.logicalEntity x := by
  intro s
  have hyields := Inputs.yields_allRules hrules
  obtain ⟨below, occurrences, places, furnished, broken, hparts⟩ := parts_of_metadataModel hmodel
  obtain ⟨counters, hsynthesized⟩ := hparts.synthesized
  refine ⟨occurrences, counters, hsynthesized, fun x hx =>
    ⟨hparts.exists_of_occurrence hx, fun id hid hunder => ?_⟩⟩
  have hkeyed : Catalog.Keyed s.logicalView.catalog.entries := by
    rw [catalog_logicalView]
    exact Catalog.keyed_of_ofRows hcatalog
  obtain ⟨types, htypes, hmade⟩ := Synthesizer.exists_of_mem_synthesize hsynthesized
  obtain rfl : types = below := Except.ok.inj (htypes.symm.trans hparts.below)
  obtain ⟨t, ht, st, samples, st', hrun, hmem⟩ := hmade x hx
  obtain ⟨o, ho, hmakes⟩ := Synthesizer.makes_samplesOf hrun
  have hown := find?_of_mem_typesBelow hkeyed htypes ht
  exact judges_of_makes hyields rfl hyields.occurrenceSchema.symm hkeyed hown ho
    (hapart types htypes t ht) (hmakes x hmem) hid
    (under_of_slotIdent (i := "08") (t := "02") (by decide) hunder).1

/-- A door of the house has the tag of the rule about doors, and meets it. -/
theorem door_of_house :
    Catalog.ofRows houseRows = .ok Inputs.ofHouse.catalog ∧
    ∃ rules m, Inputs.ofHouse.allRules default .stage5 = .ok rules ∧
      (ofHouse rules.index).metadataModel = .ok m ∧
      ∃ x, (∃ y ∈ m.samples, y.Furnishes x) ∧ x.conforming = true ∧ x.tags = ["08_02_Door"] ∧
        rules.Judges "08_02_Door" "IfcDoor" x := by
  obtain ⟨rules, hrules⟩ := Inputs.exists_rules_of_house default
  obtain ⟨m, hmodel⟩ := exists_model_of_house rules.index
  obtain ⟨occurrences, counters, hsynthesized, hagree⟩ := occurrences_agree Inputs.ofHouse houseRows
    Inputs.catalog_of_house default rules hrules m hmodel fun _ hbelow _ => apart_of_house hbelow
  obtain ⟨x, hx, hconforming, hlogical, htags⟩ := exists_door_of_house hrules hsynthesized
  obtain ⟨hstands, hjudged⟩ := hagree x hx
  have hunder : Under "08_02" "08_02_Door" := ⟨"_Door".toList, rfl, Text.stopsAt_cons rfl⟩
  refine ⟨Inputs.catalog_of_house, rules, m, hrules, hmodel, x, hstands, hconforming, htags, ?_⟩
  exact hlogical ▸ hjudged "08_02_Door" (htags ▸ List.mem_singleton_self _) hunder

end SampleSources

end Eir
