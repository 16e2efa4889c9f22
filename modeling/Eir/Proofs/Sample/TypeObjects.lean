import Eir.Proofs.Naming.TypeNames
import Eir.Proofs.Sample.Presence

/-!
# Samples of type objects

The types and the occurrences of a type object are made by two walks over its
sub-kinds. They count the variants alike, so the type that an occurrence names is
pushed when the occurrence is made (`exists_type_of_mem`). Whatever the rules are,
both stand in the model (`occurrences_refer_to_types`).

A sample of a type object with the tag of a rule of section 07.05 was named after
the shape that the pattern of the rule is made from: the rule is about its
sub-kind, or names tell no sub-kinds of the type object apart
(`typeConvention_of_rule`). So its name matches the pattern just when it is meant
to (`types_agree`).
-/

namespace Eir

/-! ## Types that occurrences name -/

/-- The occurrence names the type, which is of its sub-kind. Only types of the undefined kind fail. -/
structure Sample.RefersTo (x t : Sample) : Prop where
  name : x.typeName = some t.name
  subKind : t.subKind = x.subKind
  conforming : t.conforming = true ↔ x.subKind ≠ some undefinedSubKind

theorem Sample.RefersTo.of_furnishes {x y t u : Sample} (h : x.RefersTo t) (hx : y.Furnishes x)
    (ht : u.Furnishes t) : y.RefersTo u where
  name := by rw [hx.eq, ht.name, ← h.name]
  subKind := by rw [ht.subKind, hx.subKind, h.subKind]
  conforming := by rw [ht.eq, hx.subKind, ← h.conforming]

namespace SampleSources

/-- A sample of an occurrence names the type that has its type name, if that is of its sub-kind. -/
theorem refersTo_typeSample (s : SampleSources) (o : Occurrence) (t : EntityType)
    {subKind : Option String} {passes : Bool} (h : passes = true ↔ subKind ≠ some undefinedSubKind)
    (container name typeName typeContainer : String) (conforming : Bool)
    (tag typeTag : Option String) :
    ((Synthesizer.sample o subKind container name typeName conforming).addTag tag).RefersTo
      ((s.typeSample t subKind typeName typeContainer passes).addTag typeTag) where
  name := congrArg some (name_typeSample s t subKind typeName typeContainer passes).symm
  subKind := rfl
  conforming := h

/-- Whatever is made for the sub-kinds of a type object names a type that is pushed for them, if the
variants are counted from the same number. -/
theorem exists_type_of_mem (s : SampleSources) (o : Occurrence) (variant : Nat)
    (kinds : List (Option String)) (counters : Counters) :
    ∀ x ∈ ((s.synthesizer.samplesOfKinds o variant kinds).run counters).1,
      ∃ t ∈ s.typesOfKinds o.typeObject variant kinds, x.RefersTo t := by
  induction kinds generalizing variant counters with
  | nil => exact fun x hx => by cases hx
  | cons subKind kinds ih =>
    rw [Synthesizer.samplesOfKinds, typesOfKinds]
    split
    · rename_i hundefined
      subst hundefined
      have hpolicy : s.synthesizer.policy.fixtureOccurrences =
          s.inputs.settings.undefinedSubKind.fixtureOccurrences := rfl
      rw [hpolicy]
      -- Neither walk counts the undefined kind, and both leave it out by the same policy.
      cases s.inputs.settings.undefinedSubKind.fixtureOccurrences with
      | true =>
        have hfails : false = true ↔ some undefinedSubKind ≠ some undefinedSubKind :=
          iff_of_false Bool.false_ne_true (not_not_intro rfl)
        refine List.forall_mem_append.mpr ⟨List.forall_mem_singleton.mpr ?_, fun x hx => ?_⟩
        · exact ⟨_, List.mem_append_left _ (List.mem_singleton_self _),
            s.refersTo_typeSample o o.typeObject hfails ..⟩
        · obtain ⟨t, ht, hrefers⟩ := ih variant _ x hx
          exact ⟨t, List.mem_append_right _ ht, hrefers⟩
      | false => exact ih variant counters
    · rename_i hdefined
      have hnames (container name : String) (conforming : Bool) (tag typeTag : Option String) :=
        s.refersTo_typeSample o o.typeObject (iff_of_true rfl hdefined) container name
          ((s.inputs.namer.typeConvention o.typeObject.name subKind).1.sampleName variant)
          s.inputs.settings.fixtures.passContainer conforming tag typeTag
      refine List.forall_mem_append.mpr ⟨List.forall_mem_cons.mpr ⟨?_,
        List.forall_mem_singleton.mpr ?_⟩, fun x hx => ?_⟩
      · exact ⟨_, List.mem_cons_self, hnames ..⟩
      · exact ⟨_, List.mem_cons_self, hnames ..⟩
      · obtain ⟨t, ht, hrefers⟩ := ih (variant + 1) _ x hx
        exact ⟨t, List.mem_cons_of_mem _ (List.mem_cons_of_mem _ ht), hrefers⟩

/-- **Occurrences refer to types that exist.** When the metadata model can be made, whatever the
rules are, each occurrence that is made for it stands in it, and so does a type of the same sub-kind
that is pushed for the type objects and has the name that the occurrence gives for its type. The
type passes unless it is of the undefined kind, and then it fails. -/
theorem occurrences_refer_to_types (s : SampleSources) (m : SampleModel)
    (hmodel : s.metadataModel = .ok m) :
    ∃ types occurrences counters, s.synthesizer.typesBelow s.typeRoots = .ok types ∧
      (s.synthesizer.synthesize s.typeRoots).run .fresh = .ok (occurrences, counters) ∧
      ∀ x ∈ occurrences, (∃ y ∈ m.samples, y.Furnishes x) ∧
        ∃ t ∈ s.typeSamples types, ∃ u ∈ m.samples, u.Furnishes t ∧
          ∀ y ∈ m.samples, y.Furnishes x → y.RefersTo u := by
  obtain ⟨types, occurrences, places, furnished, broken, hparts⟩ := parts_of_metadataModel hmodel
  obtain ⟨counters, hsynthesized⟩ := hparts.synthesized
  refine ⟨types, occurrences, counters, hparts.below, hsynthesized, fun x hx =>
    ⟨hparts.exists_of_occurrence hx, ?_⟩⟩
  obtain ⟨found, hfound, hmade⟩ := Synthesizer.exists_of_mem_synthesize hsynthesized
  obtain rfl : found = types := Except.ok.inj (hfound.symm.trans hparts.below)
  obtain ⟨t, ht, st, samples, st', hrun, hmem⟩ := hmade x hx
  obtain ⟨o, ho, rfl⟩ := Synthesizer.exists_of_samplesOf hrun
  obtain ⟨rfl, -⟩ := Synthesizer.spec_of_occurrence ho
  obtain ⟨u, hu, hrefers⟩ := s.exists_type_of_mem o 1 _ st x hmem
  have hpushed : u ∈ s.typeSamples found := List.mem_flatMap.mpr ⟨_, ht, hu⟩
  obtain ⟨v, hv, hfurnishes⟩ := hparts.exists_of_type hpushed
  exact ⟨u, hpushed, v, hv, hfurnishes, fun y _ hfurnished =>
    hrefers.of_furnishes hfurnished hfurnishes⟩

/-- A door of the house names a type of doors that passes. -/
theorem type_of_door_of_house :
    ∃ rules m, Inputs.ofHouse.allRules default .stage5 = .ok rules ∧
      (ofHouse rules.index).metadataModel = .ok m ∧
      ∃ y ∈ m.samples, y.logicalEntity = "IfcDoor" ∧
        ∃ u ∈ m.samples, y.typeName = some u.name ∧ u.subKind = y.subKind ∧
          (u.conforming = true ↔ y.subKind ≠ some undefinedSubKind) := by
  obtain ⟨rules, hrules⟩ := Inputs.exists_rules_of_house default
  obtain ⟨m, hmodel⟩ := exists_model_of_house rules.index
  obtain ⟨types, occurrences, counters, -, hsynthesized, hrefer⟩ :=
    occurrences_refer_to_types (ofHouse rules.index) m hmodel
  obtain ⟨x, hx, -, hdoor, -⟩ := exists_door_of_house hrules hsynthesized
  obtain ⟨⟨y, hy, hfurnishes⟩, t, -, u, hu, -, hnames⟩ := hrefer x hx
  obtain ⟨hname, hsubKind, hconforming⟩ := hnames y hy hfurnishes
  refine ⟨rules, m, hrules, hmodel, y, hy, ?_, u, hu, hname, hsubKind, hconforming⟩
  rw [hfurnishes.eq, ← hdoor]

end SampleSources

/-! ## Names by rules -/

open Compiler IndexedRule Pattern

namespace Rulebook

variable {b : Rulebook} {i : Inputs} {settings : CompilerSettings} {rules : CompiledRules}
  {t : EntityType} {k subKind : Option String} {a : FacetGroup} {r : Requirement}

theorem entity_typeConvention (n : Namer) (typeName : String) (subKind : Option String) :
    (n.typeConvention typeName subKind).1.entity = n.conventions.entityLabel typeName := by
  cases subKind with
  | none => rfl
  | some k =>
    simp only [Namer.typeConvention]
    split
    · rfl
    · split <;> rfl

/-- A rule that is found for a sub-kind is about names of the shape that types of the sub-kind
have. -/
theorem typeConvention_of_rule (h : b.TypeNameRule t k a r) (hk : k = none ∨ k = subKind)
    (hsubKind : subKind ∈ Synthesizer.kindsOf t) :
    b.namer.typeConvention t.name k = b.namer.typeConvention t.name subKind := by
  rcases hk with rfl | rfl
  · have hkinds := h.kinds
    split at hkinds
    · obtain ⟨_, -, hnone⟩ := hkinds
      cases hnone
    · rename_i hplain
      rw [not_and_or, not_not] at hplain
      rcases hplain with henumerates | hempty
      · cases subKind with
        | none => rfl
        | some kind => simp [Namer.typeConvention, henumerates]
      · rw [Synthesizer.kindsOf, hempty] at hsubKind
        rw [List.mem_singleton.mp hsubKind]
  · rfl

/-- An identifier of section 07 that is looked up for names of objects of a type is that of a rule
about the names of its types. -/
theorem Yields.typeRule_of_lookup (h : b.Yields i settings rules)
    (hkeyed : Catalog.Keyed i.catalog.entries) (ht : i.catalog.find? t.name = some t) {id : String}
    (hid : rules.index.lookup? (.of t.name subKind .attributeMatchesPattern "Name") = some id)
    (hunder : Under "07" id) :
    ∃ k a r, b.TypeNameRule t k a r ∧ (k = none ∨ k = subKind) ∧
      ∃ spec ∈ rules.specifications, spec.identifier = id ∧
        spec.applicability.Selects t.name subKind ∧ spec.requirement.facets = [r.facet] := by
  have hcatalog : b.occurrenceSchema.catalog = i.catalog := by
    rw [h.occurrenceSchema, SampleSources.catalog_logicalView]
  refine h.nameRule_of_lookup (hcatalog ▸ ht) hid (fun x hx hid hkind =>
    namesTypes_of_under hx (hid ▸ hunder) hkind) fun u k a r hrule => ?_
  rw [hcatalog]
  obtain ⟨types, htypes, hmem⟩ := hrule.listed
  obtain ⟨v, hv, hfacets⟩ := hrule.facets
  rw [h.schema] at htypes
  have hu : i.catalog.find? u.name = some u :=
    SchemaView.find?_of_mem_concreteSubtypes (v := i.catalog.view _) hkeyed htypes hmem
  have hfound := SchemaView.find?_of_find? hv
  rw [hcatalog] at hfound
  obtain rfl : u = v := Option.some.inj (hu.symm.trans hfound)
  exact ⟨hu, hfacets⟩

end Rulebook

/-! ## Names of samples -/

namespace SampleSources

variable {s : SampleSources} {t : EntityType}

section Judges

variable {rules : CompiledRules} {b : Rulebook} {settings : CompilerSettings}
  (h : b.Yields s.inputs settings rules) (hindex : s.index = rules.index)
  (hkeyed : Catalog.Keyed s.inputs.catalog.entries)
  (ht : s.inputs.catalog.find? t.name = some t)
  (hlabel : s.inputs.namer.conventions.hasFreeLabel t.name = true →
    (s.inputs.namer.conventions.entityLabel t.name).toList ∈ properWords)

include h hindex hkeyed ht hlabel

/-- The rule of a tag judges the names of the shape for the sub-kind. -/
theorem judges_of_typeTag {subKind : Option String} (hsubKind : subKind ∈ Synthesizer.kindsOf t)
    {id : String} (hid : s.tag t.name subKind .attributeMatchesPattern "Name" = some id)
    (hunder : Under "07" id) {variant : Nat} (hvariant : variant ≤ 9999) {x : Sample}
    (hkind : x.subKind = subKind)
    (hname : x.conforming = true ∧
        x.name = (s.inputs.namer.typeConvention t.name subKind).1.sampleName variant ∨
      x.conforming = false ∧
        x.name = (s.inputs.namer.typeConvention t.name subKind).1.sampleName variant ++ "-BAD") :
    rules.Judges id t.name x := by
  rw [tag, hindex] at hid
  obtain ⟨k, a, r, hrule, hk, spec, hspec, hidentifier, hselects, hfacets⟩ :=
    h.typeRule_of_lookup hkeyed ht hid hunder
  have hshape := Rulebook.typeConvention_of_rule hrule hk hsubKind
  have hrequirement := hrule.requirement
  rw [hshape, h.namer] at hrequirement
  rw [hrequirement] at hfacets
  obtain ⟨hgood, hbad⟩ := (s.inputs.namer.typeConvention t.name subKind).1.decides_sampleName
    (s.inputs.namer.conventions.hasFreeLabel t.name) hvariant
    (fun hfree => by rw [Rulebook.entity_typeConvention]; exact hlabel hfree)
  refine ⟨_, ⟨spec, hspec, hidentifier, hkind ▸ hselects, hfacets⟩, ?_⟩
  rcases hname with ⟨hconforming, hname⟩ | ⟨hconforming, hname⟩ <;> rw [hconforming, hname]
  · exact hgood
  · exact hbad

/-- Whatever is pushed for a sub-kind that is defined is judged by the rule of its tag. -/
theorem judges_of_pushes (hcount : (Synthesizer.kindsOf t).length ≤ 9999) {x : Sample}
    (hx : s.Pushes t 1 (Synthesizer.kindsOf t) x) (hdefined : x.subKind ≠ some undefinedSubKind)
    {id : String} (hid : id ∈ x.tags) (hunder : Under "07" id) : rules.Judges id t.name x := by
  cases hx with
  | good hmem _ _ hlt =>
    exact judges_of_typeTag h hindex hkeyed ht hlabel hmem (Option.mem_toList.mp hid) hunder
      (by omega) rfl
      (.inl ⟨rfl, name_typeSample s t _ _ s.inputs.settings.fixtures.passContainer true⟩)
  | bad hmem _ _ hlt =>
    exact judges_of_typeTag h hindex hkeyed ht hlabel hmem (Option.mem_toList.mp hid) hunder
      (by omega) rfl
      (.inr ⟨rfl, name_typeSample s t _ _ s.inputs.settings.fixtures.failContainer false⟩)
  | undefined name _ => exact absurd rfl hdefined

end Judges

theorem length_kindsOf_le (h : t.subKinds.length ≤ 9999) :
    (Synthesizer.kindsOf t).length ≤ 9999 := by
  rw [Synthesizer.kindsOf]
  split
  · exact Nat.le_of_ble_eq_true rfl
  · rwa [List.length_map]

/-- **Types agree with the rules about their names.** When all rules of stage 5 can be compiled and
the metadata model be made with them, no type below the type roots has more than 9999 predefined
types, and those whose label is free have one made of words, then every type that is pushed stands
in the model. Unless it is of the undefined kind, with the tag of a rule of section 07.05 it is an
object that a rule with this identifier selects, and its name matches the pattern of the rule just
when it is meant to pass. -/
theorem types_agree (i : Inputs) (rows : List CatalogRow)
    (hcatalog : Catalog.ofRows rows = .ok i.catalog) (date : Date) (rules : CompiledRules)
    (hrules : i.allRules date .stage5 = .ok rules) (m : SampleModel)
    (hmodel : (SampleSources.mk i rules.index).metadataModel = .ok m)
    (htypes : ∀ below, (SampleSources.mk i rules.index).synthesizer.typesBelow
      (SampleSources.mk i rules.index).typeRoots = .ok below → ∀ t ∈ below,
        t.subKinds.length ≤ 9999 ∧ (i.namer.conventions.hasFreeLabel t.name = true →
          (i.namer.conventions.entityLabel t.name).toList ∈ properWords)) :
    let s := SampleSources.mk i rules.index
    ∃ below, s.synthesizer.typesBelow s.typeRoots = .ok below ∧
      ∀ x ∈ s.typeSamples below, (∃ y ∈ m.samples, y.Furnishes x) ∧
        (x.subKind ≠ some undefinedSubKind → ∀ id ∈ x.tags, Under "07_05" id →
          rules.Judges id x.entity x) := by
  intro s
  have hyields := Inputs.yields_allRules hrules
  obtain ⟨below, occurrences, places, furnished, broken, hparts⟩ := parts_of_metadataModel hmodel
  refine ⟨below, hparts.below, fun x hx =>
    ⟨hparts.exists_of_type hx, fun hdefined id hid hunder => ?_⟩⟩
  have hkeyed : Catalog.Keyed i.catalog.entries := Catalog.keyed_of_ofRows hcatalog
  have hview : s.logicalView.catalog = i.catalog := s.catalog_logicalView
  obtain ⟨t, ht, hmem⟩ := List.mem_flatMap.mp hx
  obtain ⟨hcount, hlabel⟩ := htypes below hparts.below t ht
  have hown : i.catalog.find? t.name = some t := by
    rw [← hview] at hkeyed ⊢
    exact find?_of_mem_typesBelow hkeyed hparts.below ht
  have hpushes := s.pushes_typesOfKinds t 1 _ x hmem
  rw [hpushes.entity]
  exact judges_of_pushes hyields rfl hkeyed hown hlabel (length_kindsOf_le hcount) hpushes
    hdefined hid (under_of_slotIdent (i := "07") (t := "05") (by decide) hunder).1

/-- A type of bridges has the tag of the rule about them, and meets it. -/
theorem bridge_of_house :
    Catalog.ofRows houseRows = .ok Inputs.ofHouse.catalog ∧
    ∃ rules m, Inputs.ofHouse.allRules default .stage5 = .ok rules ∧
      (ofHouse rules.index).metadataModel = .ok m ∧
      ∃ x, (∃ y ∈ m.samples, y.Furnishes x) ∧ x.conforming = true ∧
        x.tags = ["07_05_CivilElementType_BRIDGE"] ∧
        rules.Judges "07_05_CivilElementType_BRIDGE" "IfcCivilElementType" x := by
  obtain ⟨rules, hrules⟩ := Inputs.exists_rules_of_house default
  obtain ⟨m, hmodel⟩ := exists_model_of_house rules.index
  have hrows : ∀ row ∈ houseTypes, row.subKinds.length ≤ 9999 ∧
      Inputs.ofHouse.namer.conventions.hasFreeLabel row.name = false := by decide +kernel
  obtain ⟨types, htypes, hagree⟩ := types_agree Inputs.ofHouse houseRows Inputs.catalog_of_house
    default rules hrules m hmodel fun below hbelow t ht => by
      obtain ⟨row, hrow, hname, hkinds⟩ := exists_row_of_house hbelow ht
      obtain ⟨hfew, hfixed⟩ := hrows row hrow
      rw [hname] at hfixed
      exact ⟨hkinds ▸ hfew, fun hfree => absurd (hfixed.symm.trans hfree) nofun⟩
  obtain ⟨t, ht, heq⟩ :=
    (mem_types_of_house htypes (p := ("IfcCivilElementType", ["BRIDGE", "NOTDEFINED"]))).mpr
      (by decide)
  obtain ⟨hname, hkinds⟩ := Prod.mk.inj heq
  have hkind : some "BRIDGE" ∈ Synthesizer.kindsOf t := by
    rw [Synthesizer.kindsOf, hkinds]
    exact List.mem_cons_self
  obtain ⟨x, hx, hconforming, hentity, hbridge, htags⟩ :=
    (ofHouse rules.index).exists_good_type t 1 hkind (by decide)
  obtain ⟨hstands, hjudged⟩ := hagree x (List.mem_flatMap.mpr ⟨t, ht, hx⟩)
  have htag : (ofHouse rules.index).tag "IfcCivilElementType" (some "BRIDGE")
      .attributeMatchesPattern "Name" = some "07_05_CivilElementType_BRIDGE" := by
    have hkey : "IfcCivilElementType".toUpper = "IFCCIVILELEMENTTYPE" := by decide +kernel
    refine Inputs.lookup_of_nameRules hrules hkey ?_ ?_ <;> rw [Inputs.rules_of_house.2] <;> decide
  rw [hname, htag] at htags
  have hunder : Under "07_05" "07_05_CivilElementType_BRIDGE" :=
    ⟨"_CivilElementType_BRIDGE".toList, rfl, Text.stopsAt_cons rfl⟩
  refine ⟨Inputs.catalog_of_house, rules, m, hrules, hmodel, x, hstands, hconforming, htags, ?_⟩
  have hmeets := hjudged (by rw [hbridge]; decide) _ (htags ▸ List.mem_singleton_self _) hunder
  rwa [hentity, hname] at hmeets

end SampleSources

end Eir
