import Eir.Proofs.Sample.Metadata

/-!
# What the metadata model has

The metadata model can be made when its two zones are known, the type objects
below the roots have occurrences, and one of them is of doors
(`exists_metadataModel`). It then has samples for each of these type objects and
sub-kinds (`exists_good_type`, `exists_good_occurrence`), and for the undefined
sub-kind too if the policy says so (`exists_undefined_type`).
-/

namespace Eir

/-! ## Runs that succeed -/

/-- Steps that succeed one after the other. -/
theorem run_bind_ok {σ ε α β : Type} {x : StateT σ (Except ε) α}
    {f : α → StateT σ (Except ε) β} {st next : σ} {a : α} (hx : x.run st = .ok (a, next)) :
    (x >>= f).run st = (f a).run next := by
  rw [StateT.run_bind, hx]
  rfl

namespace Synthesizer

variable {s : Synthesizer} {t : EntityType} {types : List EntityType} {o : Occurrence}
  {subKind : Option String}

/-- The occurrences of a type depend on its name. -/
theorem occurrence_of_name {s : Synthesizer} {t u : EntityType} {o : Occurrence}
    (h : s.occurrence u = .ok o) (hname : t.name = u.name) :
    s.occurrence t = .ok { o with typeObject := t } := by
  rw [occurrence] at h ⊢
  obtain ⟨logical, hlogical, h⟩ := exists_of_bind_ok h
  obtain ⟨concrete, hconcrete, h⟩ := exists_of_bind_ok h
  cases h
  rw [hname, hlogical, ok_bind, hconcrete]
  rfl

theorem run_samplesOf (h : s.occurrence t = .ok o) (st : Counters) :
    (s.samplesOf t).run st = .ok ((s.samplesOfKinds o 1 (kindsOf t)).run st) := by
  rw [samplesOf, h]
  rfl

/-- If types have occurrences, samples can be made for them, and are among all samples. -/
theorem exists_run_mapM (h : ∀ t ∈ types, ∃ o, s.occurrence t = .ok o) (st : Counters) :
    ∃ lists st', (types.mapM s.samplesOf).run st = .ok (lists, st') ∧
      ∀ t ∈ types, ∃ o, s.occurrence t = .ok o ∧
        ∃ st, ((s.samplesOfKinds o 1 (kindsOf t)).run st).1 ⊆ lists.flatten := by
  induction types generalizing st with
  | nil => exact ⟨[], st, rfl, fun t ht => by cases ht⟩
  | cons t types ih =>
    obtain ⟨⟨o, ho⟩, hrest⟩ := List.forall_mem_cons.mp h
    rcases hmade : (s.samplesOfKinds o 1 (kindsOf t)).run st with ⟨samples, next⟩
    have hfirst : (s.samplesOf t).run st = .ok (samples, next) := by
      rw [run_samplesOf ho, hmade]
    obtain ⟨lists, last, hlists, hmem⟩ := ih hrest next
    refine ⟨samples :: lists, last, ?_, List.forall_mem_cons.mpr ⟨⟨o, ho, st, ?_⟩, fun u hu => ?_⟩⟩
    · rw [List.mapM_cons, run_bind_ok hfirst, run_bind_ok hlists]
      rfl
    · rw [hmade]
      exact List.subset_append_left _ _
    · obtain ⟨p, hp, st, hsub⟩ := hmem u hu
      exact ⟨p, hp, st, List.Subset.trans hsub (List.subset_append_right _ _)⟩

/-- So it is for the types below some roots. -/
theorem exists_synthesize {roots : List String} (htypes : s.typesBelow roots = .ok types)
    (h : ∀ t ∈ types, ∃ o, s.occurrence t = .ok o) (st : Counters) :
    ∃ samples st', (s.synthesize roots).run st = .ok (samples, st') ∧
      ∀ t ∈ types, ∃ o, s.occurrence t = .ok o ∧
        ∃ st, ((s.samplesOfKinds o 1 (kindsOf t)).run st).1 ⊆ samples := by
  obtain ⟨lists, last, hlists, hmem⟩ := exists_run_mapM h st
  refine ⟨lists.flatten, last, ?_, hmem⟩
  rw [synthesize, htypes, run_bind_ok (show _ = Except.ok (types, st) from rfl), run_bind_ok hlists]
  rfl

/-- For each sub-kind that is defined there is a sample that passes. -/
theorem exists_good_of_kinds (s : Synthesizer) (o : Occurrence) (variant : Nat)
    {kinds : List (Option String)} (h : subKind ∈ kinds)
    (hdefined : subKind ≠ some undefinedSubKind) (st : Counters) :
    ∃ x ∈ ((s.samplesOfKinds o variant kinds).run st).1, x.conforming = true ∧
      x.subKind = subKind ∧ x.logicalEntity = o.logical.name ∧
      x.tags = (s.namingTag o subKind).toList := by
  induction kinds generalizing variant st with
  | nil => cases h
  | cons first kinds ih =>
    rw [samplesOfKinds]
    rcases List.mem_cons.mp h with rfl | h
    · rw [if_neg hdefined]
      exact ⟨_, List.mem_append_left _ List.mem_cons_self, rfl, rfl, rfl, rfl⟩
    · split
      · cases hpolicy : s.policy.fixtureOccurrences with
        | true =>
          obtain ⟨x, hx, hgood⟩ := ih variant h ((s.undefinedSample o).run st).2
          exact ⟨x, List.mem_append_right _ hx, hgood⟩
        | false => exact ih variant h st
      · obtain ⟨x, hx, hgood⟩ := ih (variant + 1) h ((s.twins o first variant).run st).2
        exact ⟨x, List.mem_append_right _ hx, hgood⟩

/-- For each type below the roots and each sub-kind that is defined there is a sample that passes. -/
theorem exists_good_occurrence {roots : List String} (htypes : s.typesBelow roots = .ok types)
    (h : ∀ t ∈ types, ∃ o, s.occurrence t = .ok o) {st st' : Counters} {samples : List Sample}
    (hsynthesized : (s.synthesize roots).run st = .ok (samples, st')) (ht : t ∈ types)
    (hkind : subKind ∈ kindsOf t) (hdefined : subKind ≠ some undefinedSubKind) :
    ∃ o, s.occurrence t = .ok o ∧ ∃ x ∈ samples, x.conforming = true ∧ x.subKind = subKind ∧
      x.logicalEntity = o.logical.name ∧ x.tags = (s.namingTag o subKind).toList := by
  obtain ⟨made, last, hmade, hmem⟩ := exists_synthesize htypes h st
  obtain ⟨rfl, -⟩ := Prod.mk.inj (Except.ok.inj (hmade.symm.trans hsynthesized))
  obtain ⟨o, ho, next, hsub⟩ := hmem t ht
  obtain ⟨x, hx, hgood⟩ := exists_good_of_kinds s o 1 hkind hdefined next
  exact ⟨o, ho, x, hsub hx, hgood⟩

end Synthesizer

namespace SampleSources

variable {s : SampleSources} {t : EntityType} {types : List EntityType} {m : SampleModel}
  {subKind : Option String}

/-! ## Types -/

/-- For each sub-kind that is defined there is a type that passes. -/
theorem exists_good_type (s : SampleSources) (t : EntityType) (variant : Nat)
    {kinds : List (Option String)} (h : subKind ∈ kinds)
    (hdefined : subKind ≠ some undefinedSubKind) :
    ∃ x ∈ s.typesOfKinds t variant kinds, x.conforming = true ∧ x.entity = t.name ∧
      x.subKind = subKind ∧ x.tags = (s.tag t.name subKind .attributeMatchesPattern "Name").toList := by
  induction kinds generalizing variant with
  | nil => cases h
  | cons first kinds ih =>
    rw [typesOfKinds]
    rcases List.mem_cons.mp h with rfl | h
    · rw [if_neg hdefined]
      exact ⟨_, List.mem_cons_self, rfl, rfl, rfl, rfl⟩
    · split
      · obtain ⟨x, hx, hgood⟩ := ih variant h
        exact ⟨x, List.mem_append_right _ hx, hgood⟩
      · obtain ⟨x, hx, hgood⟩ := ih (variant + 1) h
        exact ⟨x, List.mem_cons_of_mem _ (List.mem_cons_of_mem _ hx), hgood⟩

/-- For the undefined sub-kind there is a type if the policy says so. -/
theorem exists_undefined_type (t : EntityType) (variant : Nat) {kinds : List (Option String)}
    (hpolicy : s.inputs.settings.undefinedSubKind.fixtureOccurrences = true)
    (h : some undefinedSubKind ∈ kinds) :
    ∃ x ∈ s.typesOfKinds t variant kinds, x.subKind = some undefinedSubKind := by
  induction kinds generalizing variant with
  | nil => cases h
  | cons first kinds ih =>
    rw [typesOfKinds]
    rcases List.mem_cons.mp h with rfl | h
    · rw [if_pos rfl, hpolicy]
      exact ⟨_, List.mem_append_left _ List.mem_cons_self, rfl⟩
    · split
      · obtain ⟨x, hx, hundefined⟩ := ih variant h
        exact ⟨x, List.mem_append_right _ hx, hundefined⟩
      · obtain ⟨x, hx, hundefined⟩ := ih (variant + 1) h
        exact ⟨x, List.mem_cons_of_mem _ (List.mem_cons_of_mem _ hx), hundefined⟩

/-! ## The model -/

/-- The types below the roots can always be found. -/
theorem exists_typesBelow (s : SampleSources) :
    ∃ types, s.synthesizer.typesBelow s.typeRoots = .ok types := by
  have hroots : ∀ root ∈ s.typeRoots, ∃ ts, s.synthesizer.logical.concreteSubtypes root = .ok ts := by
    intro root hroot
    obtain ⟨t, ht⟩ := Option.isSome_iff_exists.mp (List.mem_filter.mp hroot).2
    have hfound : s.synthesizer.logical.find? root = some t := ht
    rw [SchemaView.concreteSubtypes, SchemaView.require, hfound]
    exact ⟨_, rfl⟩
  obtain ⟨found, hfound⟩ := exists_mapM_ok hroots
  rw [Synthesizer.typesBelow, hfound]
  exact ⟨_, rfl⟩

theorem exists_occurrenceSamples {roots : List String}
    (hbelow : s.synthesizer.typesBelow roots = .ok types)
    (h : ∀ t ∈ types, ∃ o, s.synthesizer.occurrence t = .ok o) (st : Counters) :
    ∃ samples, (s.occurrenceSamples roots).run st = .ok samples := by
  obtain ⟨samples, next, hrun, -⟩ := Synthesizer.exists_synthesize hbelow h st
  refine ⟨(samples.mapM s.furnished).run next, ?_⟩
  rw [occurrenceSamples, run_bind_ok hrun]
  rfl

theorem exists_doorTypeName {samples : List Sample} (h : ∃ x ∈ samples, x.conforming = true ∧
    (x.entity = "IfcDoorStyle" ∨ x.entity = "IfcDoorType")) :
    ∃ name, doorTypeName samples = .ok name := by
  obtain ⟨x, hx, hconforming, hentity⟩ := h
  rw [doorTypeName]
  split
  · exact ⟨_, rfl⟩
  · rename_i hnone
    have hdoor := List.find?_eq_none.mp hnone x hx
    simp [hconforming, hentity] at hdoor

/-- The metadata model can be made if its zones are known, the type objects have occurrences, and
one of them is of doors. -/
theorem exists_metadataModel
    (hzones : ∀ code ∈ ["Basic teaching", "Non-net"], (s.inputs.content.zone? code).isSome = true)
    (hbelow : s.synthesizer.typesBelow s.typeRoots = .ok types)
    (h : ∀ t ∈ types, ∃ o, s.synthesizer.occurrence t = .ok o)
    (hdoor : ∃ t ∈ types, (t.name = "IfcDoorStyle" ∨ t.name = "IfcDoorType") ∧
      ∃ subKind ∈ Synthesizer.kindsOf t, subKind ≠ some undefinedSubKind) :
    ∃ m, s.metadataModel = .ok m := by
  obtain ⟨teaching, hteaching⟩ := Option.isSome_iff_exists.mp (hzones _ List.mem_cons_self)
  obtain ⟨other, hother⟩ :=
    Option.isSome_iff_exists.mp (hzones "Non-net" (List.mem_cons_of_mem _ List.mem_cons_self))
  obtain ⟨⟨occurrences, counters⟩, hoccurrences⟩ := exists_occurrenceSamples hbelow h .fresh
  have hbelow : asRun (s.synthesizer.typesBelow s.typeRoots) = .ok types := congrArg asRun hbelow
  have hoccurrences : asRun ((s.occurrenceSamples s.typeRoots).run .fresh) =
      .ok (occurrences, counters) := congrArg asRun hoccurrences
  rw [typeRoots] at hbelow hoccurrences
  obtain ⟨basement, ground, hstoreys⟩ :
      ∃ basement ground, s.storeySamples ["B1", "00"] = [basement, ground] := ⟨_, _, rfl⟩
  obtain ⟨first, second, hboth⟩ :
      ∃ first second, s.zoneSamples ["Basic teaching", "Non-net"] = [first, second] := by
    simp only [zoneSamples, List.filterMap_cons, List.filterMap_nil, hteaching, hother]
    exact ⟨_, _, rfl⟩
  rcases hbroken : s.brokenTypeSamples.run counters with ⟨brokenTypes, later⟩
  obtain ⟨x, hx, hconforming, hentity⟩ : ∃ x ∈ s.typeSamples types, x.conforming = true ∧
      (x.entity = "IfcDoorStyle" ∨ x.entity = "IfcDoorType") := by
    obtain ⟨t, ht, hname, subKind, hkind, hdefined⟩ := hdoor
    obtain ⟨x, hx, hconforming, hentity, -⟩ := s.exists_good_type t 1 hkind hdefined
    exact ⟨x, List.mem_flatMap.mpr ⟨t, ht, hx⟩, hconforming, hentity ▸ hname⟩
  have hname (places : List Sample) : ∃ name, doorTypeName
      (places ++ s.typeSamples types ++ occurrences ++ brokenTypes) = .ok name :=
    exists_doorTypeName ⟨x, by simp [hx], hconforming, hentity⟩
  rw [metadataModel]
  simp only [hstoreys, hboth]
  obtain ⟨name, hname⟩ := hname (s.siteSamples .stage5 ++ [basement, ground] ++ [first, second] ++
    s.containerSamples basement.name ground.name first.name second.name)
  rw [hbelow]
  simp only [ok_bind, hoccurrences, hbroken, hname]
  rcases (s.brokenDoorSamples name).run later with ⟨brokenDoors, last⟩
  exact ⟨_, rfl⟩

end SampleSources

/-! ## A house -/

/-- The row of a type of its own. -/
def CatalogRow.plain (name : String) : CatalogRow := ⟨name, none, false, none, Dialect.all, [], none⟩

/-- Types of bridges, heaters and doors. -/
def houseTypes : List CatalogRow :=
  [{ CatalogRow.plain "IfcCivilElementType" with
      parent := some "IfcTypeObject", subKinds := ["BRIDGE", "NOTDEFINED"] },
    { CatalogRow.plain "IfcSpaceHeaterType" with
      parent := some "IfcDistributionElementType", subKinds := ["NOTDEFINED"] },
    .plain "IfcDoorStyle"]

/-- The types that the rulebook names first, bridges, heaters and doors, and their types. -/
def houseRows : List CatalogRow :=
  ["IfcProject", "IfcSite", "IfcBuilding", "IfcBuildingStorey", "IfcSpace", "IfcZone", "IfcSystem",
    "IfcDoor", "IfcCivilElement", "IfcSpaceHeater"].map .plain ++
  ["IfcTypeObject", "IfcDistributionElementType"].map (fun name =>
    { CatalogRow.plain name with isAbstract := true }) ++ houseTypes

/-- The names in upper case. -/
def houseKeys : List String := ["IFCPROJECT", "IFCSITE", "IFCBUILDING", "IFCBUILDINGSTOREY",
  "IFCSPACE", "IFCZONE", "IFCSYSTEM", "IFCDOOR", "IFCCIVILELEMENT", "IFCSPACEHEATER",
  "IFCTYPEOBJECT", "IFCDISTRIBUTIONELEMENTTYPE", "IFCCIVILELEMENTTYPE", "IFCSPACEHEATERTYPE",
  "IFCDOORSTYLE"]

def houseEntries : Std.TreeMap String EntityType :=
  (houseKeys.zip houseRows).foldl (fun entries (key, row) => entries.insert key (.ofRow row)) {}

namespace Inputs

/-- Inputs with these types, a code for doors, and one storey, a class of rooms and two zones. -/
def ofHouse : Inputs where
  settings := default
  catalog := ⟨houseEntries.map fun key t =>
    { t with children := Catalog.childrenOf (Catalog.links houseEntries.values) key }⟩
  codes := (default : CodeTable).insert "Door" (.plain "D")
  subKindNames := default
  content := {
    floors := [⟨"02", some "Level 02", "", ""⟩]
    zones := [⟨"Basic teaching", "", ""⟩, ⟨"Non-net", "", ""⟩]
    areaDataSheets := [⟨"CLA12", "", "SL_25_10_14"⟩]
    spaceClasses := [⟨"SL_25_10_14", ""⟩] }

theorem catalog_of_house : Catalog.ofRows houseRows = .ok ofHouse.catalog := by
  have hkeys : houseRows.map (·.name.toUpper) = houseKeys := by decide +kernel
  have hhosts : ∀ t ∈ houseEntries.values, t.host = none := by decide +kernel
  have hentries : (houseKeys.zip houseRows).foldl
      (fun entries (key, row) => entries.insert key (.ofRow row)) {} = houseEntries := rfl
  refine Catalog.ofRows_eq hkeys (by decide) hentries (by decide +kernel) fun t ht host hhost => ?_
  rw [hhosts t ht] at hhost
  cases hhost

/-- The rules of a house about patterns of names. -/
def houseRules : List NameRule :=
  [⟨"05_03", ["IFCSPACE"], none, true⟩,
    ⟨"07_05_CivilElementType_BRIDGE", ["IFCCIVILELEMENTTYPE"], some "BRIDGE", true⟩,
    ⟨"08_02_Door", ["IFCDOOR"], none, true⟩]

theorem rules_of_house :
    (failures (ofHouse.stageRulebook .stage5).program).isEmpty = true ∧
      ofHouse.nameRules = houseRules := by
  decide +kernel

theorem exists_rules_of_house (date : Date) : ∃ rules, ofHouse.allRules date .stage5 = .ok rules :=
  exists_allRules rfl (List.isEmpty_iff.mp rules_of_house.1) date

end Inputs

namespace SampleSources

/-- The names and sub-kinds of the types below the roots. -/
def outline (s : SampleSources) : List (String × List String) :=
  s.typeRoots.flatMap fun root =>
    ((s.logicalView.concreteSubtypes root).toOption.getD []).map fun t => (t.name, t.subKinds)

theorem mem_outline {s : SampleSources} {types : List EntityType}
    (hkeyed : Catalog.Keyed s.logicalView.catalog.entries)
    (h : s.synthesizer.typesBelow s.typeRoots = .ok types) {p : String × List String} :
    p ∈ s.outline ↔ ∃ t ∈ types, (t.name, t.subKinds) = p := by
  have hbelow := (Synthesizer.typesBelow_spec hkeyed h).2
  simp only [hbelow, outline, List.mem_flatMap, List.mem_map]
  constructor
  · rintro ⟨root, hroot, t, ht, rfl⟩
    cases hts : s.logicalView.concreteSubtypes root with
    | error f =>
      rw [hts] at ht
      cases ht
    | ok ts =>
      rw [hts] at ht
      exact ⟨t, ⟨root, hroot, ts, hts, ht⟩, rfl⟩
  · rintro ⟨t, ⟨root, hroot, ts, hts, ht⟩, rfl⟩
    have hts : s.logicalView.concreteSubtypes root = .ok ts := hts
    exact ⟨root, hroot, t, by rwa [hts], rfl⟩

/-- A house with some index of rules. -/
def ofHouse (index : RuleIndex) : SampleSources := ⟨Inputs.ofHouse, index⟩

/-- The names of the types of the house, and of their occurrences. -/
def houseOccurrences : List (String × String) :=
  [("IfcCivilElementType", "IfcCivilElement"), ("IfcSpaceHeaterType", "IfcSpaceHeater"),
    ("IfcDoorStyle", "IfcDoor")]

theorem types_of_house :
    (ofHouse .empty).outline = houseTypes.map (fun row => (row.name, row.subKinds)) ∧
    houseTypes.map (fun row => ((ofHouse .empty).synthesizer.occurrence (.ofRow row)).toOption.map
      fun o => (row.name, o.logical.name)) = houseOccurrences.map some ∧
    (Rulebook.componentTypes.all fun name =>
      (((ofHouse .empty).logicalView.concreteSubtypes name).toOption.getD []).all fun t =>
        houseTypes.all fun row => row.name != t.name) = true := by
  decide +kernel

section House

variable {index : RuleIndex} {types : List EntityType} {t : EntityType}
  (h : (ofHouse index).synthesizer.typesBelow (ofHouse index).typeRoots = .ok types)

include h

theorem mem_types_of_house {p : String × List String} :
    (∃ t ∈ types, (t.name, t.subKinds) = p) ↔
      p ∈ houseTypes.map fun row => (row.name, row.subKinds) := by
  have hkeyed : Catalog.Keyed (ofHouse index).logicalView.catalog.entries := by
    rw [catalog_logicalView]
    exact Catalog.keyed_of_ofRows Inputs.catalog_of_house
  rw [← types_of_house.1, ← mem_outline hkeyed h]
  exact Iff.rfl

theorem exists_row_of_house (ht : t ∈ types) :
    ∃ row ∈ houseTypes, row.name = t.name ∧ row.subKinds = t.subKinds := by
  obtain ⟨row, hrow, heq⟩ := List.mem_map.mp ((mem_types_of_house h).mp ⟨t, ht, rfl⟩)
  obtain ⟨hname, hkinds⟩ := Prod.mk.inj heq
  exact ⟨row, hrow, hname, hkinds⟩

/-- The types of the house have occurrences. -/
theorem occurrence_of_house (ht : t ∈ types) :
    ∃ o, (ofHouse index).synthesizer.occurrence t = .ok o ∧
      (t.name, o.logical.name) ∈ houseOccurrences := by
  obtain ⟨row, hrow, hname, -⟩ := exists_row_of_house h ht
  have hlisted := List.mem_map_of_mem (f := fun row =>
    ((ofHouse .empty).synthesizer.occurrence (.ofRow row)).toOption.map
      fun o => (row.name, o.logical.name)) hrow
  rw [types_of_house.2.1] at hlisted
  obtain ⟨p, hp, heq⟩ := List.mem_map.mp hlisted
  cases ho : (ofHouse .empty).synthesizer.occurrence (.ofRow row) with
  | error f =>
    rw [ho] at heq
    cases heq
  | ok o =>
    rw [ho] at heq
    obtain rfl := Option.some.inj heq
    exact ⟨_, Synthesizer.occurrence_of_name (s := (ofHouse index).synthesizer) ho hname.symm,
      hname ▸ hp⟩

theorem apart_of_house (ht : t ∈ types) : ∀ name ∈ Rulebook.componentTypes, ∀ ts,
    (ofHouse index).logicalView.concreteSubtypes name = .ok ts → t ∉ ts := by
  intro name hname ts hts hmem
  obtain ⟨row, hrow, hname', -⟩ := exists_row_of_house h ht
  have hts : (ofHouse .empty).logicalView.concreteSubtypes name = .ok ts := hts
  have hapart := List.all_eq_true.mp types_of_house.2.2 name hname
  rw [hts] at hapart
  have hne := List.all_eq_true.mp (List.all_eq_true.mp hapart t hmem) row hrow
  exact absurd hname' (by simpa using hne)

end House

/-- The model of the house can be made, with any index. -/
theorem exists_model_of_house (index : RuleIndex) : ∃ m, (ofHouse index).metadataModel = .ok m := by
  obtain ⟨types, htypes⟩ := (ofHouse index).exists_typesBelow
  obtain ⟨t, ht, heq⟩ := (mem_types_of_house htypes (p := ("IfcDoorStyle", []))).mpr (by decide)
  obtain ⟨hname, hkinds⟩ := Prod.mk.inj heq
  refine exists_metadataModel (fun code hcode => ?_) htypes
    (fun u hu => (occurrence_of_house htypes hu).imp fun _ => And.left)
    ⟨t, ht, .inl hname, none, ?_, nofun⟩
  · have hknown : ∀ code ∈ ["Basic teaching", "Non-net"],
        (Inputs.ofHouse.content.zone? code).isSome = true := by decide
    exact hknown code hcode
  · rw [Synthesizer.kindsOf, hkinds]
    exact List.mem_singleton_self none

/-- A door among the occurrences of the house, with the tag of the rule about doors. -/
theorem exists_door_of_house {date : Date} {rules : CompiledRules}
    (hrules : Inputs.ofHouse.allRules date .stage5 = .ok rules) {st st' : Counters}
    {occurrences : List Sample} (h : ((ofHouse rules.index).synthesizer.synthesize
      (ofHouse rules.index).typeRoots).run st = .ok (occurrences, st')) :
    ∃ x ∈ occurrences, x.conforming = true ∧ x.logicalEntity = "IfcDoor" ∧
      x.tags = ["08_02_Door"] := by
  obtain ⟨types, htypes⟩ := (ofHouse rules.index).exists_typesBelow
  obtain ⟨t, ht, heq⟩ := (mem_types_of_house htypes (p := ("IfcDoorStyle", []))).mpr (by decide)
  obtain ⟨hname, hkinds⟩ := Prod.mk.inj heq
  have hkind : none ∈ Synthesizer.kindsOf t := by
    rw [Synthesizer.kindsOf, hkinds]
    exact List.mem_singleton_self none
  obtain ⟨o, ho, x, hx, hconforming, -, hlogical, htags⟩ := Synthesizer.exists_good_occurrence htypes
    (fun u hu => (occurrence_of_house htypes hu).imp fun _ => And.left) h ht hkind nofun
  obtain ⟨p, hp, hlisted⟩ := occurrence_of_house htypes ht
  obtain rfl : p = o := Except.ok.inj (hp.symm.trans ho)
  have hdoor : p.logical.name = "IfcDoor" := by
    rw [hname] at hlisted
    simpa [houseOccurrences] using hlisted
  have htag : rules.index.lookup? (.of "IfcDoor" none .attributeMatchesPattern "Name") =
      some "08_02_Door" := by
    have hkey : "IfcDoor".toUpper = "IFCDOOR" := by decide +kernel
    refine Inputs.lookup_of_nameRules hrules hkey ?_ ?_ <;> rw [Inputs.rules_of_house.2] <;> decide
  refine ⟨x, hx, hconforming, hlogical.trans hdoor, ?_⟩
  rw [← hdoor] at htag
  have hnaming : (ofHouse rules.index).synthesizer.namingTag p none = some "08_02_Door" :=
    Option.or_eq_some_iff.mpr (.inl htag)
  rw [htags, hnaming]
  rfl

end SampleSources

end Eir
