import Eir.Proofs.Rulebook.StageRules

/-!
# Rules about places

Storeys have one of the names and one of the descriptions of the floors that are
storeys (04.03 and 04.06), and spaces have names of one pattern (05.03). These rules
are among those of every stage, if its rules can be made at all (`Inputs.constrains_places`).

A table of area data sheets is parted by the space classes of the sheets
(`Content.partitions_sheetsByClass`), and section 05.15 has one rule for each of these
classes, in the same order (`Inputs.sheetRules`). So of the rules about spaces with
certain sheets there is just one for each sheet, and it demands the space class of
this sheet (`Inputs.exists_sheetRule`), if no two sheets have the same code.
-/

namespace Eir

open Compiler

variable {s : Scope} {step : Step} {steps : List Step} {x : Creation}

/-! ## Names of places -/

/-- What a step makes in the scope that those before it leave is made by the program. -/
theorem mem_creations_of_getElem? {k : Nat} (h : steps[k]? = some step)
    (hx : x ∈ step.creations ((steps.take k).foldl Step.next s)) : x ∈ creations s steps := by
  have hsplit : steps = steps.take k ++ step :: steps.drop (k + 1) := by
    obtain ⟨hk, rfl⟩ := List.getElem?_eq_some_iff.mp h
    rw [List.getElem_cons_drop, List.take_append_drop]
  rw [hsplit, creations_append, creations_cons]
  exact List.mem_append_right _ (List.mem_append_left _ hx)

namespace Rulebook

variable (b : Rulebook)

/-- The selection of the storeys. -/
def storeySelection : Except Fault FacetGroup :=
  b.schema.select "Building Storey" ["IfcBuildingStorey"]

/-- The selection of the spaces. -/
def spaceSelection : Except Fault FacetGroup := b.schema.select "Space" ["IfcSpace"]

/-- The scope of section 04 when `n` of its slots are used. -/
def storeyScope (n : Nat) : Scope :=
  { sectionScope 4 .all with section_ := n, tag := "BuildingStorey" }

/-- The scope of section 05 when `n` of its slots are used. -/
def spaceScope (n : Nat) : Scope := { sectionScope 5 .all with section_ := n, tag := "Space" }

theorem identifiers_storeyScope :
    (storeyScope 2).advance.1 = "04_03" ∧ (storeyScope 5).advance.1 = "04_06" := by
  decide +kernel

theorem identifier_spaceScope : (spaceScope 2).advance.1 = "05_03" := by
  decide +kernel

variable {b} {a : FacetGroup}

/-- Rules 04.03 and 04.06 are made in section 04. -/
theorem mem_storeySection (h : b.storeySelection = .ok a) :
    ⟨storeyScope 2, a, .attributeInList "Name" b.content.floorNames⟩ ∈
        creations (sectionScope 4 .all) b.storeySection ∧
      ⟨storeyScope 5, a, .attributeInList "Description" b.content.floorDescriptions⟩ ∈
        creations (sectionScope 4 .all) b.storeySection := by
  rw [storeySelection] at h
  rw [storeySection, h]
  exact ⟨mem_creations_of_getElem? (k := 3) rfl (List.mem_singleton_self _),
    mem_creations_of_getElem? (k := 6) rfl (List.mem_singleton_self _)⟩

/-- Rule 05.03 is made in section 05. -/
theorem mem_spaceSection (h : b.spaceSelection = .ok a) :
    ⟨spaceScope 2, a, .attributeMatchesPattern "Name" spaceNamePattern none⟩ ∈
      creations (sectionScope 5 .all) b.spaceSection := by
  rw [spaceSelection] at h
  rw [spaceSection, h]
  exact mem_creations_of_getElem? (k := 3) rfl (List.mem_singleton_self _)

end Rulebook

/-- The rule of the identifier is for the selection, and demands an attribute whose value the
constraint accepts. -/
def CompiledRules.Constrains (rules : CompiledRules) (id : String)
    (selection : Except Fault FacetGroup) (name : String) (accepted : Constraint) : Prop :=
  ∃ spec ∈ rules.specifications, spec.identifier = id ∧ selection = .ok spec.applicability ∧
    spec.requirement.facets = [.attr name (some accepted)]

namespace Rulebook.Yields

variable {b : Rulebook} {i : Inputs} {settings : CompilerSettings} {rules : CompiledRules}

/-- A rule on an attribute that is made and that applies is among the rules. -/
theorem constrains (h : b.Yields i settings rules) {x : Creation}
    (hx : x ∈ creations Scope.root.bare b.program) (happlies : x.applies settings = true)
    {id name : String} (hid : x.scope.advance.1 = id) {accepted : Constraint}
    (hfacet : x.requirement.facet = .attr name (some accepted))
    {selection : Except Fault FacetGroup} (hselection : selection = .ok x.applicability) :
    rules.Constrains id selection name accepted := by
  obtain ⟨spec, hspec, hgives⟩ := h.holds.specifications x (List.mem_filter.mpr ⟨hx, happlies⟩)
  refine ⟨spec, hspec, hgives.identifier.trans hid, hgives.applicability ▸ hselection, ?_⟩
  rw [hgives.requirement, ← hfacet]
  rfl

/-- The selections of places succeed, if the rulebook can be compiled. -/
theorem exists_selections (h : b.Yields i settings rules) :
    (∃ a, b.storeySelection = .ok a) ∧ ∃ a, b.spaceSelection = .ok a := by
  have hsection {body : List Step} (hbody : Step.scope .sectional "" body ∈ b.program) :
      Eir.failures body = [] := by
    rw [← failures_scope .sectional ""]
    exact failures_eq_nil_of_mem h.failures hbody
  have hstoreys : Eir.failures b.storeySection = [] :=
    hsection (by simp [program, spatialSections])
  have hspaces : Eir.failures b.spaceSection = [] :=
    hsection (by simp [program, spatialSections])
  rw [storeySection, failures_cons, List.append_eq_nil_iff] at hstoreys
  rw [spaceSection, failures_cons, List.append_eq_nil_iff] at hspaces
  exact ⟨exists_of_failures_about hstoreys.2, exists_of_failures_about hspaces.2⟩

end Rulebook.Yields

/-- The rules of a stage constrain the names and descriptions of storeys and the names of spaces. -/
theorem Inputs.constrains_places {i : Inputs} {date : Date} {stage : Stage} {rules : CompiledRules}
    (h : i.allRules date stage = .ok rules) :
    let b := i.stageRulebook stage
    rules.Constrains "04_03" b.storeySelection "Name" (.list i.content.floorNames) ∧
      rules.Constrains "04_06" b.storeySelection "Description"
        (.list i.content.floorDescriptions) ∧
      rules.Constrains "05_03" b.spaceSelection "Name" (.pattern spaceNamePattern) := by
  intro b
  have hyields : b.Yields i (i.stageSettings stage) rules := yields_allRules h
  obtain ⟨⟨a, ha⟩, c, hc⟩ := hyields.exists_selections
  have hsection {p : Nat × StageWindow × List Step} (hp : p ∈ b.sections) {x : Creation}
      (hx : x ∈ creations (Rulebook.sectionScope p.1 p.2.1) p.2.2) :
      x ∈ creations Scope.root.bare b.program := Rulebook.mem_creations_program.mpr ⟨p, hp, hx⟩
  have hfour : (4, .all, b.storeySection) ∈ b.sections := by simp [Rulebook.sections]
  have hfive : (5, .all, b.spaceSection) ∈ b.sections := by simp [Rulebook.sections]
  have happlies {x : Creation} (hstages : x.scope.stages = .all)
      (hpasses : x.scope.passes = .coreOnly) : x.applies (i.stageSettings stage) = true := by
    rw [Creation.applies, hstages, hpasses]
    change (StageWindow.all.includes stage && PassSet.coreOnly.meets .all) = true
    cases stage <;> decide
  obtain ⟨hname, hdescription⟩ := Rulebook.mem_storeySection ha
  obtain ⟨hthree, hsix⟩ := Rulebook.identifiers_storeyScope
  exact ⟨hyields.constrains (hsection hfour hname) (happlies rfl rfl) hthree rfl ha,
    hyields.constrains (hsection hfour hdescription) (happlies rfl rfl) hsix rfl ha,
    hyields.constrains (hsection hfive (Rulebook.mem_spaceSection hc)) (happlies rfl rfl)
      Rulebook.identifier_spaceScope rfl hc⟩

/-! ## Sheets by their classes -/

namespace Content

variable {c : Content} {sheet : AreaDataSheet} {entry : String × List String}

/-- The table has the space classes of the sheets, each once and in the order in which they first
stand, and the code of each sheet is under its own class and nowhere else. -/
structure PartitionsSheets (c : Content) (table : List (String × List String)) : Prop where
  classes : ∀ u, u ∈ table.map Prod.fst ↔ ∃ sheet ∈ c.areaDataSheets, sheet.spaceClass = u
  distinct : (table.map Prod.fst).Nodup
  order : (table.map Prod.fst).Pairwise fun u v =>
    (c.areaDataSheets.map (·.spaceClass)).idxOf u < (c.areaDataSheets.map (·.spaceClass)).idxOf v
  sheets : ∀ sheet ∈ c.areaDataSheets, ∀ entry ∈ table,
    sheet.code ∈ entry.2 ↔ entry.1 = sheet.spaceClass
  codes : (table.flatMap Prod.snd).Perm c.areaDataSheetCodes

theorem map_fst_sheetsByClass (c : Content) :
    c.sheetsByClass.map Prod.fst = (c.areaDataSheets.map (·.spaceClass)).eraseDups := by
  rw [sheetsByClass, List.map_map]
  exact List.map_id _

/-- The codes of a class are those of its sheets. -/
theorem mem_codes_iff (h : entry ∈ c.sheetsByClass) {code : String} :
    code ∈ entry.2 ↔ ∃ sheet ∈ c.areaDataSheets, sheet.spaceClass = entry.1 ∧ sheet.code = code := by
  obtain ⟨u, -, rfl⟩ := List.mem_map.mp h
  simp only [List.mem_map, List.mem_filter, beq_iff_eq, and_assoc]

section Distinct

variable (h : c.areaDataSheetCodes.Nodup)

include h

/-- A sheet has its code under its class alone. -/
theorem code_mem_iff (hsheet : sheet ∈ c.areaDataSheets) (hentry : entry ∈ c.sheetsByClass) :
    sheet.code ∈ entry.2 ↔ entry.1 = sheet.spaceClass := by
  rw [mem_codes_iff hentry]
  constructor
  · rintro ⟨other, hother, hclass, hcode⟩
    rw [← hclass, List.inj_on_of_nodup_map h hother hsheet hcode]
  · exact fun hclass => ⟨sheet, hsheet, hclass.symm, rfl⟩

/-- **Sheets are parted by their classes**, if no two of them have the same code. -/
theorem partitions_sheetsByClass : c.PartitionsSheets c.sheetsByClass := by
  have hnodup : (c.sheetsByClass.map Prod.fst).Nodup := c.map_fst_sheetsByClass ▸ nodup_eraseDups _
  have hinside : ∀ entry ∈ c.sheetsByClass, entry.2.Nodup := by
    refine List.forall_mem_map.mpr fun u _ => h.sublist ?_
    exact List.filter_sublist.map _
  have hapart : c.sheetsByClass.Pairwise (Function.onFun List.Disjoint Prod.snd) := by
    refine (List.pairwise_map.mp hnodup).imp_of_mem fun ha hb hne code hcode hcode' => hne ?_
    obtain ⟨sheet, hsheet, hclass, rfl⟩ := (mem_codes_iff ha).mp hcode
    rw [← hclass, (code_mem_iff h hsheet hb).mp hcode']
  refine ⟨fun u => ?_, hnodup, c.map_fst_sheetsByClass ▸ pairwise_eraseDups _,
    fun sheet hsheet entry => code_mem_iff h hsheet, ?_⟩
  · rw [map_fst_sheetsByClass, List.mem_eraseDups, List.mem_map]
  · refine (List.perm_ext_iff_of_nodup (List.nodup_flatMap.mpr ⟨hinside, hapart⟩) h).mpr
      fun code => ?_
    rw [List.mem_flatMap, areaDataSheetCodes, List.mem_map]
    constructor
    · rintro ⟨entry, hentry, hcode⟩
      obtain ⟨sheet, hsheet, -, hcode⟩ := (mem_codes_iff hentry).mp hcode
      exact ⟨sheet, hsheet, hcode⟩
    · rintro ⟨sheet, hsheet, rfl⟩
      have hclass : sheet.spaceClass ∈ c.sheetsByClass.map Prod.fst := by
        rw [map_fst_sheetsByClass, List.mem_eraseDups]
        exact List.mem_map_of_mem hsheet
      obtain ⟨entry, hentry, hsame⟩ := List.mem_map.mp hclass
      exact ⟨entry, hentry, (code_mem_iff h hsheet hentry).mpr hsame⟩

/-- One class has the code of a sheet. -/
theorem exists_filter_sheetsByClass (hsheet : sheet ∈ c.areaDataSheets) :
    ∃ codes, c.sheetsByClass.filter (·.2.contains sheet.code) = [(sheet.spaceClass, codes)] := by
  have hclass : sheet.spaceClass ∈ (c.areaDataSheets.map (·.spaceClass)).eraseDups :=
    List.mem_eraseDups.mpr (List.mem_map_of_mem hsheet)
  have hcontains : ∀ entry ∈ c.sheetsByClass,
      entry.2.contains sheet.code = (entry.1 == sheet.spaceClass) := by
    intro entry hentry
    rw [Bool.eq_iff_iff, List.contains_iff_mem, beq_iff_eq, code_mem_iff h hsheet hentry]
  have hone : (c.areaDataSheets.map (·.spaceClass)).eraseDups.filter (· == sheet.spaceClass) =
      [sheet.spaceClass] := by
    rw [List.filter_beq, List.count_eq_one_of_mem (nodup_eraseDups _) hclass]
    rfl
  rw [List.filter_congr hcontains, sheetsByClass, List.filter_map]
  refine ⟨(c.areaDataSheets.filter (·.spaceClass == sheet.spaceClass)).map (·.code), ?_⟩
  exact congrArg (List.map _) hone

end Distinct

/-- Three sheets of two classes. -/
def ofSheets : Content where
  floors := []
  zones := []
  areaDataSheets := [⟨"CLA11", "", "SL_25_10_14"⟩, ⟨"LRA03", "", "SL_90_20_48"⟩,
    ⟨"CLA12", "", "SL_25_10_14"⟩]
  spaceClasses := []

example : ofSheets.sheetsByClass =
    [("SL_25_10_14", ["CLA11", "CLA12"]), ("SL_90_20_48", ["LRA03"])] := by
  decide

end Content

/-! ## Rules of section 05.15 -/

/-- The rule is made for all stages, in the complex pass, and demands the class of an entry of
spaces with one of its sheets. -/
structure Creation.IsForSheets (x : Creation) (entry : String × List String) : Prop where
  stages : x.scope.stages = .all
  passes : x.scope.passes = .complexOnly
  selects : ∃ types, x.applicability.facets =
    [.entity types none, .classification (some (.pattern ".*ADS.*")) (some (.list entry.2))]
  demands : x.requirement =
    .classificationHasValue "Uniclass" (.pattern Rulebook.Patterns.uniclass) entry.1

/-- Objects of some types are selected by one facet. -/
theorem SchemaView.exists_facets_select {v : SchemaView} {label : String} {names : List String}
    {a : FacetGroup} (h : v.select label names = .ok a) :
    ∃ types, a.facets = [.entity types none] := by
  obtain ⟨found, -, h⟩ := exists_of_bind_ok h
  split at h
  · cases h
  · cases h
    exact ⟨_, rfl⟩

namespace Rulebook

variable (b : Rulebook)

/-- The scope of section 05.15. -/
def sheetScope : Scope := ((spaceScope 14).openChild "" .around).1

theorem ident_sheetScope : sheetScope.ident = "05_15" := by
  decide +kernel

/-- Section 05 ends with the scope of section 05.15. -/
theorem spaceSection_eq {a : FacetGroup} (h : b.spaceSelection = .ok a) :
    ∃ front, b.spaceSection = front ++ [.scope .sectional "" b.consistencySection] ∧
      front.foldl Step.next (sectionScope 5 .all) = spaceScope 14 ∧
      (∀ step ∈ front, step.InSection) ∧
      ∀ step ∈ front, ∀ kind name body, step ≠ .scope kind name body := by
  rw [spaceSelection] at h
  rw [spaceSection, h]
  refine ⟨.setTag "Space" :: _, List.cons_append.symm, rfl, ?_, ?_⟩
  · have hsection := b.inSection_spaceSection
    rw [spaceSection, h] at hsection
    exact fun step hstep => hsection step (List.mem_append_left _ hstep)
  · simp [Step.rules, Step.within]

/-- The steps about the sheets of a space class. -/
def sheetSteps (entry : String × List String) : List Step :=
  .setName entry.1 :: Step.about (do
      return (← b.schema.select ("Spaces with ADS '" ++ codesLabel entry.2 ++ "'") ["IfcSpace"])
        |>.classified (.pattern ".*ADS.*") entry.2) fun a =>
    Step.rules a [.classificationHasValue "Uniclass" (.pattern Patterns.uniclass) entry.1]

theorem consistencySection_eq : b.consistencySection =
    [.setPasses .complexOnly, .setRequirement .optional] ++
      b.content.sheetsByClass.flatMap b.sheetSteps := rfl

variable {b} {s : Scope} {table : List (String × List String)}

/-- Each entry gives its rule, in order. -/
theorem forall₂_creations_sheetSteps (hstages : s.stages = .all) (hpasses : s.passes = .complexOnly)
    (h : ∀ entry ∈ table, ∀ step ∈ b.sheetSteps entry, step.failures = []) :
    List.Forall₂ (fun entry (x : Creation) => x.IsForSheets entry) table
      (creations s (table.flatMap b.sheetSteps)) := by
  induction table generalizing s with
  | nil => exact .nil
  | cons entry table ih =>
    obtain ⟨hentry, hrest⟩ := List.forall_mem_cons.mp h
    obtain ⟨found, hfound⟩ : ∃ found, b.schema.select
        ("Spaces with ADS '" ++ codesLabel entry.2 ++ "'") ["IfcSpace"] = .ok found := by
      cases hselect : b.schema.select ("Spaces with ADS '" ++ codesLabel entry.2 ++ "'")
          ["IfcSpace"] with
      | ok found => exact ⟨found, rfl⟩
      | error fault =>
        have hfails := hentry (.fail fault) (by
          rw [sheetSteps, hselect]
          exact List.mem_cons_of_mem _ (List.mem_singleton_self _))
        cases hfails
    obtain ⟨types, htypes⟩ := SchemaView.exists_facets_select hfound
    have hsteps : b.sheetSteps entry = [.setName entry.1,
        .create (found.classified (.pattern ".*ADS.*") entry.2)
          (.classificationHasValue "Uniclass" (.pattern Patterns.uniclass) entry.1) none] := by
      rw [sheetSteps, hfound]
      rfl
    rw [List.flatMap_cons, creations_append, hsteps]
    refine .cons ⟨hstages, hpasses, ⟨types, ?_⟩, rfl⟩ (ih hstages hpasses hrest)
    rw [FacetGroup.classified, FacetGroup.addFacet, htypes]
    rfl

/-- Of section 05, these rules are in the scope of section 05.15. -/
theorem filter_creations_spaceSection {a : FacetGroup} (h : b.spaceSelection = .ok a) :
    (creations (sectionScope 5 .all) b.spaceSection).filter (isBelow "05_15" ·.identifier) =
      creations sheetScope b.consistencySection := by
  obtain ⟨front, heq, hscope, hsection, hplain⟩ := b.spaceSection_eq h
  have hfive : (sectionScope 5 .all).OfSection := ⟨rfl, rfl, by decide +kernel, by decide +kernel⟩
  have hfront : (creations (sectionScope 5 .all) front).filter (isBelow "05_15" ·.identifier) =
      [] := by
    refine List.filter_eq_nil_iff.mpr fun x hx hbelow => ?_
    have hmany := separators_of_isBelow hbelow
    rw [separators_creations hfive hsection hplain x hx] at hmany
    exact absurd hmany (by decide)
  have hlast : creations (spaceScope 14) [.scope .sectional "" b.consistencySection] =
      creations sheetScope b.consistencySection := List.append_nil _
  rw [heq, creations_append, hscope, hlast, List.filter_append, hfront, List.nil_append,
    List.filter_eq_self]
  intro x hx
  have hident : sheetScope.ident ≠ "" := ident_sheetScope ▸ by decide
  obtain ⟨hunder, hne⟩ := under_creations hident _ hx
  rw [ident_sheetScope] at hunder hne
  exact isBelow_of_under hunder hne

/-- So they are of the whole rulebook. -/
theorem filter_creations_program {a : FacetGroup} (h : b.spaceSelection = .ok a) :
    (creations Scope.root.bare b.program).filter (isBelow "05_15" ·.identifier) =
      creations sheetScope b.consistencySection := by
  have hother {n : Nat} {stages : StageWindow} {body : List Step} (hn : n ≠ 5) :
      (creations (sectionScope n stages) body).filter (isBelow "05_15" ·.identifier) = [] := by
    refine List.filter_eq_nil_iff.mpr fun x hx hbelow => hn ?_
    have hslot : slotIdent "05" "15" = "05_15" := rfl
    have hfive := under_of_slotIdent (by decide) (hslot ▸ under_of_isBelow hbelow)
    exact section_eq (under_section hx) hfive.1
  rw [creations_program, sections, List.filter_flatMap]
  simp only [List.flatMap_cons, List.flatMap_nil, filter_creations_spaceSection h]
  simp [hother]

/-- Of a rulebook that can be compiled, all rules of section 05.15 can be made. -/
theorem Yields.failures_sheetSteps {i : Inputs} {settings : CompilerSettings}
    {rules : CompiledRules} (h : b.Yields i settings rules) :
    ∀ entry ∈ b.content.sheetsByClass, ∀ step ∈ b.sheetSteps entry, step.failures = [] := by
  obtain ⟨-, a, ha⟩ := h.exists_selections
  obtain ⟨front, heq, -⟩ := b.spaceSection_eq ha
  have hspaces : Step.scope .sectional "" b.spaceSection ∈ b.program := by
    simp [program, spatialSections]
  have hsheets : Step.scope .sectional "" b.consistencySection ∈ b.spaceSection :=
    heq ▸ List.mem_append_right _ (List.mem_singleton_self _)
  have hnone : Eir.failures b.consistencySection = [] :=
    failures_eq_nil_of_mem (failures_eq_nil_of_mem h.failures hspaces) hsheets
  intro entry hentry step hstep
  refine failures_eq_nil_of_mem hnone ?_
  rw [consistencySection_eq]
  exact List.mem_append_right _ (List.mem_flatMap.mpr ⟨entry, hentry, hstep⟩)

end Rulebook

/-- The codes of area data sheets that a rule selects spaces by. -/
def Specification.sheetCodes (s : Specification) : List String :=
  s.applicability.facets.flatMap fun
    | .classification (some (.pattern ".*ADS.*")) (some (.list codes)) => codes
    | _ => []

/-- The rule demands that what it selects is in the space class. -/
def Specification.DemandsClass (s : Specification) (spaceClass : String) : Prop :=
  s.requirement.facets =
    [.classification (some (.pattern Rulebook.Patterns.uniclass)) (some (.exact spaceClass))]

theorem Creation.IsForSheets.of_gives {x : Creation} {entry : String × List String}
    (h : x.IsForSheets entry) {spec : Specification} (hgives : x.Gives spec) :
    spec.sheetCodes = entry.2 ∧ spec.DemandsClass entry.1 := by
  obtain ⟨types, htypes⟩ := h.selects
  rw [Specification.sheetCodes, Specification.DemandsClass, hgives.applicability, htypes,
    hgives.requirement, h.demands]
  exact ⟨List.append_nil _, rfl⟩

namespace Inputs

open Rulebook

variable {i : Inputs} {date : Date} {stage : Stage} {rules : CompiledRules}

/-- **The rules of section 05.15.** There is one for each entry of the sheets by their classes, in
the same order. It is about the spaces with one of the sheets of the entry, and demands its class. -/
theorem sheetRules (h : i.allRules date stage = .ok rules) :
    List.Forall₂ (fun entry (spec : Specification) =>
        spec.sheetCodes = entry.2 ∧ spec.DemandsClass entry.1)
      i.content.sheetsByClass (rules.specifications.filter (isBelow "05_15" ·.identifier)) := by
  have hyields := yields_allRules h
  obtain ⟨-, a, ha⟩ := hyields.exists_selections
  have hsheets : List.Forall₂ (fun entry (x : Creation) => x.IsForSheets entry)
      i.content.sheetsByClass (creations sheetScope (i.stageRulebook stage).consistencySection) := by
    rw [consistencySection_eq, creations_append]
    exact forall₂_creations_sheetSteps rfl rfl hyields.failures_sheetSteps
  have hsection : ((creations Scope.root.bare (i.stageRulebook stage).program).filter
      (·.applies (i.stageSettings stage))).filter (isBelow "05_15" ·.identifier) =
        creations sheetScope (i.stageRulebook stage).consistencySection := by
    rw [List.filter_comm, filter_creations_program ha, List.filter_eq_self]
    intro x hx
    obtain ⟨entry, -, hfor⟩ := exists_of_mem_right hsheets hx
    rw [Creation.applies, hfor.stages, hfor.passes]
    change (StageWindow.all.includes stage && PassSet.complexOnly.meets .all) = true
    cases stage <;> decide
  have hgives := forall₂_filter hyields.made (p := (isBelow "05_15" ·.identifier))
    (q := (isBelow "05_15" ·.identifier)) fun x spec hgives => by rw [hgives.identifier]
  rw [hsection] at hgives
  exact forall₂_trans hsheets hgives fun entry x spec hfor hx => hfor.of_gives hx

/-- **One rule for each sheet.** If no two sheets have the same code, one rule of section 05.15 is
about the spaces with a sheet, and it demands the class that the sheet belongs to. -/
theorem exists_sheetRule (h : i.allRules date stage = .ok rules)
    (hnodup : i.content.areaDataSheetCodes.Nodup) {sheet : AreaDataSheet}
    (hsheet : sheet ∈ i.content.areaDataSheets) :
    ∃ rule, (rules.specifications.filter fun spec => isBelow "05_15" spec.identifier &&
        spec.sheetCodes.contains sheet.code) = [rule] ∧ rule.DemandsClass sheet.spaceClass := by
  obtain ⟨codes, hone⟩ := Content.exists_filter_sheetsByClass hnodup hsheet
  have hrules := forall₂_filter (sheetRules h) (p := (·.2.contains sheet.code))
    (q := (·.sheetCodes.contains sheet.code)) fun entry spec hspec => by rw [hspec.1]
  rw [hone, List.filter_comm, List.filter_filter] at hrules
  cases hfound : rules.specifications.filter fun spec => isBelow "05_15" spec.identifier &&
      spec.sheetCodes.contains sheet.code with
  | nil =>
    rw [hfound] at hrules
    cases hrules
  | cons rule others =>
    rw [hfound] at hrules
    cases hrules with
    | cons hrule hothers =>
      cases hothers
      exact ⟨rule, rfl, hrule.2⟩

end Inputs

end Eir
