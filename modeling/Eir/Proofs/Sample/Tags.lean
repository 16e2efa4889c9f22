import Eir.Proofs.Sample.Presence
import Eir.Run.Basic

/-!
# Samples name rules that exist

Tags come from the index of the rules, in which each identifier is that of a rule
(`Yields.exists_of_lists`). What is done to samples afterwards keeps their tags, or
adds one of a script (`CorruptionRun.Cites.steps`). So each tag in a model is the
identifier of a rule of its stage (`tags_name_rules`).
-/

namespace Eir

open Compiler IndexedRule

/-! ## Identifiers of an index -/

namespace RuleIndex

variable {index : RuleIndex} {key : RuleKey} {id : String}

/-- The identifier is found under some key. -/
def Lists (index : RuleIndex) (id : String) : Prop := ∃ key, id ∈ index.lookupAll key

theorem lists_of_lookup (h : index.lookup? key = some id) : index.Lists id :=
  ⟨key, List.mem_of_mem_head? h⟩

theorem containsIdentifier_of_lists (h : index.Lists id) : index.containsIdentifier id = true := by
  have hlisted {key : RuleKey} {ids : List String} (hkey : index.entries[key]? = some ids)
      (hid : id ∈ ids) : index.containsIdentifier id = true := by
    rw [containsIdentifier, List.any_eq_true]
    exact ⟨(key, ids), Std.HashMap.mem_toList_iff_getElem?_eq_some.mpr hkey,
      List.contains_iff_mem.mpr hid⟩
  obtain ⟨key, hid⟩ := h
  rw [lookupAll] at hid
  split at hid
  · rename_i found hfound
    exact hlisted hfound hid
  · rw [Std.HashMap.getD_eq_getD_getElem?] at hid
    cases hfound : index.entries[({ key with subKind := none } : RuleKey)]? with
    | none =>
      rw [hfound] at hid
      cases hid
    | some found =>
      rw [hfound] at hid
      exact hlisted hfound hid

end RuleIndex

/-- Each identifier of the index is that of a rule. -/
theorem Rulebook.Yields.exists_of_lists {b : Rulebook} {i : Inputs} {settings : CompilerSettings}
    {rules : CompiledRules} (h : b.Yields i settings rules) {id : String}
    (hid : rules.index.Lists id) : ∃ spec ∈ rules.specifications, spec.identifier = id := by
  obtain ⟨key, hmem⟩ := hid
  obtain ⟨x, -, rfl, -, spec, hspec, hgives⟩ := h.exists_of_mem_lookupAll hmem
  exact ⟨spec, hspec, hgives.identifier⟩

/-! ## Tags of samples -/

variable {P : String → Prop}

/-- The tags of the sample are among some texts. -/
def Sample.Cites (P : String → Prop) (x : Sample) : Prop := ∀ id ∈ x.tags, P id

namespace Sample

variable {x y : Sample}

theorem Cites.addTag (h : x.Cites P) {tag : Option String} (htag : ∀ id ∈ tag, P id) :
    (x.addTag tag).Cites P := fun id hid =>
  (List.mem_append.mp hid).elim (h id) fun hid => htag id (Option.mem_toList.mp hid)

theorem cites_of_eq_nil (h : x.tags = []) : x.Cites P := fun id hid => by
  rw [h] at hid
  cases hid

/-- A sample without tags has none but the one that is added. -/
theorem cites_addTag (h : x.tags = []) {tag : Option String} (htag : ∀ id ∈ tag, P id) :
    (x.addTag tag).Cites P := (cites_of_eq_nil h).addTag htag

theorem Furnishes.cites (h : y.Furnishes x) (hx : x.Cites P) : y.Cites P := fun id hid =>
  hx id (h.tags ▸ hid)

theorem Plain.cites (h : x.Plain) : x.Cites P := cites_of_eq_nil h.2

end Sample

/-! ## Tags under corruption -/

/-- The samples and the records have tags among some texts. -/
structure CorruptionRun.Cites (P : String → Prop) (run : CorruptionRun) : Prop where
  samples : ∀ x ∈ run.samples, x.Cites P
  records : ∀ r ∈ run.records, ∀ id ∈ r.tag, P id

namespace CorruptionRun.Cites

variable {run : CorruptionRun} {step : CorruptionStep} {script : List CorruptionStep}

/-- A step adds no other tag than its own. -/
theorem strike (h : run.Cites P) (hstep : ∀ id ∈ step.tag, P id) {index : Nat} {x : Sample}
    (hx : run.samples[index]? = some x) : (run.strike step index x).Cites P where
  samples := fun y hy => by
    rcases List.mem_or_eq_of_mem_set hy with hy | rfl
    · exact h.samples y hy
    · have hkept : x.Cites P := h.samples x (List.mem_of_getElem? hx)
      rw [CorruptionStep.strike]
      split
      · exact Sample.Cites.addTag hkept hstep
      · exact hkept
  records := List.forall_mem_append.mpr ⟨h.records, List.forall_mem_singleton.mpr hstep⟩

/-- Nor does a script, as far as it gets. -/
theorem steps (h : run.Cites P) (hscript : ∀ step ∈ script, ∀ id ∈ step.tag, P id)
    (targets : List Nat) (cursor : RoundRobin) :
    (CorruptionRun.steps targets cursor run script).1.Cites P := by
  induction script generalizing cursor run with
  | nil => exact h
  | cons step script ih =>
    obtain ⟨hstep, hscript⟩ := List.forall_mem_cons.mp hscript
    rw [CorruptionRun.steps]
    split
    · exact h
    · extract_lets index
      split
      · exact h
      · rename_i x hx
        exact ih (h.strike hstep hx) hscript _

theorem corrupt {samples : List Sample} (h : ∀ x ∈ samples, x.Cites P)
    (hscript : ∀ step ∈ script, ∀ id ∈ step.tag, P id) (targets : List Nat) :
    (Eir.corrupt samples targets script).1.Cites P := by
  have hstart : CorruptionRun.Cites P ⟨samples, [], []⟩ := ⟨h, List.forall_mem_nil _⟩
  have hsteps := hstart.steps hscript targets (.ofSize targets.length)
  rw [Eir.corrupt]
  split
  · rename_i run heq
    rw [heq] at hsteps
    split
    · exact ⟨hsteps.samples, hsteps.records⟩
    · exact hsteps
  · exact hsteps

end CorruptionRun.Cites

/-- All tags in the model are among some texts. -/
structure SampleModel.Cites (P : String → Prop) (m : SampleModel) : Prop where
  samples : ∀ x ∈ m.samples, x.Cites P
  corruptions : ∀ r ∈ m.corruptions, ∀ id ∈ r.tag, P id

namespace SampleModel.Cites

variable {m m' : SampleModel}

theorem stamped (h : m.Cites P) : m.stamped.Cites P where
  samples := fun y hy => by
    obtain ⟨x, hx, hfurnishes⟩ := exists_of_mem_left (SampleSources.furnishes_stamped m) hy
    exact hfurnishes.cites (h.samples x hx)
  corruptions := h.corruptions

theorem corrupted (h : m.Cites P) {targets : List Nat} {script : List CorruptionStep}
    (hscript : ∀ step ∈ script, ∀ id ∈ step.tag, P id)
    (hm : m.corrupted targets script = .ok m') : m'.Cites P := by
  have hcorrupt := CorruptionRun.Cites.corrupt h.samples hscript targets
  rw [SampleModel.corrupted, SampleModel.corrupt] at hm
  rcases hrun : Eir.corrupt m.samples targets script with ⟨run, _ | fault⟩
  · rw [hrun] at hm hcorrupt
    cases hm
    exact ⟨hcorrupt.samples, List.forall_mem_append.mpr ⟨h.corruptions, hcorrupt.records⟩⟩
  · rw [hrun] at hm
    cases hm

end SampleModel.Cites

/-! ## Tags of the sources -/

/-- The rule that fails is among some texts. -/
def Breakage.Cites (P : String → Prop) (b : Breakage) : Prop := ∀ id ∈ b.tag, P id

namespace SampleSources

variable {s : SampleSources} {entity subject : String} {kind : RequirementKind}

theorem lists_tag {subKind : Option String} :
    ∀ id ∈ s.tag entity subKind kind subject, s.index.Lists id := fun _ => RuleIndex.lists_of_lookup

theorem lists_tagAny {kinds : List RequirementKind} :
    ∀ id ∈ s.tagAny entity kinds subject, s.index.Lists id := fun id hid => by
  obtain ⟨kind, -, hfound⟩ := List.exists_of_findSome?_eq_some hid
  exact RuleIndex.lists_of_lookup hfound

theorem lists_strictTag : ∀ id ∈ s.strictTag entity kind subject, s.index.Lists id :=
  fun _ hid => ⟨_, List.mem_of_getLast? hid⟩

/-! ## The spatial model -/

theorem lists_storeyScript : ∀ step ∈ s.storeyScript, ∀ id ∈ step.tag, s.index.Lists id := by
  simp only [storeyScript, List.forall_mem_cons]
  exact ⟨lists_tag, lists_tag, lists_tag, List.forall_mem_nil _⟩

theorem lists_roomScript : ∀ step ∈ s.roomScript, ∀ id ∈ step.tag, s.index.Lists id := by
  simp only [roomScript, List.forall_mem_cons]
  exact ⟨lists_tag, lists_tag, lists_tagAny, lists_tagAny, lists_tag, lists_tag, lists_tag,
    lists_tag, lists_tag, lists_tag, List.forall_mem_nil _⟩

theorem lists_zoneScript : ∀ step ∈ s.zoneScript, ∀ id ∈ step.tag, s.index.Lists id := by
  simp only [zoneScript, List.forall_mem_cons]
  exact ⟨lists_tag, lists_tag, lists_tag, lists_tag, lists_tag, lists_tag, List.forall_mem_nil _⟩

theorem cites_breakRooms {m m' : SampleModel} (h : m.Cites s.index.Lists) {rooms : List Nat}
    (hm : s.breakRooms m rooms = .ok m') : m'.Cites s.index.Lists := by
  cases rooms with
  | nil => cases hm
  | cons first rooms =>
    rw [breakRooms] at hm
    split at hm
    · cases hm
    · obtain ⟨next, hnext, hm⟩ := exists_of_bind_ok hm
      refine (h.corrupted (List.forall_mem_append.mpr ⟨lists_roomScript, ?_⟩) hnext).corrupted ?_ hm
      · exact List.forall_mem_singleton.mpr lists_tag
      · exact List.forall_mem_singleton.mpr nofun

theorem cites_breakZones {m m' : SampleModel} (h : m.Cites s.index.Lists) {zones : List Nat}
    (hm : s.breakZones m zones = .ok m') : m'.Cites s.index.Lists := by
  rw [breakZones] at hm
  split at hm
  · cases hm
    exact h
  · exact h.corrupted lists_zoneScript hm

theorem plain_roomSamples {storeys made : List Sample} {rooms : List String}
    (h : s.roomSamples storeys rooms = .ok made) : ∀ x ∈ made, x.Plain := by
  rw [roomSamples] at h
  extract_lets places at h
  split at h
  · cases h
  · refine forall_of_mapM_ok h fun ((storey, room), i) x hx => ?_
    dsimp only at hx
    split at hx
    · cases hx
      exact plain_sampleOf
    · cases hx

theorem plain_zoned {rooms zones made : List Sample} (h : zoned rooms zones = .ok made)
    (hrooms : ∀ x ∈ rooms, x.Plain) : ∀ x ∈ made, x.Plain := by
  rw [zoned] at h
  split at h
  · cases h
  · cases h
    intro x hx
    obtain ⟨i, hi, rfl⟩ := List.mem_mapIdx.mp hx
    exact hrooms rooms[i] (List.getElem_mem hi)

theorem plain_openings (room : Sample) : ∀ x ∈ openings room, x.Plain := by
  simp only [openings, List.forall_mem_cons]
  exact ⟨plain_sampleOf, plain_sampleOf, List.forall_mem_nil _⟩

/-- The spatial model begins without tags, and its scripts take theirs from the index. -/
theorem cites_spatialModel {m : SampleModel} (h : s.spatialModel = .ok m) :
    m.Cites s.index.Lists := by
  rw [spatialModel] at h
  obtain ⟨lower, hlower, h⟩ := exists_of_bind_ok h
  obtain ⟨upper, hupper, h⟩ := exists_of_bind_ok h
  obtain ⟨rooms, hzoned, h⟩ := exists_of_bind_ok h
  extract_lets ground start at h
  have hplain : ∀ x ∈ start.samples, x.Plain := by
    have hrooms : ∀ x ∈ rooms, x.Plain := plain_zoned hzoned
      (List.forall_mem_append.mpr ⟨plain_roomSamples hlower, plain_roomSamples hupper⟩)
    have hplaces := s.plain_places .stage3
    simp only [start, SampleModel.extend, SampleModel.empty, List.nil_append,
      List.forall_mem_append] at hplaces ⊢
    refine ⟨⟨⟨(hplaces _ []).1, hrooms⟩, (hplaces [] _).2⟩, fun x hx => ?_⟩
    obtain ⟨room, -, hx⟩ := List.mem_flatMap.mp hx
    exact plain_openings room x hx
  have hstart : start.Cites s.index.Lists :=
    ⟨fun x hx => (hplain x hx).cites, List.forall_mem_nil _⟩
  split at h
  · obtain ⟨storeyBroken, hstorey, h⟩ := exists_of_bind_ok h
    obtain ⟨roomsBroken, hrooms, h⟩ := exists_of_bind_ok h
    obtain ⟨zonesBroken, hzones, h⟩ := exists_of_bind_ok h
    cases h
    exact (cites_breakZones (cites_breakRooms (hstart.corrupted lists_storeyScript hstorey) hrooms)
      hzones).stamped
  · cases h

/-! ## The metadata model -/

theorem cites_propertyBreakage {description set name : String} {change : Change} :
    (s.propertyBreakage entity description set name change kind).Cites s.index.Lists := lists_tag

theorem cites_strictBreakage {description set name : String} {change : Change} :
    (s.strictBreakage entity description set name change kind).Cites s.index.Lists :=
  lists_strictTag

theorem cites_blankBreakage {description attr : String} :
    (s.blankBreakage entity description attr).Cites s.index.Lists := lists_tag

theorem cites_warrantyBreakages (guarantor duration : String) :
    ∀ b ∈ s.warrantyBreakages guarantor duration, b.Cites s.index.Lists := by
  simp only [warrantyBreakages, List.forall_mem_cons, cites_propertyBreakage, cites_strictBreakage,
    true_and]
  exact List.forall_mem_nil _

theorem cites_typeBreakages : ∀ b ∈ s.typeBreakages, b.Cites s.index.Lists := by
  have hclass : Breakage.Cites s.index.Lists ⟨"No product classification",
      .classification ProductData.productSystem, .away,
      s.tag brokenType none .classificationPattern Rulebook.Patterns.uniclass⟩ := lists_tag
  simp only [typeBreakages, List.forall_mem_append, List.forall_mem_cons, List.forall_mem_map,
    cites_propertyBreakage, cites_strictBreakage, cites_blankBreakage, hclass, true_and]
  exact ⟨⟨⟨⟨⟨List.forall_mem_nil _, cites_warrantyBreakages _ _⟩, cites_warrantyBreakages _ _⟩,
    List.forall_mem_nil _⟩, fun _ _ => trivial⟩, fun _ _ => trivial⟩

theorem cites_doorBreakages : ∀ b ∈ s.doorBreakages, b.Cites s.index.Lists := by
  simp only [doorBreakages, List.forall_mem_cons, cites_propertyBreakage, cites_blankBreakage,
    true_and]
  exact List.forall_mem_nil _

/-- What is pushed for a type object has a tag that was looked up. -/
theorem Pushes.cites {t : EntityType} {first : Nat} {kinds : List (Option String)} {x : Sample}
    (h : s.Pushes t first kinds x) : x.Cites s.index.Lists := by
  cases h with
  | good => exact Sample.cites_addTag rfl lists_tag
  | bad => exact Sample.cites_addTag rfl lists_tag
  | undefined => exact Sample.cites_addTag rfl lists_tag

/-- So has what is made for an occurrence. -/
theorem cites_of_makes {o : Occurrence} {kinds : List (Option String)} {x : Sample}
    (h : s.synthesizer.Makes o kinds x) : x.Cites s.index.Lists := by
  have hnaming (subKind : Option String) :
      ∀ id ∈ s.synthesizer.namingTag o subKind, s.index.Lists id := fun id hid =>
    (Option.or_eq_some_iff.mp hid).elim RuleIndex.lists_of_lookup fun h =>
      RuleIndex.lists_of_lookup h.2
  cases h with
  | good => exact Sample.cites_addTag rfl (hnaming _)
  | bad => exact Sample.cites_addTag rfl (hnaming _)
  | undefined => exact Sample.cites_addTag rfl lists_tag

theorem AboutOne.cites {P : String → Prop} {breakages : List Breakage} {x : Sample}
    (h : AboutOne breakages x) (hcites : ∀ b ∈ breakages, b.Cites P) : x.Cites P := by
  intro id hid
  rcases h with htags | ⟨b, hb, htags⟩ <;> rw [htags] at hid
  · cases hid
  · exact hcites b hb id (Option.mem_toList.mp hid)

/-- The samples of the metadata model take their tags from the index. -/
theorem cites_metadataModel {m : SampleModel} (h : s.metadataModel = .ok m) :
    m.Cites s.index.Lists := by
  obtain ⟨types, occurrences, places, furnished, broken, hparts⟩ := parts_of_metadataModel h
  refine ⟨fun y hy => ?_, by rw [hparts.corruptions]; exact List.forall_mem_nil _⟩
  obtain ⟨z, hz, hstamped⟩ := exists_of_mem_left hparts.stamped hy
  refine hstamped.cites ?_
  simp only [List.mem_append] at hz
  rcases hz with ((hz | hz) | hz) | hz
  · exact (hparts.plain z hz).cites
  · obtain ⟨t, -, hz⟩ := List.mem_flatMap.mp hz
    exact (s.pushes_typesOfKinds t 1 _ z hz).cites
  · obtain ⟨x, hx, hfurnished⟩ := exists_of_mem_left hparts.furnishes hz
    obtain ⟨counters, hsynthesized⟩ := hparts.synthesized
    obtain ⟨found, -, hmade⟩ := Synthesizer.exists_of_mem_synthesize hsynthesized
    obtain ⟨t, -, st, samples, st', hrun, hmem⟩ := hmade x hx
    obtain ⟨o, -, hmakes⟩ := Synthesizer.makes_samplesOf hrun
    exact hfurnished.cites (cites_of_makes (hmakes x hmem))
  · exact (hparts.broken z hz).2.cites
      (List.forall_mem_append.mpr ⟨cites_typeBreakages, cites_doorBreakages⟩)

end SampleSources

/-! ## Both models -/

/-- The text is the identifier of a rule, in the index and among the specifications. -/
def CompiledRules.Identifies (rules : CompiledRules) (id : String) : Prop :=
  rules.index.containsIdentifier id = true ∧ ∃ spec ∈ rules.specifications, spec.identifier = id

/-- **Samples name rules that exist.** When all rules of the stage of a sample model can be compiled
and the model be made with them, every tag of its samples and every tag in the log of what was
broken in them is in the index of the rules, and is the identifier of one of the specifications. -/
theorem tags_name_rules (i : Inputs) (date : Date) (stage : Stage)
    (build : SampleSources → Except RunError SampleModel)
    (hkind : (stage, build) ∈ Publisher.sampleModels) (rules : CompiledRules)
    (hrules : i.allRules date stage = .ok rules) (m : SampleModel)
    (hmodel : build ⟨i, rules.index⟩ = .ok m) :
    (∀ x ∈ m.samples, ∀ id ∈ x.tags, rules.Identifies id) ∧
      ∀ r ∈ m.corruptions, ∀ id, r.tag = some id → rules.Identifies id := by
  have hcites : m.Cites rules.index.Lists := by
    simp only [Publisher.sampleModels, List.mem_cons, Prod.mk.injEq, List.not_mem_nil, or_false]
      at hkind
    rcases hkind with ⟨-, rfl⟩ | ⟨-, rfl⟩
    · exact SampleSources.cites_spatialModel hmodel
    · exact SampleSources.cites_metadataModel hmodel
  have hidentifies (id : String) (hid : rules.index.Lists id) : rules.Identifies id :=
    ⟨RuleIndex.containsIdentifier_of_lists hid, (Inputs.yields_allRules hrules).exists_of_lists hid⟩
  exact ⟨fun x hx id hid => hidentifies id (hcites.samples x hx id hid),
    fun r hr id hid => hidentifies id (hcites.corruptions r hr id hid)⟩

/-- The log of the spatial model of the house has an entry for each step. -/
theorem spatial_of_house :
    ((Inputs.ofHouse.allRules default .stage3).toOption.any fun rules =>
      (SampleSources.ofHouse rules.index).spatialModel.toOption.any fun m =>
        m.corruptions.length == 15) = true := by
  decide +kernel

/-- Both models of the house can be made, and their tags are identifiers of rules. -/
theorem tags_of_house :
    (∃ rules m, Inputs.ofHouse.allRules default .stage3 = .ok rules ∧
      (SampleSources.ofHouse rules.index).spatialModel = .ok m ∧ m.corruptions.length = 15 ∧
      ∀ r ∈ m.corruptions, ∀ id, r.tag = some id → rules.Identifies id) ∧
    ∃ rules m, Inputs.ofHouse.allRules default .stage5 = .ok rules ∧
      (SampleSources.ofHouse rules.index).metadataModel = .ok m ∧
      (∃ x ∈ m.samples, x.tags = ["08_02_Door"]) ∧ rules.Identifies "08_02_Door" := by
  constructor
  · obtain ⟨rules, hrules, hspatial⟩ := exists_ok_of_any spatial_of_house
    obtain ⟨m, hmodel, hlength⟩ := exists_ok_of_any hspatial
    have hnames := tags_name_rules Inputs.ofHouse default .stage3 SampleSources.spatialModel
      List.mem_cons_self rules hrules m hmodel
    exact ⟨rules, m, hrules, hmodel, eq_of_beq hlength, hnames.2⟩
  · obtain ⟨rules, hrules⟩ := Inputs.exists_rules_of_house default
    obtain ⟨m, hmodel⟩ := SampleSources.exists_model_of_house rules.index
    obtain ⟨types, occurrences, places, furnished, broken, hparts⟩ :=
      SampleSources.parts_of_metadataModel hmodel
    obtain ⟨counters, hsynthesized⟩ := hparts.synthesized
    obtain ⟨x, hx, -, -, htags⟩ := SampleSources.exists_door_of_house hrules hsynthesized
    obtain ⟨y, hy, hfurnishes⟩ := hparts.exists_of_occurrence hx
    have hytags : y.tags = ["08_02_Door"] := hfurnishes.tags.trans htags
    have hnames := tags_name_rules Inputs.ofHouse default .stage5 SampleSources.metadataModel
      (List.mem_cons_of_mem _ List.mem_cons_self) rules hrules m hmodel
    exact ⟨rules, m, hrules, hmodel, ⟨y, hy, hytags⟩,
      hnames.1 y hy _ (hytags ▸ List.mem_singleton_self _)⟩

end Eir
