import Eir.Proofs.Naming.Invalid
import Eir.Proofs.Rulebook.StageRules
import Eir.Proofs.Sample.Furnishing
import Eir.Proofs.Schema.StandIns

/-!
# The samples of the metadata model

The metadata model consists of places, types, furnished occurrences and broken
objects (`parts_of_metadataModel`). An occurrence is one of two twins, or of the
undefined sub-kind (`Synthesizer.Makes`); so is a type (`SampleSources.Pushes`).
-/

namespace Eir

/-! ## Names that rules judge -/

/-- One of the rules with the identifier selects objects like the sample, of a type, and demands
that their names match the pattern. -/
def CompiledRules.Demands (rules : CompiledRules) (id entity : String) (x : Sample)
    (pattern : String) : Prop :=
  ∃ spec ∈ rules.specifications, spec.identifier = id ∧
    spec.applicability.Selects entity x.subKind ∧
    spec.requirement.facets = [.attr "Name" (some (.pattern pattern))]

/-- One of these rules is met by the name of the sample just when it is meant to pass. -/
def CompiledRules.Judges (rules : CompiledRules) (id entity : String) (x : Sample) : Prop :=
  ∃ pattern, rules.Demands id entity x pattern ∧ Pattern.Decides pattern x.name x.conforming

/-! ## Occurrences -/

namespace Synthesizer

variable {s : Synthesizer} {t : EntityType} {o : Occurrence}

/-- What is made for an occurrence and its sub-kinds, with the names and the tags. -/
inductive Makes (s : Synthesizer) (o : Occurrence) (kinds : List (Option String)) :
    Sample → Prop where
  /-- The sample of a sub-kind that passes. -/
  | good {subKind : Option String} (typeName : String) (number : Nat) {d : NamingDecision} :
    subKind ∈ kinds → subKind ≠ some undefinedSubKind →
    d = s.namer.decide o.logical.name subKind (some typeName) →
    Makes s o kinds ((sample o subKind s.passContainer
      (d.render (d.counterKey s.passContainer) number) typeName true).addTag
        (s.namingTag o subKind))
  /-- Its twin, with a broken name. -/
  | bad {subKind : Option String} (typeName : String) (number : Nat) {d : NamingDecision} :
    subKind ∈ kinds → subKind ≠ some undefinedSubKind →
    d = s.namer.decide o.logical.name subKind (some typeName) →
    Makes s o kinds ((sample o subKind s.failContainer (d.broken s.failContainer number) typeName
      false).addTag (s.namingTag o subKind))
  | undefined (name typeName : String) : some undefinedSubKind ∈ kinds →
    Makes s o kinds ((sample o (some undefinedSubKind) s.failContainer name typeName false).addTag
      (s.index.lookup? (.of o.typeObject.name none .attributeHasValue "PredefinedType")))

theorem Makes.mono {kinds kinds' : List (Option String)} {x : Sample} (h : s.Makes o kinds x)
    (hle : kinds ⊆ kinds') : s.Makes o kinds' x := by
  cases h with
  | good typeName number hmem hdefined hd => exact .good typeName number (hle hmem) hdefined hd
  | bad typeName number hmem hdefined hd => exact .bad typeName number (hle hmem) hdefined hd
  | undefined name typeName hmem => exact .undefined name typeName (hle hmem)

theorem makes_samplesOfKinds (s : Synthesizer) (o : Occurrence) (variant : Nat)
    (kinds : List (Option String)) (counters : Counters) :
    ∀ x ∈ ((s.samplesOfKinds o variant kinds).run counters).1, s.Makes o kinds x := by
  induction kinds generalizing variant counters with
  | nil => exact fun x hx => by cases hx
  | cons subKind kinds ih =>
    have hrest (variant : Nat) (counters : Counters) :
        ∀ x ∈ ((s.samplesOfKinds o variant kinds).run counters).1,
          s.Makes o (subKind :: kinds) x :=
      fun x hx => (ih variant counters x hx).mono (List.subset_cons_self _ _)
    rw [samplesOfKinds]
    split
    · rename_i hundefined
      cases hpolicy : s.policy.fixtureOccurrences with
      | true =>
        refine List.forall_mem_append.mpr ⟨List.forall_mem_singleton.mpr ?_, hrest _ _⟩
        exact .undefined _ _ (hundefined ▸ List.mem_cons_self)
      | false => exact hrest variant counters
    · rename_i hdefined
      refine List.forall_mem_append.mpr ⟨List.forall_mem_cons.mpr ⟨?_,
        List.forall_mem_singleton.mpr ?_⟩, hrest _ _⟩
      · exact .good _ _ List.mem_cons_self hdefined rfl
      · exact .bad _ _ List.mem_cons_self hdefined rfl

/-- The occurrences of a type object are of a type that the view has. -/
theorem spec_of_occurrence (h : s.occurrence t = .ok o) :
    o.typeObject = t ∧ ∃ name, s.logical.find? name = some o.logical := by
  rw [occurrence] at h
  obtain ⟨logical, hlogical, h⟩ := exists_of_bind_ok h
  obtain ⟨concrete, -, h⟩ := exists_of_bind_ok h
  cases h
  exact ⟨rfl, (TypeConventions.logicalInstance_eq_ok_iff.mp hlogical).exists_find?⟩

/-- The samples of a type object are those of its sub-kinds, for its occurrences. -/
theorem exists_of_samplesOf {counters counters' : Counters} {samples : List Sample}
    (h : (s.samplesOf t).run counters = .ok (samples, counters')) :
    ∃ o, s.occurrence t = .ok o ∧
      ((s.samplesOfKinds o 1 (kindsOf t)).run counters).1 = samples := by
  rw [samplesOf] at h
  obtain ⟨o, next, hlift, hkinds⟩ := exists_of_run_bind_ok h
  obtain ⟨ho, rfl⟩ := eq_of_run_lift_ok hlift
  exact ⟨o, ho, congrArg Prod.fst (Except.ok.inj hkinds)⟩

/-- Samples are made for the occurrences of a type object. -/
theorem makes_samplesOf {counters counters' : Counters} {samples : List Sample}
    (h : (s.samplesOf t).run counters = .ok (samples, counters')) :
    ∃ o, s.occurrence t = .ok o ∧ ∀ x ∈ samples, s.Makes o (kindsOf t) x := by
  obtain ⟨o, ho, rfl⟩ := exists_of_samplesOf h
  exact ⟨o, ho, makes_samplesOfKinds s o 1 (kindsOf t) counters⟩

/-- What is made for several types is made for one of them. -/
theorem exists_of_mem_mapM {types : List EntityType} {counters counters' : Counters}
    {lists : List (List Sample)}
    (h : (types.mapM s.samplesOf).run counters = .ok (lists, counters')) {x : Sample}
    (hx : x ∈ lists.flatten) :
    ∃ t ∈ types, ∃ st samples st', (s.samplesOf t).run st = .ok (samples, st') ∧ x ∈ samples := by
  induction types generalizing counters lists with
  | nil =>
    cases h
    cases hx
  | cons t types ih =>
    rw [List.mapM_cons] at h
    obtain ⟨samples, next, hfirst, h⟩ := exists_of_run_bind_ok h
    obtain ⟨rest, last, hrest, h⟩ := exists_of_run_bind_ok h
    cases h
    rcases List.mem_append.mp hx with hx | hx
    · exact ⟨t, List.mem_cons_self, counters, samples, next, hfirst, hx⟩
    · obtain ⟨u, hu, hmade⟩ := ih hrest hx
      exact ⟨u, List.mem_cons_of_mem t hu, hmade⟩

/-- What is synthesized is made for one of the types below the roots. -/
theorem exists_of_mem_synthesize {roots : List String} {counters counters' : Counters}
    {samples : List Sample} (h : (s.synthesize roots).run counters = .ok (samples, counters')) :
    ∃ types, s.typesBelow roots = .ok types ∧ ∀ x ∈ samples, ∃ t ∈ types,
      ∃ st made st', (s.samplesOf t).run st = .ok (made, st') ∧ x ∈ made := by
  rw [synthesize] at h
  obtain ⟨types, next, hlift, hrest⟩ := exists_of_run_bind_ok h
  obtain ⟨htypes, rfl⟩ := eq_of_run_lift_ok hlift
  obtain ⟨lists, last, hlists, hresult⟩ := exists_of_run_bind_ok hrest
  cases hresult
  exact ⟨types, htypes, fun x hx => exists_of_mem_mapM hlists hx⟩

end Synthesizer

/-! ## Types -/

namespace SampleSources

variable {s : SampleSources} {t : EntityType}

theorem name_typeSample (s : SampleSources) (t : EntityType) (subKind : Option String)
    (name container : String) (conforming : Bool) :
    (s.typeSample t subKind name container conforming).name = name := by
  have hbuild {b : SampleBuilder} (h : b.overrides[Field.attr "Name"]? = some (some name)) :
      (b.build.get? (.attr "Name")).getD "" = name := by
    rw [SampleBuilder.get?_build, h]
    rfl
  refine hbuild ?_
  cases subKind with
  | none => simp [SampleBuilder.getElem?_overrides_set]
  | some k =>
    by_cases hk : k = "USERDEFINED" <;> simp [SampleBuilder.getElem?_overrides_set, hk]

/-- What is pushed for a type object and its sub-kinds, with the names and the tags. The variants
are counted from `first`. -/
inductive Pushes (s : SampleSources) (t : EntityType) (first : Nat)
    (kinds : List (Option String)) : Sample → Prop where
  | good {subKind : Option String} {variant : Nat} : subKind ∈ kinds →
    subKind ≠ some undefinedSubKind → first ≤ variant → variant < first + kinds.length →
    Pushes s t first kinds ((s.typeSample t subKind
      ((s.inputs.namer.typeConvention t.name subKind).1.sampleName variant)
      s.inputs.settings.fixtures.passContainer true).addTag
        (s.tag t.name subKind .attributeMatchesPattern "Name"))
  | bad {subKind : Option String} {variant : Nat} : subKind ∈ kinds →
    subKind ≠ some undefinedSubKind → first ≤ variant → variant < first + kinds.length →
    Pushes s t first kinds ((s.typeSample t subKind
      ((s.inputs.namer.typeConvention t.name subKind).1.sampleName variant ++ "-BAD")
      s.inputs.settings.fixtures.failContainer false).addTag
        (s.tag t.name subKind .attributeMatchesPattern "Name"))
  | undefined (name : String) : some undefinedSubKind ∈ kinds →
    Pushes s t first kinds ((s.typeSample t (some undefinedSubKind) name
      s.inputs.settings.fixtures.failContainer false).addTag
        (s.tag t.name none .attributeHasValue "PredefinedType"))

theorem Pushes.cons {first : Nat} {kinds : List (Option String)} {x : Sample}
    {later : Nat} (h : s.Pushes t later kinds x) (hfirst : first ≤ later)
    (hlater : later ≤ first + 1) (subKind : Option String) :
    s.Pushes t first (subKind :: kinds) x := by
  cases h with
  | good hmem hdefined hle hlt =>
    exact .good (List.mem_cons_of_mem _ hmem) hdefined (by omega) (by rw [List.length_cons]; omega)
  | bad hmem hdefined hle hlt =>
    exact .bad (List.mem_cons_of_mem _ hmem) hdefined (by omega) (by rw [List.length_cons]; omega)
  | undefined name hmem => exact .undefined name (List.mem_cons_of_mem _ hmem)

theorem Pushes.entity {first : Nat} {kinds : List (Option String)} {x : Sample}
    (h : s.Pushes t first kinds x) : x.entity = t.name := by
  cases h <;> rfl

theorem pushes_typesOfKinds (s : SampleSources) (t : EntityType) (first : Nat)
    (kinds : List (Option String)) : ∀ x ∈ s.typesOfKinds t first kinds, s.Pushes t first kinds x := by
  induction kinds generalizing first with
  | nil => exact fun x hx => by cases hx
  | cons subKind kinds ih =>
    rw [typesOfKinds]
    split
    · rename_i hundefined
      refine List.forall_mem_append.mpr ⟨?_, fun x hx =>
        (ih first x hx).cons (Nat.le_refl _) (Nat.le_succ _) subKind⟩
      cases s.inputs.settings.undefinedSubKind.fixtureOccurrences with
      | true =>
        refine List.forall_mem_singleton.mpr ?_
        rw [hundefined]
        exact .undefined _ List.mem_cons_self
      | false => exact List.forall_mem_nil _
    · rename_i hdefined
      refine List.forall_mem_cons.mpr ⟨?_, List.forall_mem_cons.mpr ⟨?_, fun x hx =>
        (ih (first + 1) x hx).cons (Nat.le_succ _) (Nat.le_refl _) subKind⟩⟩
      · exact .good List.mem_cons_self hdefined (Nat.le_refl _) (by simp)
      · exact .bad List.mem_cons_self hdefined (Nat.le_refl _) (by simp)

/-! ## The parts of the model -/

/-- The roots of the type objects, as far as the view has them. -/
def typeRoots (s : SampleSources) : List String :=
  Rulebook.present s.logicalView Rulebook.rootTypes

theorem catalog_logicalView (s : SampleSources) : s.logicalView.catalog = s.inputs.catalog := by
  rw [logicalView]
  split <;> rfl

/-- The types below the roots are types of the catalog. -/
theorem find?_of_mem_typesBelow (hkeyed : Catalog.Keyed s.logicalView.catalog.entries)
    {roots : List String} {types : List EntityType}
    (h : s.synthesizer.typesBelow roots = .ok types) {t : EntityType} (ht : t ∈ types) :
    s.logicalView.catalog.find? t.name = some t := by
  obtain ⟨root, -, below, hbelow, hmem⟩ := ((Synthesizer.typesBelow_spec hkeyed h).2 t).mp ht
  exact SchemaView.find?_of_mem_concreteSubtypes hkeyed hbelow hmem

/-- The sample is made for the type object: it is a type, or one of the occurrences. -/
def MadeFor (s : SampleSources) (t : EntityType) (x : Sample) : Prop :=
  x ∈ s.typesOfKinds t 1 (Synthesizer.kindsOf t) ∨
    ∃ st samples st', (s.synthesizer.samplesOf t).run st = .ok (samples, st') ∧ x ∈ samples

theorem forall₂_run_mapM {σ α β : Type} {R : β → α → Prop} {f : α → StateM σ β}
    (h : ∀ a st, R ((f a).run st).1 a) (as : List α) (st : σ) :
    List.Forall₂ R ((as.mapM f).run st).1 as := by
  induction as generalizing st with
  | nil => exact .nil
  | cons a as ih =>
    rw [List.mapM_cons]
    exact .cons (h a st) (ih _)

/-- What a run that goes on with a list adds to it. -/
theorem forall_mem_run_bind {σ α β : Type} {P : β → Prop} {Q : α → Prop} {x : StateM σ α}
    {f : α → StateM σ (List β)} (hx : ∀ st, Q (x.run st).1)
    (hf : ∀ a, Q a → ∀ st, ∀ b ∈ ((f a).run st).1, P b) (st : σ) :
    ∀ b ∈ ((x >>= f).run st).1, P b :=
  hf _ (hx st) _

theorem forall_mem_run_mapM {σ α β : Type} {P : β → Prop} {f : α → StateM σ β} {as : List α}
    (h : ∀ a ∈ as, ∀ st, P ((f a).run st).1) (st : σ) : ∀ b ∈ ((as.mapM f).run st).1, P b := by
  have hmade := forall₂_run_mapM (R := fun b a => ∃ st, ((f a).run st).1 = b)
    (fun a st => ⟨st, rfl⟩) as st
  intro b hb
  obtain ⟨a, ha, st, rfl⟩ := exists_of_mem_left hmade hb
  exact h a ha st

/-- The places are about no rules. -/
theorem plain_places (s : SampleSources) (stage : Stage) (codes zones : List String) :
    ∀ x ∈ s.siteSamples stage ++ s.storeySamples codes ++ s.zoneSamples zones, x.Plain := by
  simp only [siteSamples, storeySamples, zoneSamples, List.forall_mem_append, List.forall_mem_cons,
    List.forall_mem_map]
  refine ⟨⟨⟨plain_sampleOf, plain_sampleOf, plain_sampleOf, List.forall_mem_nil _⟩, fun x hx => ?_⟩,
    fun z _ => plain_sampleOf⟩
  obtain ⟨i, hi, rfl⟩ := List.mem_mapIdx.mp hx
  exact plain_sampleOf

theorem plain_containers (s : SampleSources) (basement ground teaching other : String) :
    ∀ x ∈ s.containerSamples basement ground teaching other, x.Plain := by
  simp only [containerSamples, roomSample, List.forall_mem_cons]
  exact ⟨plain_sampleOf, plain_sampleOf, plain_sampleOf, plain_sampleOf, List.forall_mem_nil _⟩

/-- The sample is about the rule of one of the breakages, or about none. -/
def AboutOne (breakages : List Breakage) (x : Sample) : Prop :=
  x.tags = [] ∨ ∃ b ∈ breakages, x.tags = b.tag.toList

theorem AboutOne.mono {x : Sample} {breakages others : List Breakage} (h : AboutOne breakages x)
    (hle : breakages ⊆ others) : AboutOne others x :=
  h.imp_right fun ⟨b, hb, htags⟩ => ⟨b, hle hb, htags⟩

theorem broken_types (s : SampleSources) (counters : Counters) :
    ∀ x ∈ (s.brokenTypeSamples.run counters).1,
      x.subKind = some "ELEVATOR" ∧ AboutOne s.typeBreakages x := by
  rw [brokenTypeSamples]
  split
  · exact List.forall_mem_nil _
  · refine forall_mem_run_bind
      (Q := fun broken => ∀ x ∈ broken, x.subKind = some "ELEVATOR" ∧ AboutOne s.typeBreakages x)
      (forall_mem_run_mapM fun b hb st => ?_) (fun broken hbroken st => ?_) counters
    · exact ⟨rfl, .inr ⟨b, hb, rfl⟩⟩
    · refine List.forall_mem_append.mpr ⟨hbroken, ?_⟩
      simp [brokenTypeSample, AboutOne, sampleOf, Sample.named]

theorem broken_doors (s : SampleSources) (typeName : String) (counters : Counters) :
    ∀ x ∈ ((s.brokenDoorSamples typeName).run counters).1,
      x.subKind = none ∧ AboutOne s.doorBreakages x := by
  rw [brokenDoorSamples]
  refine forall_mem_run_bind
      (Q := fun broken => ∀ x ∈ broken, x.subKind = none ∧ AboutOne s.doorBreakages x)
      (forall_mem_run_mapM fun b hb st => ?_) (fun broken hbroken st => ?_) counters
  · exact ⟨rfl, .inr ⟨b, hb, rfl⟩⟩
  · refine List.forall_mem_append.mpr ⟨hbroken, ?_⟩
    simp [sampleOf, Sample.named, AboutOne]

/-- The metadata model is made of places, types, furnished occurrences and broken objects. -/
structure Parts (s : SampleSources) (m : SampleModel) (types : List EntityType)
    (occurrences places furnished broken : List Sample) : Prop where
  below : s.synthesizer.typesBelow s.typeRoots = .ok types
  synthesized : ∃ counters,
    (s.synthesizer.synthesize s.typeRoots).run .fresh = .ok (occurrences, counters)
  furnishes : List.Forall₂ Sample.Furnishes furnished occurrences
  stamped : List.Forall₂ Sample.Furnishes m.samples
    (places ++ s.typeSamples types ++ furnished ++ broken)
  plain : ∀ x ∈ places, x.Plain
  /-- The broken objects are of other sub-kinds than the undefined one. -/
  broken : ∀ x ∈ broken, x.subKind ≠ some undefinedSubKind ∧
    AboutOne (s.typeBreakages ++ s.doorBreakages) x
  corruptions : m.corruptions = []

namespace Parts

variable {m : SampleModel} {types : List EntityType} {occurrences places furnished broken : List Sample}
  {x : Sample}

/-- The types stand in the model. -/
theorem exists_of_type (h : s.Parts m types occurrences places furnished broken)
    (hx : x ∈ s.typeSamples types) : ∃ y ∈ m.samples, y.Furnishes x :=
  exists_of_mem_right h.stamped
    (List.mem_append_left _ (List.mem_append_left _ (List.mem_append_right _ hx)))

/-- The occurrences stand in the model. -/
theorem exists_of_occurrence (h : s.Parts m types occurrences places furnished broken)
    (hx : x ∈ occurrences) : ∃ y ∈ m.samples, y.Furnishes x := by
  obtain ⟨z, hz, hfurnished⟩ := exists_of_mem_right h.furnishes hx
  obtain ⟨y, hy, hstamped⟩ := exists_of_mem_right h.stamped
    (List.mem_append_left _ (List.mem_append_right _ hz))
  exact ⟨y, hy, hstamped.trans hfurnished⟩

end Parts

theorem parts_of_metadataModel {m : SampleModel} (h : s.metadataModel = .ok m) :
    ∃ types occurrences places furnished broken,
      s.Parts m types occurrences places furnished broken := by
  rw [metadataModel] at h
  split at h
  · rename_i basement ground teaching other _
    extract_lets places roots at h
    have hplaces : ∀ x ∈ places, x.Plain := List.forall_mem_append.mpr ⟨s.plain_places .stage5 _ _,
      s.plain_containers basement.name ground.name teaching.name other.name⟩
    clear_value places
    obtain ⟨types, hbelow, h⟩ := exists_of_bind_ok h
    obtain ⟨⟨furnished, counters⟩, hoccurrences, h⟩ := exists_of_bind_ok h
    have hbrokenTypes := s.broken_types counters
    rcases hbroken : s.brokenTypeSamples.run counters with ⟨brokenTypes, counters'⟩
    rw [hbroken] at hbrokenTypes
    simp only [hbroken] at h
    obtain ⟨typeName, -, h⟩ := exists_of_bind_ok h
    have hbrokenDoors := s.broken_doors typeName counters'
    rcases hdoors : (s.brokenDoorSamples typeName).run counters' with ⟨brokenDoors, last⟩
    rw [hdoors] at hbrokenDoors
    simp only [hdoors] at h
    rw [occurrenceSamples] at hoccurrences
    obtain ⟨occurrences, next, hsynthesized, hfurnished⟩ :=
      exists_of_run_bind_ok (eq_of_asRun_ok hoccurrences)
    have hrun : (occurrences.mapM s.furnished).run next = (furnished, counters) :=
      Except.ok.inj hfurnished
    have hfurnishes := forall₂_run_mapM (s.furnishes_furnished) occurrences next
    rw [hrun] at hfurnishes
    generalize hmodel : (SampleModel.empty metadataModelName .stage5 s.dialect
      s.project.name).extend _ = model at h
    have hsamples : model.samples = places ++ s.typeSamples types ++ furnished ++
        (brokenTypes ++ brokenDoors) := by
      rw [← hmodel, SampleModel.extend, SampleModel.empty, List.nil_append, List.append_assoc]
    obtain rfl : model.stamped = m := Except.ok.inj h
    refine ⟨types, occurrences, places, furnished, brokenTypes ++ brokenDoors,
      eq_of_asRun_ok hbelow, ⟨next, hsynthesized⟩, hfurnishes,
      hsamples ▸ furnishes_stamped model, hplaces, ?_, hmodel ▸ rfl⟩
    refine List.forall_mem_append.mpr ⟨fun x hx => ?_, fun x hx => ?_⟩
    · obtain ⟨hkind, habout⟩ := hbrokenTypes x hx
      exact ⟨hkind.trans_ne (by decide), habout.mono (List.subset_append_left _ _)⟩
    · obtain ⟨hkind, habout⟩ := hbrokenDoors x hx
      exact ⟨hkind.trans_ne nofun, habout.mono (List.subset_append_right _ _)⟩
  · cases h

end SampleSources

end Eir
