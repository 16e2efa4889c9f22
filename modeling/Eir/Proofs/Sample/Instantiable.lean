import Eir.Proofs.Sample.Synthesis
import Eir.Proofs.Schema.Descent
import Eir.Proofs.Schema.StandIns

/-!
# Types that samples are instances of

The types that samples are made for are concrete, and lead to the types that the
samples are written as (`LeadsTo`). These are valid in the target dialect. They need
not be concrete, since nothing on the way asks for it: a sample can be instantiated
just when the type that it is written as happens to be concrete
(`LeadsTo.isInstantiable_iff`). Each sample is made for a type object
(`exists_leadsTo`), and each type object that samples are made for has one
(`exists_sample_of_leadsTo`), so what is known of the one carries over to the other.
-/

namespace Eir

/-! ## Concrete types -/

namespace SchemaView

variable {v : SchemaView} {root t : EntityType} {ts : List EntityType}

theorem isConcrete_of_mem_concreteBelow {depth : Nat} (h : t ∈ v.concreteBelow depth root) :
    t.isConcrete = true := by
  induction depth generalizing root with
  | zero =>
    obtain ⟨hconcrete, rfl⟩ := mem_here_iff.mp h
    exact hconcrete
  | succ depth ih =>
    rw [concreteBelow, List.mem_append, mem_here_iff, List.mem_flatMap] at h
    rcases h with ⟨hconcrete, rfl⟩ | ⟨child, -, hbelow⟩
    · exact hconcrete
    · exact ih hbelow

theorem isConcrete_of_mem_concreteSubtypes {name : String} (h : v.concreteSubtypes name = .ok ts)
    (ht : t ∈ ts) : t.isConcrete = true := by
  rw [concreteSubtypes] at h
  obtain ⟨root, -, h⟩ := exists_of_bind_ok h
  cases h
  exact isConcrete_of_mem_concreteBelow
    (List.mem_mergeSort.mp ((sublist_dedupNames _).subset ht))

end SchemaView

namespace Synthesizer

variable {s : Synthesizer} {t : EntityType} {o : Occurrence} {subKind : Option String}
  {roots : List String} {samples : List Sample} {counters counters' : Counters}

/-! ## Samples and type objects -/

/-- The type is one of those that samples are made for. -/
def IsBelow (s : Synthesizer) (roots : List String) (t : EntityType) : Prop :=
  ∃ root ∈ roots, ∃ ts, s.logical.concreteSubtypes root = .ok ts ∧ t ∈ ts

/-- Samples are made for some sub-kind of the type. -/
def IsSampled (s : Synthesizer) (t : EntityType) : Prop :=
  ∃ subKind ∈ kindsOf t, subKind = some undefinedSubKind → s.policy.fixtureOccurrences = true

theorem Made.entity (h : s.Made o subKind samples) :
    ∀ x ∈ samples, x.entity = o.concrete.name ∧ x.logicalEntity = o.logical.name := by
  rw [Made] at h
  split at h
  · split at h
    · obtain ⟨bad, rfl, hbad⟩ := h
      exact List.forall_mem_singleton.mpr ⟨hbad.entity, hbad.logicalEntity⟩
    · rw [h]
      exact List.forall_mem_nil _
  · obtain ⟨good, bad, rfl, htwins⟩ := h
    exact List.forall_mem_cons.mpr ⟨⟨htwins.entity.1, htwins.logicalEntity.1⟩,
      List.forall_mem_singleton.mpr ⟨htwins.entity.2, htwins.logicalEntity.2⟩⟩

/-- Something is made except for the undefined sub-kind where the policy is against it. -/
theorem Made.exists_mem_iff (h : s.Made o subKind samples) :
    (∃ x, x ∈ samples) ↔
      (subKind = some undefinedSubKind → s.policy.fixtureOccurrences = true) := by
  rw [Made] at h
  split at h
  · rename_i hundefined
    cases hpolicy : s.policy.fixtureOccurrences with
    | true =>
      rw [if_pos hpolicy] at h
      obtain ⟨bad, rfl, -⟩ := h
      exact iff_of_true ⟨bad, List.mem_singleton_self bad⟩ fun _ => rfl
    | false =>
      rw [if_neg (by simp [hpolicy])] at h
      simp [h, hundefined]
  · rename_i hdefined
    obtain ⟨good, bad, rfl, -⟩ := h
    exact iff_of_true ⟨good, List.mem_cons_self⟩ fun hundefined => absurd hundefined hdefined

section Run

variable (hkeyed : Catalog.Keyed s.logical.catalog.entries)
  (h : (s.synthesize roots).run counters = .ok (samples, counters'))
include hkeyed h

/-- The samples are what is made for the types below the roots and their sub-kinds. -/
theorem made_synthesize : ∃ (types : List EntityType) (parts : List (List Sample)),
    (∀ t, t ∈ types ↔ s.IsBelow roots t) ∧ samples = parts.flatten ∧
    List.Forall₂ s.MadeFor (types.flatMap fun t => (kindsOf t).map (t, ·)) parts := by
  rw [synthesize] at h
  obtain ⟨types, next, hlift, hrest⟩ := exists_of_run_bind_ok h
  obtain ⟨htypes, rfl⟩ := eq_of_run_lift_ok hlift
  obtain ⟨lists, last, hlists, hresult⟩ := exists_of_run_bind_ok hrest
  cases hresult
  obtain ⟨parts, hparts, hmade⟩ := made_mapM hlists
  exact ⟨types, parts, (typesBelow_spec hkeyed htypes).2, hparts, hmade⟩

/-- A sample is made for one of these types. -/
theorem exists_typeObject {x : Sample} (hx : x ∈ samples) :
    ∃ t o, s.IsBelow roots t ∧ s.IsSampled t ∧ s.occurrence t = .ok o ∧
      x.entity = o.concrete.name ∧ x.logicalEntity = o.logical.name := by
  obtain ⟨types, parts, hbelow, rfl, hmade⟩ := made_synthesize hkeyed h
  obtain ⟨part, hpart, hx⟩ := List.mem_flatten.mp hx
  obtain ⟨⟨t, subKind⟩, hpair, o, ho, hmade⟩ := exists_of_mem_right hmade hpart
  obtain ⟨u, hu, hkind⟩ := List.mem_flatMap.mp hpair
  obtain ⟨k, hk, hsame⟩ := List.mem_map.mp hkind
  obtain ⟨rfl, rfl⟩ := Prod.mk.inj hsame
  exact ⟨u, o, (hbelow u).mp hu, ⟨k, hk, hmade.exists_mem_iff.mp ⟨x, hx⟩⟩, ho,
    hmade.entity x hx⟩

/-- Each of these types has a sample, if any are made for it. -/
theorem exists_sample (hbelow : s.IsBelow roots t) (hsampled : s.IsSampled t) :
    ∃ o, s.occurrence t = .ok o ∧ ∃ x ∈ samples, x.entity = o.concrete.name := by
  obtain ⟨types, parts, htypes, rfl, hmade⟩ := made_synthesize hkeyed h
  obtain ⟨subKind, hkind, hsampled⟩ := hsampled
  have hpair : (t, subKind) ∈ types.flatMap fun t => (kindsOf t).map (t, ·) :=
    List.mem_flatMap.mpr ⟨t, (htypes t).mpr hbelow, List.mem_map_of_mem hkind⟩
  obtain ⟨part, hpart, o, ho, hmade⟩ := exists_of_mem_left hmade hpair
  obtain ⟨x, hx⟩ := hmade.exists_mem_iff.mpr hsampled
  exact ⟨o, ho, x, List.mem_flatten.mpr ⟨part, hpart, hx⟩, (hmade.entity x hx).1⟩

end Run

/-! ## Types of samples -/

/-- The occurrences of the type object `t` are of the type `logical` and written as `w`. -/
structure LeadsTo (s : Synthesizer) (t logical w : EntityType) : Prop where
  occursAs : s.namer.conventions.OccursAs s.logical t.name logical
  writtenAs : s.namer.conventions.WrittenAs s.target logical w

/-- A sample is an instance of a type that is valid in the dialect and can have instances. -/
def IsInstantiable (c : Catalog) (d : Dialect) (x : Sample) : Prop :=
  ∃ w ∈ c.find? x.entity, w.name = x.entity ∧ w.dialects.supports d = true ∧ w.isConcrete = true

section Views

variable {rows : List CatalogRow} (hc : Catalog.ofRows rows = .ok s.target.catalog)
  (hviews : s.logical.catalog = s.target.catalog) {logical w : EntityType}
include hc hviews

theorem find?_name_of_occursAs (h : s.namer.conventions.OccursAs s.logical t.name logical) :
    s.target.catalog.find? logical.name = some logical := by
  obtain ⟨name, hname⟩ := h.exists_find?
  exact Catalog.find?_name (Catalog.keyed_of_ofRows hc) (hviews ▸ SchemaView.find?_of_find? hname)

/-- The two lookups of an occurrence succeed just when the type object leads there. -/
theorem occurrence_eq_ok_iff :
    s.occurrence t = .ok o ↔ o.typeObject = t ∧ s.LeadsTo t o.logical o.concrete := by
  rw [occurrence]
  constructor
  · intro h
    obtain ⟨logical, hlogical, h⟩ := exists_of_bind_ok h
    obtain ⟨w, hw, h⟩ := exists_of_bind_ok h
    cases h
    have hoccurs := TypeConventions.logicalInstance_eq_ok_iff.mp hlogical
    have hown := find?_name_of_occursAs hc hviews hoccurs
    exact ⟨rfl, hoccurs, (TypeConventions.schemaInstance_eq_ok_iff hc hown).mp hw⟩
  · obtain ⟨typeObject, logical, w⟩ := o
    rintro ⟨rfl, hoccurs, hw⟩
    have hown := find?_name_of_occursAs hc hviews hoccurs
    rw [TypeConventions.logicalInstance_eq_ok_iff.mpr hoccurs, ok_bind,
      (TypeConventions.schemaInstance_eq_ok_iff hc hown).mpr hw]
    rfl

theorem LeadsTo.find?_name (h : s.LeadsTo t logical w) :
    s.target.catalog.find? w.name = some w :=
  h.writtenAs.find?_name hc (find?_name_of_occursAs hc hviews h.occursAs)

theorem LeadsTo.supports (hdialect : s.target.isHybrid = false) (h : s.LeadsTo t logical w) :
    w.dialects.supports s.target.dialect = true :=
  h.writtenAs.supports hc (find?_name_of_occursAs hc hviews h.occursAs) hdialect

/-- Where the table names no abstract types for occurrences, none is reached. -/
theorem LeadsTo.isConcrete (hconcrete : s.namer.conventions.StandInsConcrete rows)
    (hbelow : s.IsBelow roots t) (h : s.LeadsTo t logical w) : w.isConcrete = true := by
  obtain ⟨root, -, ts, hts, ht⟩ := hbelow
  have hkeyed := hviews ▸ Catalog.keyed_of_ofRows hc
  have hown := SchemaView.find?_of_mem_concreteSubtypes hkeyed hts ht
  have hnamed := h.occursAs.exists_name hc (hviews ▸ hown)
    (SchemaView.isConcrete_of_mem_concreteSubtypes hts ht) hviews
  obtain ⟨name, hname, hw⟩ := h.writtenAs.exists_name hc rfl hnamed
  exact hconcrete.isConcrete hc hname hw

/-- The type that a sample is written as is valid anyway. -/
theorem LeadsTo.isInstantiable_iff (hdialect : s.target.isHybrid = false)
    (h : s.LeadsTo t logical w) {x : Sample} (hentity : x.entity = w.name) :
    IsInstantiable s.target.catalog s.target.dialect x ↔ w.isConcrete = true := by
  simp [IsInstantiable, hentity, h.find?_name hc hviews, h.supports hc hviews hdialect]

variable (h : (s.synthesize roots).run counters = .ok (samples, counters'))
include h

theorem exists_leadsTo {x : Sample} (hx : x ∈ samples) :
    ∃ t logical w, s.IsBelow roots t ∧ s.IsSampled t ∧ s.LeadsTo t logical w ∧
      x.logicalEntity = logical.name ∧ x.entity = w.name := by
  have hkeyed := hviews ▸ Catalog.keyed_of_ofRows hc
  obtain ⟨t, o, hbelow, hsampled, ho, hentity, hlogical⟩ := exists_typeObject hkeyed h hx
  have hleads := ((occurrence_eq_ok_iff hc hviews).mp ho).2
  exact ⟨t, o.logical, o.concrete, hbelow, hsampled, hleads, hlogical, hentity⟩

theorem exists_sample_of_leadsTo (hbelow : s.IsBelow roots t) (hsampled : s.IsSampled t)
    (hleads : s.LeadsTo t logical w) : ∃ x ∈ samples, x.entity = w.name := by
  have hkeyed := hviews ▸ Catalog.keyed_of_ofRows hc
  obtain ⟨o, ho, x, hx, hentity⟩ := exists_sample hkeyed h hbelow hsampled
  have hsame : s.occurrence t = .ok ⟨t, logical, w⟩ :=
    (occurrence_eq_ok_iff hc hviews).mpr ⟨rfl, hleads⟩
  obtain rfl : o = ⟨t, logical, w⟩ := Except.ok.inj (ho.symm.trans hsame)
  exact ⟨x, hx, hentity⟩

end Views

/-- **What samples are written as.** Each sample is written as the type that stands for the
occurrences of a type object below the roots, and this type is valid in the target dialect. It is
concrete for all samples just when it is for each type object that samples are made for; in
particular if the table names no abstract type for occurrences. -/
theorem samples_instantiable_iff (rows : List CatalogRow) (c : Catalog)
    (hc : Catalog.ofRows rows = .ok c) (d : Dialect) (s : Synthesizer)
    (hlogical : s.logical.catalog = c) (htarget : s.target = c.view d) (roots : List String)
    (counters counters' : Counters) (samples : List Sample)
    (h : (s.synthesize roots).run counters = .ok (samples, counters')) :
    (∀ x ∈ samples, ∃ t logical w, s.IsBelow roots t ∧ s.LeadsTo t logical w ∧
      x.logicalEntity = logical.name ∧ x.entity = w.name ∧
      c.find? x.entity = some w ∧ w.dialects.supports d = true) ∧
    ((∀ x ∈ samples, IsInstantiable c d x) ↔
      ∀ t, s.IsBelow roots t → s.IsSampled t →
        ∀ logical w, s.LeadsTo t logical w → w.isConcrete = true) ∧
    (s.namer.conventions.StandInsConcrete rows → ∀ x ∈ samples, IsInstantiable c d x) := by
  obtain rfl : s.target.catalog = c := congrArg SchemaView.catalog htarget
  obtain rfl : s.target.dialect = d := congrArg SchemaView.dialect htarget
  have hdialect : s.target.isHybrid = false := congrArg SchemaView.isHybrid htarget
  have hiff {t logical w : EntityType} {x : Sample} (hleads : s.LeadsTo t logical w) :=
    hleads.isInstantiable_iff hc hlogical hdialect (x := x)
  refine ⟨fun x hx => ?_, ⟨fun hall t hbelow hsampled logical w hleads => ?_,
    fun hall x hx => ?_⟩, fun hconcrete x hx => ?_⟩
  · obtain ⟨t, logical, w, hbelow, -, hleads, hlogicalEntity, hentity⟩ :=
      exists_leadsTo hc hlogical h hx
    exact ⟨t, logical, w, hbelow, hleads, hlogicalEntity, hentity,
      hentity ▸ hleads.find?_name hc hlogical, hleads.supports hc hlogical hdialect⟩
  · obtain ⟨x, hx, hentity⟩ := exists_sample_of_leadsTo hc hlogical h hbelow hsampled hleads
    exact (hiff hleads hentity).mp (hall x hx)
  · obtain ⟨t, logical, w, hbelow, hsampled, hleads, -, hentity⟩ :=
      exists_leadsTo hc hlogical h hx
    exact (hiff hleads hentity).mpr (hall t hbelow hsampled logical w hleads)
  · obtain ⟨t, logical, w, hbelow, -, hleads, -, hentity⟩ := exists_leadsTo hc hlogical h hx
    exact (hiff hleads hentity).mpr (hleads.isConcrete hc hlogical hconcrete hbelow)

/-- Type objects of products, of air terminals, which have a host in IFC2X3, and of widgets, which
have no type. The types that their occurrences are written as are abstract or not. -/
def threeWayRows (isAbstract : Bool) : List CatalogRow :=
  [⟨"IfcTypeProduct", none, false, none, Dialect.all, [], none⟩,
    ⟨"IfcAirTerminalType", none, false, none, Dialect.all, [], none⟩,
    ⟨"IfcWidgetType", none, false, none, Dialect.all, [], none⟩,
    ⟨"IfcProduct", none, isAbstract, none, Dialect.all, [], none⟩,
    ⟨"IfcFlowTerminal", none, isAbstract, none, Dialect.all, [], none⟩,
    ⟨"IfcAirTerminal", none, false, none, [.ifc4], [], some "IfcFlowTerminal"⟩,
    ⟨"IfcProxy", none, isAbstract, none, Dialect.all, [], none⟩]

def threeWays (isAbstract : Bool) : Catalog :=
  (Catalog.ofRows (threeWayRows isAbstract)).toOption.getD default

/-- The conventions with another proxy. -/
def proxyConventions : TypeConventions := { TypeConventions.standard with proxyType := "IfcProxy" }

/-- Makes samples of them in IFC2X3. -/
def ofThreeWays (isAbstract : Bool) : Synthesizer :=
  .standard (threeWays isAbstract).hybridView ((threeWays isAbstract).view .ifc2x3)
    ⟨default, proxyConventions, default⟩ .empty

/-- The type objects, and the types that their occurrences are written as. -/
def ways : List (String × String) :=
  [("IfcTypeProduct", "IfcProduct"), ("IfcAirTerminalType", "IfcFlowTerminal"),
    ("IfcWidgetType", "IfcProxy")]

theorem ofRows_threeWays (isAbstract : Bool) :
    Catalog.ofRows (threeWayRows isAbstract) = .ok (threeWays isAbstract) := by
  have hok : ∀ isAbstract, (Catalog.ofRows (threeWayRows isAbstract)).isOk = true := by
    decide +kernel
  exact Catalog.ofRows_of_isOk (hok isAbstract)

/-- Samples are made in all three ways. -/
theorem exists_samples_of_way (isAbstract : Bool) {way : String × String} (hway : way ∈ ways) :
    ∃ samples counters,
      ((ofThreeWays isAbstract).synthesize [way.1]).run .fresh = .ok (samples, counters) ∧
      samples.map (·.entity) = [way.2, way.2] := by
  have hruns : ∀ isAbstract, ∀ way ∈ ways,
      (((ofThreeWays isAbstract).synthesize [way.1]).run .fresh).toOption.any
        (fun r => r.1.map (·.entity) == [way.2, way.2]) = true := by decide +kernel
  obtain ⟨⟨samples, counters⟩, hrun, hentities⟩ := exists_ok_of_any (hruns isAbstract way hway)
  exact ⟨samples, counters, hrun, beq_iff_eq.mp hentities⟩

theorem samples_of_ways_instantiable :
    Catalog.ofRows (threeWayRows false) = .ok (threeWays false) ∧
      proxyConventions.StandInsConcrete (threeWayRows false) ∧
      ∀ way ∈ ways, ∃ samples counters,
        ((ofThreeWays false).synthesize [way.1]).run .fresh = .ok (samples, counters) ∧
        samples.map (·.entity) = [way.2, way.2] ∧
        ∀ x ∈ samples, IsInstantiable (threeWays false) .ifc2x3 x := by
  have hconcrete : proxyConventions.StandInsConcrete (threeWayRows false) := by decide +kernel
  refine ⟨ofRows_threeWays false, hconcrete, fun way hway => ?_⟩
  obtain ⟨samples, counters, hrun, hentities⟩ := exists_samples_of_way false hway
  obtain ⟨-, -, hall⟩ := samples_instantiable_iff (threeWayRows false) (threeWays false)
    (ofRows_threeWays false) .ifc2x3 (ofThreeWays false) rfl rfl [way.1] .fresh counters samples
    hrun
  exact ⟨samples, counters, hrun, hentities, hall hconcrete⟩

/-- Where these types are abstract there are samples all the same, in all three ways, and none of
them can be instantiated. -/
theorem abstract_types_have_samples :
    Catalog.ofRows (threeWayRows true) = .ok (threeWays true) ∧ (threeWays true).Acyclic ∧
      ∀ way ∈ ways, ∃ samples counters,
        ((ofThreeWays true).synthesize [way.1]).run .fresh = .ok (samples, counters) ∧
        samples.map (·.entity) = [way.2, way.2] ∧
        (∃ w ∈ (threeWays true).find? way.2, w.isConcrete = false) ∧
        ∀ x ∈ samples, ¬IsInstantiable (threeWays true) .ifc2x3 x := by
  have habstract : ∀ way ∈ ways,
      ∃ w ∈ (threeWays true).find? way.2, w.isConcrete = false := by decide +kernel
  have hacyclic : (threeWays true).Acyclic :=
    Catalog.acyclic_of_rank (ofRows_threeWays true) (fun _ => 0) (by decide +kernel)
  refine ⟨ofRows_threeWays true, hacyclic, fun way hway => ?_⟩
  obtain ⟨samples, counters, hrun, hentities⟩ := exists_samples_of_way true hway
  obtain ⟨w, hw, hflag⟩ := habstract way hway
  refine ⟨samples, counters, hrun, hentities, ⟨w, hw, hflag⟩, ?_⟩
  rintro x hx ⟨u, hu, -, -, hconcrete⟩
  have hmem : x.entity ∈ samples.map (·.entity) := List.mem_map_of_mem hx
  have hentity : x.entity = way.2 := by simpa [hentities] using hmem
  rw [hentity] at hu
  obtain rfl : u = w := Option.some.inj (hu.symm.trans hw)
  rw [hflag] at hconcrete
  cases hconcrete

end Synthesizer

end Eir
