import Eir.Proofs.Schema.Loading
import Eir.Schema.Conventions

/-!
# What stands for the occurrences of a type object

The name of a type object leads to the type of its occurrences (`OccursAs`): the one
that the conventions name, if the view has it, and the proxy otherwise. In another
view this type is written as itself, as its host or as the proxy, whichever comes
first (`WrittenAs`). All three ways end in a type of the dialect
(`WrittenAs.supports`); for hosts this is so because a table with others makes no
catalog. None of them asks whether the type is abstract, so it is concrete for certain
only where the table names no abstract one for the purpose (`StandInsConcrete`).
-/

namespace Eir

/-! ## Lookups -/

namespace SchemaView

variable {v : SchemaView} {t : EntityType} {name : String}

theorem require_eq_ok_iff : v.require name = .ok t ↔ v.find? name = some t := by
  rw [require]
  cases v.find? name <;> simp

end SchemaView

namespace Catalog

variable {rows : List CatalogRow} {c : Catalog} {t : EntityType} {name : String}

/-- The host of a type is a type of IFC2X3. -/
theorem exists_host (hc : ofRows rows = .ok c) (ht : c.find? t.name = some t)
    (hhost : t.host = some name) :
    ∃ w, c.find? name = some w ∧ w.dialects.supports .ifc2x3 = true := by
  obtain ⟨row, hrow, -, hnode⟩ := (find?_eq_some_iff hc).mp ht
  obtain ⟨r, hr, hname, hdialect⟩ :=
    (exists_ofRows_iff.mp ⟨c, hc⟩).hosts row hrow name (hnode.host_eq ▸ hhost)
  obtain ⟨w, hw⟩ := exists_nodeOf hc r
  have hdialects : w.dialects = .ofList r.dialects := congrArg EntityType.dialects hw.node
  refine ⟨w, (find?_eq_some_iff hc).mpr ⟨r, hr, hname, hw⟩, ?_⟩
  rw [hdialects, DialectSet.ofList, DialectSet.supports_ofPred, List.contains_iff_mem]
  exact hdialect

end Catalog

namespace TypeConventions

variable {rows : List CatalogRow} {c : TypeConventions} {v : SchemaView} {name : String}
  {logical w : EntityType}

/-! ## The type of the occurrences -/

/-- The occurrences of a type object of that name are of this type. -/
inductive OccursAs (c : TypeConventions) (v : SchemaView) (name : String) : EntityType → Prop
  | named {occurrence : String} {logical : EntityType} :
    c.instanceName? name = some occurrence → v.find? occurrence = some logical →
    OccursAs c v name logical
  | proxy {logical : EntityType} : (c.instanceName? name).bind v.find? = none →
    v.find? c.proxyType = some logical → OccursAs c v name logical

theorem logicalInstance_eq_ok_iff :
    c.logicalInstance v name = .ok logical ↔ c.OccursAs v name logical := by
  rw [logicalInstance]
  cases hfound : (c.instanceName? name).bind v.find? with
  | some found =>
    obtain ⟨occurrence, hname, hoccurrence⟩ := Option.bind_eq_some_iff.mp hfound
    constructor
    · intro h
      exact .named hname (Except.ok.inj h ▸ hoccurrence)
    · rintro (⟨hname', hlogical⟩ | ⟨hnone, -⟩)
      · rw [hname'] at hfound
        exact congrArg Except.ok (Option.some.inj (hfound.symm.trans hlogical))
      · cases hfound.symm.trans hnone
  | none =>
    rw [SchemaView.require_eq_ok_iff]
    refine ⟨.proxy hfound, ?_⟩
    rintro (⟨hname, hlogical⟩ | ⟨-, hlogical⟩)
    · rw [hname] at hfound
      cases hfound.symm.trans hlogical
    · exact hlogical

/-- The occurrences are of a type of the view. -/
theorem OccursAs.exists_find? (h : c.OccursAs v name logical) :
    ∃ occurrence, v.find? occurrence = some logical := by
  cases h with
  | named _ hlogical => exact ⟨_, hlogical⟩
  | proxy _ hlogical => exact ⟨_, hlogical⟩

/-! ## The type that occurrences are written as -/

/-- Occurrences of a type are written as this type in the view. -/
inductive WrittenAs (c : TypeConventions) (v : SchemaView) (logical : EntityType) :
    EntityType → Prop
  | itself : logical.dialects.supports v.dialect = true → WrittenAs c v logical logical
  | host {host : String} {w : EntityType} : logical.dialects.supports v.dialect = false →
    v.dialect = .ifc2x3 → logical.host = some host → v.catalog.find? host = some w →
    WrittenAs c v logical w
  | proxy {w : EntityType} : logical.dialects.supports v.dialect = false →
    (v.dialect = .ifc2x3 → logical.host = none) → v.find? c.proxyType = some w →
    WrittenAs c v logical w

/-- A type that is valid in the dialect is not looked for any further. -/
theorem schemaInstance_itself (hvalid : logical.dialects.supports v.dialect = true)
    (hfound : v.find? logical.name = some logical) : c.schemaInstance v logical = .ok logical := by
  simp only [schemaInstance, hvalid, if_true, hfound, Option.some_or]

theorem schemaInstance_host (hlater : logical.dialects.supports v.dialect = false)
    (hdialect : v.dialect = .ifc2x3) (hhost : logical.host.bind v.find? = some w) :
    c.schemaInstance v logical = .ok w := by
  rw [hdialect] at hlater
  simp only [schemaInstance, hdialect, hlater, Bool.false_eq_true, if_false, if_true, hhost,
    Option.none_or]

theorem schemaInstance_proxy (hlater : logical.dialects.supports v.dialect = false)
    (hnone : v.dialect = .ifc2x3 → logical.host = none) :
    c.schemaInstance v logical = v.require c.proxyType := by
  have hhost : (if v.dialect = .ifc2x3 then logical.host.bind v.find? else none) = none := by
    split
    · rename_i hdialect
      rw [hnone hdialect, Option.bind_none]
    · rfl
  simp only [schemaInstance, hlater, Bool.false_eq_true, if_false, hhost, Option.or_none]

section Catalog

variable (hc : Catalog.ofRows rows = .ok v.catalog)
  (hlogical : v.catalog.find? logical.name = some logical)
include hc hlogical

theorem schemaInstance_of_writtenAs (h : c.WrittenAs v logical w) :
    c.schemaInstance v logical = .ok w := by
  cases h with
  | itself hvalid =>
    refine schemaInstance_itself hvalid (Option.filter_eq_some_iff.mpr ⟨hlogical, ?_⟩)
    rw [SchemaView.includes, hvalid, Bool.true_or]
  | host hlater hdialect hhost hw =>
    obtain ⟨u, hu, hvalid⟩ := Catalog.exists_host hc hlogical hhost
    obtain rfl : u = w := Option.some.inj (hu.symm.trans hw)
    refine schemaInstance_host hlater hdialect ?_
    rw [hhost, Option.bind_some]
    refine Option.filter_eq_some_iff.mpr ⟨hu, ?_⟩
    rw [SchemaView.includes, hdialect, hvalid, Bool.true_or]
  | proxy hlater hnone hw =>
    rw [schemaInstance_proxy hlater hnone, SchemaView.require_eq_ok_iff]
    exact hw

/-- A type is found just when one of the ways leads there. A host is never missing in its view, but
the proxy can be. -/
theorem schemaInstance_eq_ok_iff :
    c.schemaInstance v logical = .ok w ↔ c.WrittenAs v logical w := by
  refine ⟨fun h => ?_, schemaInstance_of_writtenAs hc hlogical⟩
  -- All ways that are open lead to the type that is found, so one of them has to be shown.
  have hsame {u : EntityType} (hu : c.WrittenAs v logical u) : c.WrittenAs v logical w := by
    have hresult := (schemaInstance_of_writtenAs hc hlogical hu).symm.trans h
    exact Except.ok.inj hresult ▸ hu
  cases hvalid : logical.dialects.supports v.dialect with
  | true => exact hsame (.itself hvalid)
  | false =>
    by_cases hhosted : v.dialect = .ifc2x3 ∧ logical.host.isSome = true
    · obtain ⟨host, hhost⟩ := Option.isSome_iff_exists.mp hhosted.2
      obtain ⟨u, hu, -⟩ := Catalog.exists_host hc hlogical hhost
      exact hsame (.host hvalid hhosted.1 hhost hu)
    · have hnone : v.dialect = .ifc2x3 → logical.host = none := fun hdialect => by
        simpa [hdialect] using hhosted
      rw [schemaInstance_proxy hvalid hnone] at h
      exact .proxy hvalid hnone (SchemaView.require_eq_ok_iff.mp h)

/-- What occurrences are written as is found by its own name. -/
theorem WrittenAs.find?_name (h : c.WrittenAs v logical w) : v.catalog.find? w.name = some w := by
  cases h with
  | itself _ => exact hlogical
  | host _ _ _ hw => exact Catalog.find?_name (Catalog.keyed_of_ofRows hc) hw
  | proxy _ _ hw =>
    exact Catalog.find?_name (Catalog.keyed_of_ofRows hc) (SchemaView.find?_of_find? hw)

/-- Each way ends in a type that is valid in the dialect. -/
theorem WrittenAs.supports (hview : v.isHybrid = false) (h : c.WrittenAs v logical w) :
    w.dialects.supports v.dialect = true := by
  cases h with
  | itself hvalid => exact hvalid
  | host _ hdialect hhost hw =>
    obtain ⟨u, hu, hvalid⟩ := Catalog.exists_host hc hlogical hhost
    obtain rfl : u = w := Option.some.inj (hu.symm.trans hw)
    exact hdialect ▸ hvalid
  | proxy _ _ hw =>
    have hincludes := (Option.filter_eq_some_iff.mp hw).2
    rwa [SchemaView.includes, hview, Bool.false_and, Bool.or_false] at hincludes

end Catalog

/-! ## Tables that name concrete types -/

/-- The names of types that can stand for occurrences: the proxy, the hosts, and what the
conventions make of the names of concrete types. -/
def standInNames (c : TypeConventions) (rows : List CatalogRow) : List String :=
  c.proxyType :: (rows.filterMap (·.host) ++
    (rows.filter fun row => !row.isAbstract).filterMap fun row => c.instanceName? row.name)

/-- No type with one of these names is abstract. -/
def StandInsConcrete (c : TypeConventions) (rows : List CatalogRow) : Prop :=
  ∀ row ∈ rows, row.isAbstract = true → ∀ name ∈ c.standInNames rows, ¬SameName row.name name

instance (c : TypeConventions) (rows : List CatalogRow) : Decidable (c.StandInsConcrete rows) :=
  inferInstanceAs (Decidable (∀ row ∈ rows, row.isAbstract = true →
    ∀ name ∈ c.standInNames rows, ¬SameName row.name name))

section Rows

variable {catalog : Catalog} (hc : Catalog.ofRows rows = .ok catalog)
include hc

theorem StandInsConcrete.isConcrete (h : c.StandInsConcrete rows)
    (hname : name ∈ c.standInNames rows) (hw : catalog.find? name = some w) :
    w.isConcrete = true := by
  obtain ⟨row, hrow, hsame, hnode⟩ := (Catalog.find?_eq_some_iff hc).mp hw
  rw [EntityType.isConcrete, hnode.isAbstract_eq]
  cases hflag : row.isAbstract with
  | false => rfl
  | true => exact absurd hsame (h row hrow hflag name hname)

/-- The occurrences of a concrete type object are of a type with one of the names. -/
theorem OccursAs.exists_name {t : EntityType} (ht : catalog.find? t.name = some t)
    (hconcrete : t.isConcrete = true) (hcatalog : v.catalog = catalog)
    (h : c.OccursAs v t.name logical) :
    ∃ name ∈ c.standInNames rows, catalog.find? name = some logical := by
  subst hcatalog
  cases h with
  | @named occurrence _ hname hlogical =>
    obtain ⟨row, hrow, -, hnode⟩ := (Catalog.find?_eq_some_iff hc).mp ht
    have hkept : row ∈ rows.filter fun row => !row.isAbstract :=
      List.mem_filter.mpr ⟨hrow, by rw [← hnode.isAbstract_eq]; exact hconcrete⟩
    refine ⟨occurrence, List.mem_cons_of_mem _ (List.mem_append_right _ ?_),
      SchemaView.find?_of_find? hlogical⟩
    exact List.mem_filterMap.mpr ⟨row, hkept, hnode.name_eq ▸ hname⟩
  | proxy _ hlogical => exact ⟨c.proxyType, List.mem_cons_self, SchemaView.find?_of_find? hlogical⟩

/-- So are the types that they are written as. -/
theorem WrittenAs.exists_name (hcatalog : v.catalog = catalog)
    (hnamed : ∃ name ∈ c.standInNames rows, catalog.find? name = some logical)
    (h : c.WrittenAs v logical w) : ∃ name ∈ c.standInNames rows, catalog.find? name = some w := by
  subst hcatalog
  cases h with
  | itself _ => exact hnamed
  | @host host _ _ _ hhost hw =>
    obtain ⟨occurrence, -, hlogical⟩ := hnamed
    obtain ⟨row, hrow, -, hnode⟩ := (Catalog.find?_eq_some_iff hc).mp hlogical
    refine ⟨host, List.mem_cons_of_mem _ (List.mem_append_left _ ?_), hw⟩
    exact List.mem_filterMap.mpr ⟨row, hrow, hnode.host_eq ▸ hhost⟩
  | proxy _ _ hw => exact ⟨c.proxyType, List.mem_cons_self, SchemaView.find?_of_find? hw⟩

end Rows

end TypeConventions

end Eir
