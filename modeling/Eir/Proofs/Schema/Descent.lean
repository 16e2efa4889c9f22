import Eir.Proofs.Schema.Loading
import Eir.Sample.Model
import Mathlib.Logic.Relation

/-!
# Types at and below another

The children of a type are the types that have it as their parent, so going down
the children from a type meets the same types as going up from each of them. What
is met on the way up is a chain (`ChainUp`). Where no type is above itself, a type
stands once in a chain, so no chain is longer than the catalog is large, and the
two walks that count their links go all the way.
-/

namespace Eir

namespace Catalog

variable {rows : List CatalogRow} {c : Catalog} {t p root : EntityType} {chain : List EntityType}
  {name : String}

/-- The type right above. -/
def HasParent (c : Catalog) (t p : EntityType) : Prop := t.parent.bind c.find? = some p

/-- What is met going up from a type to `root`, both of them included. -/
inductive ChainUp (c : Catalog) (root : EntityType) : EntityType → List EntityType → Prop
  | here : ChainUp c root root [root]
  | up {t p : EntityType} {chain : List EntityType} :
    c.HasParent t p → ChainUp c root p chain → ChainUp c root t (t :: chain)

/-- No type is above itself. -/
def Acyclic (c : Catalog) : Prop := ∀ t ∈ c.types, ¬Relation.TransGen c.HasParent t t

/-! ## Links -/

theorem find?_of_hasParent (hc : ofRows rows = .ok c) (h : c.HasParent t p) :
    c.find? p.name = some p := by
  obtain ⟨parent, -, hparent⟩ := Option.bind_eq_some_iff.mp h
  exact find?_name (keyed_of_ofRows hc) hparent

/-- A type is found by its name in any case, and nothing else is. -/
theorem find?_eq_some_iff_sameName (hc : ofRows rows = .ok c) :
    c.find? name = some t ↔ c.find? t.name = some t ∧ SameName t.name name := by
  constructor
  · intro h
    exact ⟨find?_name (keyed_of_ofRows hc) h, keyed_of_ofRows hc _ t h⟩
  · rintro ⟨h, hname⟩
    rwa [find?, ← hname]

/-- The children are the types whose parent it is. -/
theorem find?_child_iff (hc : ofRows rows = .ok c) (hp : c.find? p.name = some p) :
    (∃ name ∈ p.children, c.find? name = some t) ↔
      c.find? t.name = some t ∧ c.HasParent t p := by
  obtain ⟨row, hrow, -, hnode⟩ := (find?_eq_some_iff hc).mp hp
  constructor
  · rintro ⟨name, hname, ht⟩
    refine ⟨find?_name (keyed_of_ofRows hc) ht, ?_⟩
    obtain ⟨r, hr, rfl, parent, hparent, hsame⟩ := (hnode.mem_children name).mp hname
    obtain ⟨u, hu⟩ := exists_nodeOf hc r
    have hfound := (find?_eq_some_iff hc).mpr ⟨r, hr, .refl _, hu⟩
    obtain rfl : u = t := Option.some.inj (hfound.symm.trans ht)
    rw [HasParent, hu.parent_eq, hparent]
    exact (find?_eq_some_iff_sameName hc).mpr ⟨hp, hnode.name_eq ▸ hsame.symm⟩
  · rintro ⟨ht, hlink⟩
    obtain ⟨parent, hparent, hfound⟩ := Option.bind_eq_some_iff.mp hlink
    obtain ⟨r, hr, -, hu⟩ := (find?_eq_some_iff hc).mp ht
    have hsame : SameName parent row.name :=
      hnode.name_eq ▸ ((find?_eq_some_iff_sameName hc).mp hfound).2.symm
    exact ⟨t.name, (hnode.mem_children _).mpr
      ⟨r, hr, hu.name_eq.symm, parent, hu.parent_eq.symm.trans hparent, hsame⟩, ht⟩

/-! ## Chains -/

namespace ChainUp

theorem self_mem (h : c.ChainUp root t chain) : t ∈ chain := by
  cases h <;> exact List.mem_cons_self

theorem root_mem (h : c.ChainUp root t chain) : root ∈ chain := by
  induction h with
  | here => exact List.mem_singleton_self root
  | up _ _ ih => exact List.mem_cons_of_mem _ ih

/-- One more link above. -/
theorem snoc (h : c.ChainUp root t chain) (hlink : c.HasParent root p) :
    c.ChainUp p t (chain ++ [p]) := by
  induction h with
  | here => exact .up hlink .here
  | up hfirst _ ih => exact .up hfirst ih

/-- The last link of a chain. -/
theorem eq_or_snoc (h : c.ChainUp root t chain) :
    t = root ∧ chain = [root] ∨
      ∃ child below, c.ChainUp child t below ∧ c.HasParent child root ∧ chain = below ++ [root] := by
  induction h with
  | here => exact .inl ⟨rfl, rfl⟩
  | @up t p chain hlink hrest ih =>
    right
    rcases ih with ⟨rfl, rfl⟩ | ⟨child, below, hbelow, hlast, rfl⟩
    · exact ⟨t, [t], .here, hlink, rfl⟩
    · exact ⟨child, t :: below, .up hlink hbelow, hlast, rfl⟩

theorem find?_of_mem (hc : ofRows rows = .ok c) (h : c.ChainUp root t chain)
    (ht : c.find? t.name = some t) : ∀ a ∈ chain, c.find? a.name = some a := by
  induction h with
  | here =>
    intro a ha
    rwa [List.mem_singleton.mp ha]
  | up hlink _ ih => exact List.forall_mem_cons.mpr ⟨ht, ih (find?_of_hasParent hc hlink)⟩

/-- What is met on the way is at or above the type. -/
theorem reflTransGen_of_mem (h : c.ChainUp root t chain) :
    ∀ a ∈ chain, Relation.ReflTransGen c.HasParent t a := by
  induction h with
  | here =>
    intro a ha
    rw [List.mem_singleton.mp ha]
  | up hlink _ ih => exact List.forall_mem_cons.mpr ⟨.refl, fun a ha => .head hlink (ih a ha)⟩

/-- A type stands once in a chain. -/
theorem nodup (hc : ofRows rows = .ok c) (hacyclic : c.Acyclic) (h : c.ChainUp root t chain)
    (ht : c.find? t.name = some t) : chain.Nodup := by
  induction h with
  | here => exact List.nodup_singleton root
  | up hlink hrest ih =>
    refine List.nodup_cons.mpr ⟨fun hmem => ?_, ih (find?_of_hasParent hc hlink)⟩
    -- A type that is met again on the way up is above itself.
    exact hacyclic _ (mem_types ht) (.head' hlink (hrest.reflTransGen_of_mem _ hmem))

/-- No chain is longer than the catalog is large. -/
theorem length_le (hc : ofRows rows = .ok c) (hacyclic : c.Acyclic) (h : c.ChainUp root t chain)
    (ht : c.find? t.name = some t) : chain.length ≤ c.size := by
  have hsub : chain ⊆ c.types := fun a ha => mem_types (h.find?_of_mem hc ht a ha)
  have hsize : c.types.length = c.size := by
    rw [types, values_eq_map, List.length_map, Std.TreeMap.length_toList, size]
  exact hsize ▸ ((h.nodup hc hacyclic ht).subperm hsub).length_le

end ChainUp

/-- What stands above another type has a lower rank, as in a table with ranks that get lower from
each row to its parent. -/
theorem acyclic_of_rank (hc : ofRows rows = .ok c) (rank : String → Nat)
    (hrank : ∀ row ∈ rows, ∀ parent ∈ row.parent,
      rank parent.toUpper < rank row.name.toUpper) : c.Acyclic := by
  have hstep {t p : EntityType} (ht : c.find? t.name = some t) (hlink : c.HasParent t p) :
      c.find? p.name = some p ∧ rank p.name.toUpper < rank t.name.toUpper := by
    refine ⟨find?_of_hasParent hc hlink, ?_⟩
    obtain ⟨parent, hparent, hfound⟩ := Option.bind_eq_some_iff.mp hlink
    obtain ⟨row, hrow, hname, hnode⟩ := (find?_eq_some_iff hc).mp ht
    have hsame : p.name.toUpper = parent.toUpper := ((find?_eq_some_iff_sameName hc).mp hfound).2
    rw [hsame, ← (show row.name.toUpper = t.name.toUpper from hname)]
    exact hrank row hrow parent (hnode.parent_eq ▸ hparent)
  have habove {t p : EntityType} (ht : c.find? t.name = some t)
      (h : Relation.TransGen c.HasParent t p) :
      c.find? p.name = some p ∧ rank p.name.toUpper < rank t.name.toUpper := by
    induction h with
    | single hlink => exact hstep ht hlink
    | tail _ hlink ih =>
      obtain ⟨hfound, hlower⟩ := hstep ih.1 hlink
      exact ⟨hfound, hlower.trans ih.2⟩
  intro t ht hcycle
  exact Nat.lt_irrefl _ (habove (find?_of_mem_types (keyed_of_ofRows hc) ht) hcycle).2

end Catalog

/-! ## Going up -/

namespace SampleSources

variable {rows : List CatalogRow} {c : Catalog} {t : EntityType} {ancestors : List String}
  {name : String} {s : SampleSources}

theorem any_eq_true_iff_sameName {other : String} :
    ancestors.any (fun a => a.toLower == other.toLower) = true ↔
      ∃ a ∈ ancestors, SameName other a := by
  simp only [List.any_eq_true, beq_iff_eq, sameName_iff_toLower]
  exact exists_congr fun a => and_congr_right' eq_comm

theorem reaches_iff {depth : Nat} : reaches c ancestors depth t = true ↔
    ∃ root chain, c.ChainUp root t chain ∧ chain.length ≤ depth ∧
      ∃ a ∈ ancestors, SameName root.name a := by
  induction depth generalizing t with
  | zero =>
    refine iff_of_false Bool.false_ne_true ?_
    rintro ⟨root, chain, hchain, hlength, -⟩
    exact absurd hchain.self_mem (List.length_eq_zero_iff.mp (Nat.le_zero.mp hlength) ▸ List.not_mem_nil)
  | succ depth ih =>
    rw [reaches, Bool.or_eq_true, any_eq_true_iff_sameName]
    constructor
    · rintro (hhere | habove)
      · exact ⟨t, [t], .here, by simp, hhere⟩
      · split at habove
        · rename_i p hlink
          obtain ⟨root, chain, hchain, hlength, hname⟩ := ih.mp habove
          exact ⟨root, t :: chain, .up hlink hchain, Nat.succ_le_succ hlength, hname⟩
        · cases habove
    · rintro ⟨root, chain, hchain, hlength, hname⟩
      cases hchain with
      | here => exact .inl hname
      | @up _ p chain hlink hrest =>
        right
        rw [show t.parent.bind c.find? = some p from hlink]
        exact ih.mpr ⟨root, chain, hrest, Nat.le_of_succ_le_succ hlength, hname⟩

/-- A type is of the kind of another just when a chain goes up to it. -/
theorem isA_iff (hc : Catalog.ofRows rows = .ok c) (hacyclic : c.Acyclic)
    (hs : s.inputs.catalog = c) (ht : c.find? t.name = some t) :
    s.isA t.name [name] = true ↔
      ∃ root chain, c.find? name = some root ∧ c.ChainUp root t chain := by
  rw [isA, hs, ht]
  simp only [reaches_iff, List.mem_singleton, exists_eq_left]
  constructor
  · rintro ⟨root, chain, hchain, -, hname⟩
    have hroot := hchain.find?_of_mem hc ht root hchain.root_mem
    exact ⟨root, chain, (Catalog.find?_eq_some_iff_sameName hc).mpr ⟨hroot, hname⟩, hchain⟩
  · rintro ⟨root, chain, hroot, hchain⟩
    exact ⟨root, chain, hchain, Nat.le_succ_of_le (hchain.length_le hc hacyclic ht),
      ((Catalog.find?_eq_some_iff_sameName hc).mp hroot).2⟩

end SampleSources

/-! ## Going down -/

namespace SchemaView

variable {rows : List CatalogRow} {v : SchemaView} {t root : EntityType} {name : String}
  {ts : List EntityType}

theorem find?_eq_some_iff :
    v.find? name = some t ↔ v.catalog.find? name = some t ∧ v.includes t = true :=
  Option.filter_eq_some_iff

theorem require_of_find? (h : v.find? name = some t) : v.require name = .ok t := by
  rw [require, h]

theorem require_of_find?_none (h : v.find? name = none) :
    v.require name = .error (.unsupportedType name v.dialect) := by
  rw [require, h]

/-- A type itself is met when it is concrete. -/
theorem mem_here_iff : (t ∈ if root.isConcrete = true then [root] else []) ↔
    root.isConcrete = true ∧ t = root := by
  split <;> simp [*]

/-- What is met at most `depth` links down are the concrete types with a chain of that length,
which goes through types of the view. -/
theorem mem_concreteBelow_iff (hc : Catalog.ofRows rows = .ok v.catalog) {depth : Nat}
    (hroot : v.catalog.find? root.name = some root) (hincludes : v.includes root = true) :
    t ∈ v.concreteBelow depth root ↔
      v.catalog.find? t.name = some t ∧ t.isConcrete = true ∧
        ∃ chain, v.catalog.ChainUp root t chain ∧ chain.length ≤ depth + 1 ∧
          ∀ a ∈ chain, v.includes a = true := by
  induction depth generalizing root with
  | zero =>
    rw [concreteBelow, mem_here_iff]
    constructor
    · rintro ⟨hconcrete, rfl⟩
      exact ⟨hroot, hconcrete, [t], .here, Nat.le_refl 1, by simpa using hincludes⟩
    · rintro ⟨-, hconcrete, chain, hchain, hlength, -⟩
      rcases hchain.eq_or_snoc with ⟨rfl, -⟩ | ⟨child, below, hbelow, -, rfl⟩
      · exact ⟨hconcrete, rfl⟩
      · have hpos := List.length_pos_of_mem hbelow.self_mem
        simp only [List.length_append, List.length_singleton] at hlength
        omega
  | succ depth ih =>
    rw [concreteBelow, List.mem_append, mem_here_iff, List.mem_flatMap]
    constructor
    · rintro (⟨hconcrete, rfl⟩ | ⟨child, hchild, hbelow⟩)
      · exact ⟨hroot, hconcrete, [t], .here, by simp, by simpa using hincludes⟩
      · obtain ⟨name, hname, hfound⟩ := List.mem_filterMap.mp hchild
        obtain ⟨hfound, hin⟩ := find?_eq_some_iff.mp hfound
        obtain ⟨hown, hlink⟩ := (Catalog.find?_child_iff hc hroot).mp ⟨name, hname, hfound⟩
        obtain ⟨ht, hconcrete, chain, hchain, hlength, hall⟩ := (ih hown hin).mp hbelow
        refine ⟨ht, hconcrete, chain ++ [root], hchain.snoc hlink, by simpa using hlength, ?_⟩
        exact List.forall_mem_append.mpr ⟨hall, by simpa using hincludes⟩
    · rintro ⟨ht, hconcrete, chain, hchain, hlength, hall⟩
      -- The walk comes from above, so the chain is taken apart at its upper end.
      rcases hchain.eq_or_snoc with ⟨rfl, -⟩ | ⟨child, below, hbelow, hlink, rfl⟩
      · exact .inl ⟨hconcrete, rfl⟩
      · obtain ⟨hall, -⟩ := List.forall_mem_append.mp hall
        have hown := hbelow.find?_of_mem hc ht child hbelow.root_mem
        have hin := hall child hbelow.root_mem
        obtain ⟨name, hname, hfound⟩ := (Catalog.find?_child_iff hc hroot).mpr ⟨hown, hlink⟩
        refine .inr ⟨child, List.mem_filterMap.mpr
          ⟨name, hname, find?_eq_some_iff.mpr ⟨hfound, hin⟩⟩, ?_⟩
        exact (ih hown hin).mpr ⟨ht, hconcrete, below, hbelow, by simpa using hlength, hall⟩

/-- The walk fails just for a name that the view does not have. -/
theorem concreteSubtypes_eq_error_iff :
    v.concreteSubtypes name = .error (.unsupportedType name v.dialect) ↔ v.find? name = none := by
  constructor
  · intro h
    cases hfind : v.find? name with
    | none => rfl
    | some root =>
      rw [concreteSubtypes, require_of_find? hfind] at h
      cases h
  · intro h
    rw [concreteSubtypes, require_of_find?_none h]
    rfl

/-- What is found for a name of the view: by name and each once, the concrete types with a chain of
types of the view up to the named one. -/
theorem concreteSubtypes_spec (hc : Catalog.ofRows rows = .ok v.catalog)
    (hacyclic : v.catalog.Acyclic) (hroot : v.find? name = some root) :
    ∃ ts, v.concreteSubtypes name = .ok ts ∧ ts.Pairwise (fun t u => t.name < u.name) ∧
      ∀ t, t ∈ ts ↔ v.catalog.find? t.name = some t ∧ t.isConcrete = true ∧
        ∃ chain, v.catalog.ChainUp root t chain ∧ ∀ a ∈ chain, v.includes a = true := by
  obtain ⟨hfound, hincludes⟩ := find?_eq_some_iff.mp hroot
  have hown := Catalog.find?_name (Catalog.keyed_of_ofRows hc) hfound
  have hbelow (t : EntityType) : t ∈ v.concreteBelow v.catalog.size root ↔ _ :=
    mem_concreteBelow_iff hc hown hincludes
  let found := v.concreteBelow v.catalog.size root
  let sorted := found.mergeSort fun a b => decide (a.name ≤ b.name)
  have hnamed : Named sorted := fun t ht u hu =>
    Catalog.eq_of_name_eq ((hbelow t).mp (List.mem_mergeSort.mp ht)).1
      ((hbelow u).mp (List.mem_mergeSort.mp hu)).1
  have hsorted := pairwise_sortedBy EntityType.name found
  refine ⟨dedupNames sorted, by rw [concreteSubtypes, require_of_find? hroot]; rfl,
    pairwise_lt_of_le (hsorted.sublist (sublist_dedupNames _))
      (pairwise_dedupNames hnamed (fun _ _ => String.le_antisymm) hsorted), fun t => ?_⟩
  rw [mem_dedupNames hnamed, List.mem_mergeSort, hbelow]
  constructor
  · rintro ⟨ht, hconcrete, chain, hchain, -, hall⟩
    exact ⟨ht, hconcrete, chain, hchain, hall⟩
  · rintro ⟨ht, hconcrete, chain, hchain, hall⟩
    exact ⟨ht, hconcrete, chain, hchain,
      Nat.le_succ_of_le (hchain.length_le hc hacyclic ht), hall⟩

theorem includes_hybridView {c : Catalog} (h : (c.view .ifc2x3).includes t = true) :
    c.hybridView.includes t = true := by
  rw [includes, Bool.or_eq_true]
  exact .inl (by simpa [includes, Catalog.view, Catalog.hybridView] using h)

/-- A chain of types of IFC2X3 is one of the hybrid view too. -/
theorem hybrid_misses_nothing {c : Catalog} (hc : Catalog.ofRows rows = .ok c)
    (hacyclic : c.Acyclic) (hts : (c.view .ifc2x3).concreteSubtypes name = .ok ts) :
    ∃ ts', c.hybridView.concreteSubtypes name = .ok ts' ∧ ts ⊆ ts' := by
  cases hroot : (c.view .ifc2x3).find? name with
  | none =>
    rw [concreteSubtypes_eq_error_iff.mpr hroot] at hts
    cases hts
  | some root =>
    obtain ⟨us, hus, -, hspec⟩ := concreteSubtypes_spec (v := c.view .ifc2x3) hc hacyclic hroot
    obtain rfl : us = ts := Except.ok.inj (hus.symm.trans hts)
    obtain ⟨hfound, hin⟩ := find?_eq_some_iff.mp hroot
    obtain ⟨ts', hts', -, hspec'⟩ := concreteSubtypes_spec (v := c.hybridView) hc hacyclic
      (find?_eq_some_iff.mpr ⟨hfound, includes_hybridView hin⟩)
    refine ⟨ts', hts', fun t ht => ?_⟩
    obtain ⟨hown, hconcrete, chain, hchain, hall⟩ := (hspec t).mp ht
    exact (hspec' t).mpr ⟨hown, hconcrete, chain, hchain, fun a ha =>
      includes_hybridView (hall a ha)⟩

/-- **The concrete types at and below a type are those with a chain up to it.** A name that the
view does not have is refused. For any other, the types come by name and each once, and they are the
concrete types of the catalog from which some chain of types of the view goes up to the named type.
So each of them is of that kind, and a concrete type of that kind is among them if all that stands
between it and the named type is in the view. The hybrid view misses nothing of the plain one. -/
theorem subtypes_are_below (rows : List CatalogRow) (c : Catalog) (hc : Catalog.ofRows rows = .ok c)
    (hacyclic : c.Acyclic) (name : String) :
    (∀ v : SchemaView, v.catalog = c →
      (v.concreteSubtypes name = .error (.unsupportedType name v.dialect) ↔
        v.find? name = none) ∧
      ∀ root, v.find? name = some root →
        ∃ ts, v.concreteSubtypes name = .ok ts ∧ ts.Pairwise (fun t u => t.name < u.name) ∧
          (∀ t, t ∈ ts ↔ t ∈ c.types ∧ t.isConcrete = true ∧
            ∃ chain, c.ChainUp root t chain ∧ ∀ a ∈ chain, v.includes a = true) ∧
          ∀ s : SampleSources, s.inputs.catalog = c →
            (∀ t ∈ ts, s.isA t.name [name] = true) ∧
            ∀ t ∈ c.types, t.isConcrete = true → s.isA t.name [name] = true →
              (∀ chain, c.ChainUp root t chain → ∀ a ∈ chain, v.includes a = true) → t ∈ ts) ∧
    ∀ ts, (c.view .ifc2x3).concreteSubtypes name = .ok ts →
      ∃ ts', c.hybridView.concreteSubtypes name = .ok ts' ∧ ts ⊆ ts' := by
  have hmem (t : EntityType) : t ∈ c.types ↔ c.find? t.name = some t :=
    ⟨Catalog.find?_of_mem_types (Catalog.keyed_of_ofRows hc), Catalog.mem_types⟩
  constructor
  · rintro v rfl
    refine ⟨concreteSubtypes_eq_error_iff, fun root hroot => ?_⟩
    obtain ⟨ts, hts, hsorted, hspec⟩ := concreteSubtypes_spec hc hacyclic hroot
    obtain ⟨hfound, -⟩ := find?_eq_some_iff.mp hroot
    refine ⟨ts, hts, hsorted, fun t => by rw [hspec, hmem], fun s hs => ⟨fun t ht => ?_, ?_⟩⟩
    · obtain ⟨hown, -, chain, hchain, -⟩ := (hspec t).mp ht
      exact (SampleSources.isA_iff hc hacyclic hs hown).mpr ⟨root, chain, hfound, hchain⟩
    · intro t ht hconcrete hisA hall
      have hown := (hmem t).mp ht
      obtain ⟨r, chain, hr, hchain⟩ := (SampleSources.isA_iff hc hacyclic hs hown).mp hisA
      obtain rfl : r = root := Option.some.inj (hr.symm.trans hfound)
      exact (hspec t).mpr ⟨hown, hconcrete, chain, hchain, hall chain hchain⟩
  · exact fun ts => hybrid_misses_nothing hc hacyclic

/-- A terminal that IFC2X3 does not have, though it has the type above it. -/
def hostedRows : List CatalogRow :=
  [⟨"IfcAirTerminal", some "IfcFlowTerminal", false, none, [.ifc4], [], some "IfcFlowTerminal"⟩,
    ⟨"IfcFlowTerminal", none, true, some "HvacDomain", Dialect.all, [], none⟩]

def hosted : Catalog := (Catalog.ofRows hostedRows).toOption.getD default

/-- The names of what is found. -/
def namesBelow (v : SchemaView) (name : String) : Option (List String) :=
  (v.concreteSubtypes name).toOption.map fun ts => ts.map EntityType.name

theorem subtypes_of_terminals : Catalog.ofRows hostedRows = .ok hosted ∧ hosted.Acyclic ∧
    (hosted.view .ifc2x3).namesBelow "IfcFlowTerminal" = some [] ∧
    ∃ ts, hosted.hybridView.concreteSubtypes "IfcFlowTerminal" = .ok ts ∧
      ts.map EntityType.name = ["IfcAirTerminal"] ∧
      ∀ s : SampleSources, s.inputs.catalog = hosted →
        ∀ t ∈ ts, s.isA t.name ["IfcFlowTerminal"] = true := by
  have hc : Catalog.ofRows hostedRows = .ok hosted := Catalog.ofRows_of_isOk (by decide +kernel)
  have hacyclic : hosted.Acyclic :=
    Catalog.acyclic_of_rank hc (fun key => if key = "IFCFLOWTERMINAL" then 0 else 1)
      (by decide +kernel)
  obtain ⟨hviews, -⟩ := subtypes_are_below _ hosted hc hacyclic "IfcFlowTerminal"
  obtain ⟨-, hall⟩ := hviews hosted.hybridView rfl
  have hnames : hosted.hybridView.namesBelow "IfcFlowTerminal" = some ["IfcAirTerminal"] := by
    decide +kernel
  cases hroot : hosted.hybridView.find? "IfcFlowTerminal" with
  | none =>
    rw [namesBelow, concreteSubtypes_eq_error_iff.mpr hroot] at hnames
    cases hnames
  | some root =>
    obtain ⟨ts, hts, -, -, hisA⟩ := hall root hroot
    rw [namesBelow, hts] at hnames
    exact ⟨hc, hacyclic, by decide +kernel, ts, hts, Option.some.inj hnames,
      fun s hs => (hisA s hs).1⟩

end SchemaView

end Eir
