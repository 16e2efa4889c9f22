import Eir.Proofs.Lists
import Eir.Schema.View

/-!
# Types have one name

A catalog that was made of a table has each type under its own name, so types
with equal names are one type. All types that are found below a root are such
types. In a sorted list of them just neighbours can be equal, and `dedupNames`
leaves each once.
-/

namespace Eir

namespace Catalog

variable {c : Catalog} {entries entries' : Std.TreeMap String EntityType} {t u : EntityType}

/-- Each type stands under its own name. -/
def Keyed (entries : Std.TreeMap String EntityType) : Prop :=
  ∀ (key : String) (t : EntityType), entries[key]? = some t → t.name.toUpper = key

theorem keyed_empty : Keyed {} := fun key t h => by
  rw [Std.TreeMap.getElem?_emptyc] at h
  cases h

theorem Keyed.insertRow {row : CatalogRow} (h : Keyed entries)
    (hrow : insertRow entries row = .ok entries') : Keyed entries' := by
  rw [Catalog.insertRow] at hrow
  split at hrow
  · cases hrow
  · cases hrow
    intro key t ht
    rw [Std.TreeMap.getElem?_insert] at ht
    split at ht
    · rename_i heq
      cases ht
      exact Std.LawfulEqCmp.eq_of_compare heq
    · exact h key t ht

theorem Keyed.insertRows {rows : List CatalogRow} (h : Keyed entries)
    (hrows : rows.foldlM Catalog.insertRow entries = .ok entries') : Keyed entries' := by
  induction rows generalizing entries with
  | nil =>
    cases hrows
    exact h
  | cons row rows ih =>
    rw [List.foldlM_cons] at hrows
    obtain ⟨next, hrow, hrest⟩ := exists_of_bind_ok hrows
    exact ih (h.insertRow hrow) hrest

/-- A table makes a catalog with each type under its own name. -/
theorem keyed_of_ofRows {rows : List CatalogRow} (h : ofRows rows = .ok c) : Keyed c.entries := by
  rw [ofRows] at h
  obtain ⟨entries, hrows, h⟩ := exists_of_bind_ok h
  obtain ⟨-, -, h⟩ := exists_of_bind_ok h
  obtain ⟨-, -, h⟩ := exists_of_bind_ok h
  cases h
  intro key t ht
  rw [Std.TreeMap.getElem?_map] at ht
  obtain ⟨u, hu, rfl⟩ := Option.map_eq_some_iff.mp ht
  exact keyed_empty.insertRows hrows key u hu

/-- The rows under other names are added in their order. -/
theorem insertRows_eq {rows : List CatalogRow} {keys : List String}
    (hkeys : rows.map (·.name.toUpper) = keys) (hnodup : keys.Nodup)
    (hnew : ∀ key ∈ keys, key ∉ entries) :
    rows.foldlM insertRow entries = .ok ((keys.zip rows).foldl
      (fun entries (key, row) => entries.insert key (.ofRow row)) entries) := by
  induction rows generalizing keys entries with
  | nil =>
    subst hkeys
    rfl
  | cons row rows ih =>
    subst hkeys
    rw [List.map_cons] at hnodup hnew ⊢
    obtain ⟨hrow, hrows⟩ := List.forall_mem_cons.mp hnew
    obtain ⟨hother, hnodup⟩ := List.nodup_cons.mp hnodup
    have hinsert : insertRow entries row = .ok (entries.insert row.name.toUpper (.ofRow row)) := by
      rw [insertRow, if_neg (mt Std.TreeMap.mem_iff_contains.mpr hrow)]
    rw [List.foldlM_cons, hinsert]
    refine ih rfl hnodup fun key hkey hmem => ?_
    rcases Std.TreeMap.mem_insert.mp hmem with heq | hmem
    · obtain rfl := Std.LawfulEqCmp.eq_of_compare heq
      exact hother hkey
    · exact hrows key hkey hmem

theorem forM_ok {ε α : Type} {f : α → Except ε Unit} {as : List α} (h : ∀ a ∈ as, f a = .ok ()) :
    as.forM f = .ok () := by
  induction as with
  | nil => rfl
  | cons a as ih =>
    obtain ⟨ha, hrest⟩ := List.forall_mem_cons.mp h
    rw [List.forM, ha]
    exact ih hrest

/-- The catalog of a table whose names differ, whose parents are in it, and where hosts are types
of IFC2X3. -/
theorem ofRows_eq {rows : List CatalogRow} {keys : List String}
    (hkeys : rows.map (·.name.toUpper) = keys) (hnodup : keys.Nodup)
    (hentries : (keys.zip rows).foldl (fun entries (key, row) => entries.insert key (.ofRow row)) {} =
      entries)
    (hparents : ∀ link ∈ links entries.values, entries.contains link.1 = true)
    (hhosts : ∀ t ∈ entries.values, ∀ host, t.host = some host → hostIsValid entries host = true) :
    ofRows rows = .ok ⟨entries.map fun key t =>
      { t with children := childrenOf (links entries.values) key }⟩ := by
  have hlinks : checkParents entries (links entries.values) = .ok () :=
    forM_ok fun link hlink => if_pos (hparents link hlink)
  have hchecked : checkHosts entries entries.values = .ok () := by
    refine forM_ok fun t ht => ?_
    split
    · rename_i host hhost
      exact if_pos (hhosts t ht host hhost)
    · rfl
  rw [ofRows, insertRows_eq hkeys hnodup (fun key _ hmem => by simp at hmem), hentries]
  change (do
    checkParents entries (links entries.values)
    checkHosts entries entries.values
    pure _) = _
  rw [hlinks, hchecked]
  rfl

/-- The values of a map are those of its entries, in their order. -/
theorem values_eq_map (entries : Std.TreeMap String EntityType) :
    entries.values = entries.toList.map Prod.snd := by
  have hfold : entries.values = entries.foldr (fun _ t ts => t :: ts) [] := rfl
  rw [hfold, Std.TreeMap.foldr_eq_foldr_toList]
  exact (List.map_eq_foldr).symm

/-- A type that is found is one of the types. -/
theorem mem_types {name : String} (h : c.find? name = some t) : t ∈ c.types := by
  rw [types, values_eq_map]
  exact List.mem_map_of_mem (f := Prod.snd) (Std.TreeMap.mem_toList_iff_getElem?_eq_some.mpr h)

/-- A type that is found is found by its own name. -/
theorem find?_name (hc : Keyed c.entries) {name : String} (h : c.find? name = some t) :
    c.find? t.name = some t := by
  rw [find?] at h ⊢
  rwa [hc _ t h]

theorem eq_of_name_eq (ht : c.find? t.name = some t) (hu : c.find? u.name = some u)
    (h : t.name = u.name) : t = u := by
  rw [h, hu] at ht
  exact (Option.some.inj ht).symm

end Catalog

namespace SchemaView

variable {v : SchemaView} {t u : EntityType} {ts : List EntityType}

theorem find?_of_find? {name : String} (h : v.find? name = some t) :
    v.catalog.find? name = some t :=
  (Option.filter_eq_some_iff.mp h).1

/-! ## Sorted types -/

theorem sublist_dedupNames (ts : List EntityType) : (dedupNames ts).Sublist ts := by
  induction ts with
  | nil => exact .slnil
  | cons t ts ih =>
    rw [dedupNames]
    split
    · rename_i heq
      exact .cons_cons t (List.nil_sublist ts)
    · rename_i u us heq
      rw [heq] at ih
      split
      · exact ((List.sublist_cons_self u us).trans ih).cons_cons t
      · exact ih.cons_cons t

/-- The types are told apart by their names. -/
def Named (ts : List EntityType) : Prop := ∀ t ∈ ts, ∀ u ∈ ts, t.name = u.name → t = u

theorem Named.tail (h : Named (t :: ts)) : Named ts := fun a ha b hb =>
  h a (List.mem_cons_of_mem t ha) b (List.mem_cons_of_mem t hb)

theorem mem_dedupNames (h : Named ts) : t ∈ dedupNames ts ↔ t ∈ ts := by
  refine ⟨fun ht => (sublist_dedupNames ts).subset ht, fun ht => ?_⟩
  induction ts with
  | nil => cases ht
  | cons a as ih =>
    rw [dedupNames]
    rcases List.mem_cons.mp ht with rfl | htail
    · split
      · exact List.mem_singleton_self t
      · split <;> exact List.mem_cons_self
    · have hkept := ih h.tail htail
      split
      · rename_i heq
        rw [heq] at hkept
        cases hkept
      · rename_i u us heq
        rw [heq] at hkept
        split
        · rename_i hname
          have hu : u ∈ a :: as := List.mem_cons_of_mem a
            ((sublist_dedupNames as).subset (heq ▸ List.mem_cons_self))
          rwa [h a List.mem_cons_self u hu hname]
        · exact List.mem_cons_of_mem a hkept

/-- In a list that is sorted in some way only neighbours have one name. -/
theorem pairwise_dedupNames {R : EntityType → EntityType → Prop} (h : Named ts)
    (hanti : ∀ a b, R a b → R b a → a.name = b.name) (hsorted : ts.Pairwise R) :
    (dedupNames ts).Pairwise fun a b => a.name ≠ b.name := by
  induction ts with
  | nil => exact .nil
  | cons t ts ih =>
    obtain ⟨hfirst, hrest⟩ := List.pairwise_cons.mp hsorted
    have hdistinct := ih h.tail hrest
    have hkept := (sublist_dedupNames ts)
    rw [dedupNames]
    split
    · exact List.pairwise_singleton _ t
    · rename_i u us heq
      rw [heq] at hdistinct hkept
      have hapart := List.pairwise_cons.mp hdistinct
      split
      · rename_i hname
        exact List.pairwise_cons.mpr ⟨fun x hx => hname ▸ hapart.1 x hx, hapart.2⟩
      · rename_i hname
        refine List.pairwise_cons.mpr ⟨fun x hx heqname => hname ?_, hdistinct⟩
        rcases List.mem_cons.mp hx with rfl | hx
        · exact heqname
        · -- A type behind `u` that is `t` itself stands on both sides of `u`.
          have hmem : x ∈ t :: ts :=
            List.mem_cons_of_mem t (hkept.subset (List.mem_cons_of_mem u hx))
          obtain rfl := h t List.mem_cons_self x hmem heqname
          have hsub := hrest.sublist hkept
          exact hanti t u (hfirst u (hkept.subset List.mem_cons_self))
            ((List.pairwise_cons.mp hsub).1 t hx)

/-! ## Types below a root -/

/-- Types below a type of the catalog are types of the catalog. -/
theorem find?_of_mem_concreteBelow (hv : Catalog.Keyed v.catalog.entries) {depth : Nat}
    {root : EntityType} (hroot : v.catalog.find? root.name = some root)
    (ht : t ∈ v.concreteBelow depth root) : v.catalog.find? t.name = some t := by
  induction depth generalizing root with
  | zero =>
    rw [concreteBelow] at ht
    split at ht
    · rwa [List.mem_singleton.mp ht]
    · cases ht
  | succ depth ih =>
    rw [concreteBelow] at ht
    rcases List.mem_append.mp ht with ht | ht
    · split at ht
      · rwa [List.mem_singleton.mp ht]
      · cases ht
    · obtain ⟨child, hchild, hbelow⟩ := List.mem_flatMap.mp ht
      obtain ⟨name, -, hname⟩ := List.mem_filterMap.mp hchild
      exact ih (Catalog.find?_name hv (find?_of_find? hname)) hbelow

theorem find?_of_mem_concreteSubtypes (hv : Catalog.Keyed v.catalog.entries) {root : String}
    (h : v.concreteSubtypes root = .ok ts) (ht : t ∈ ts) : v.catalog.find? t.name = some t := by
  rw [concreteSubtypes, require] at h
  cases hroot : v.find? root with
  | none =>
    rw [hroot] at h
    cases h
  | some r =>
    rw [hroot] at h
    cases h
    exact find?_of_mem_concreteBelow hv (Catalog.find?_name hv (find?_of_find? hroot))
      (List.mem_mergeSort.mp ((sublist_dedupNames _).subset ht))

end SchemaView

end Eir
