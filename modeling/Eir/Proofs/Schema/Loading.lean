import Eir.Proofs.Schema.Subtypes
import Eir.Proofs.Text.Casing
import Mathlib.Data.List.Sort
import Mathlib.Data.String.Basic

/-!
# Tables that make a catalog

A table makes a catalog just when it is `WellFormed`: its names differ, its
parents are in it, and its hosts are IFC2X3 types of it, all of this in any case.
The catalog then has one type for each row. It says what the row says, and lists
the rows right below, in order and each once (`NodeOf`): the children are the
inverse of the parents. A node is fixed by this, so the order of the rows does not
matter (`NodeOf.unique`).
-/

namespace Eir.Catalog

variable {rows rows' : List CatalogRow} {row : CatalogRow} {c c' : Catalog}
  {entries entries' : Std.TreeMap String EntityType} {t u : EntityType} {key name : String}

/-- A table that makes a catalog. -/
structure WellFormed (rows : List CatalogRow) : Prop where
  names : rows.Pairwise fun r r' => ¬SameName r.name r'.name
  parents : ∀ row ∈ rows, ∀ parent ∈ row.parent, ∃ r ∈ rows, SameName r.name parent
  hosts : ∀ row ∈ rows, ∀ host ∈ row.host,
    ∃ r ∈ rows, SameName r.name host ∧ .ifc2x3 ∈ r.dialects

instance (rows : List CatalogRow) : Decidable (WellFormed rows) :=
  decidable_of_iff
    (rows.Pairwise (fun r r' => ¬SameName r.name r'.name) ∧
      (∀ row ∈ rows, ∀ parent ∈ row.parent, ∃ r ∈ rows, SameName r.name parent) ∧
      ∀ row ∈ rows, ∀ host ∈ row.host,
        ∃ r ∈ rows, SameName r.name host ∧ .ifc2x3 ∈ r.dialects)
    ⟨fun ⟨names, parents, hosts⟩ => ⟨names, parents, hosts⟩,
      fun ⟨names, parents, hosts⟩ => ⟨names, parents, hosts⟩⟩

/-- The type of a row: it says what the row says, and its children are the names of the rows
whose parent it is, in order and each once. -/
structure NodeOf (rows : List CatalogRow) (row : CatalogRow) (t : EntityType) : Prop where
  node : t = { EntityType.ofRow row with children := t.children }
  sorted : t.children.Pairwise (· < ·)
  mem_children : ∀ name, name ∈ t.children ↔
    ∃ r ∈ rows, r.name = name ∧ ∃ parent, r.parent = some parent ∧ SameName parent row.name

theorem NodeOf.name_eq (h : NodeOf rows row t) : t.name = row.name := congrArg EntityType.name h.node

theorem NodeOf.parent_eq (h : NodeOf rows row t) : t.parent = row.parent :=
  congrArg EntityType.parent h.node

theorem NodeOf.host_eq (h : NodeOf rows row t) : t.host = row.host := congrArg EntityType.host h.node

theorem NodeOf.isAbstract_eq (h : NodeOf rows row t) : t.isAbstract = row.isAbstract :=
  congrArg EntityType.isAbstract h.node

/-! ## Adding rows -/

theorem insertRow_eq_ok : insertRow entries row = .ok entries' ↔
    row.name.toUpper ∉ entries ∧ entries' = entries.insert row.name.toUpper (.ofRow row) := by
  rw [insertRow, Std.TreeMap.mem_iff_contains]
  cases entries.contains row.name.toUpper with
  | true => simp
  | false => simp [eq_comm]

theorem getElem?_insert_of_not_mem (hnew : row.name.toUpper ∉ entries) :
    (entries.insert row.name.toUpper (.ofRow row))[key]? = some t ↔
      entries[key]? = some t ∨ row.name.toUpper = key ∧ t = .ofRow row := by
  rw [Std.TreeMap.getElem?_insert]
  by_cases h : row.name.toUpper = key
  · have hnone : entries[key]? = none := by
      rw [← h]
      exact Std.TreeMap.getElem?_eq_none hnew
    rw [if_pos (Std.LawfulEqCmp.compare_eq_iff_eq.mpr h), hnone]
    simp [h, eq_comm]
  · rw [if_neg (mt Std.LawfulEqCmp.compare_eq_iff_eq.mp h)]
    simp [h]

/-- The entries after some rows were added to others. -/
theorem getElem?_insertRows (h : rows.foldlM insertRow entries = .ok entries') :
    entries'[key]? = some t ↔
      entries[key]? = some t ∨ ∃ row ∈ rows, row.name.toUpper = key ∧ t = .ofRow row := by
  induction rows generalizing entries with
  | nil =>
    cases h
    simp
  | cons row rows ih =>
    rw [List.foldlM_cons] at h
    obtain ⟨next, hrow, hrest⟩ := exists_of_bind_ok h
    obtain ⟨hnew, rfl⟩ := insertRow_eq_ok.mp hrow
    rw [ih hrest, getElem?_insert_of_not_mem hnew]
    simp [or_assoc]

/-- Rows are added as long as their names differ. -/
theorem names_of_insertRows (h : rows.foldlM insertRow entries = .ok entries') :
    rows.Pairwise (fun r r' => ¬SameName r.name r'.name) ∧
      ∀ row ∈ rows, row.name.toUpper ∉ entries := by
  induction rows generalizing entries with
  | nil => exact ⟨.nil, by simp⟩
  | cons row rows ih =>
    rw [List.foldlM_cons] at h
    obtain ⟨next, hrow, hrest⟩ := exists_of_bind_ok h
    obtain ⟨hnew, rfl⟩ := insertRow_eq_ok.mp hrow
    obtain ⟨hnames, hothers⟩ := ih hrest
    have hapart {r : CatalogRow} (hr : r ∈ rows) : ¬SameName row.name r.name ∧
        r.name.toUpper ∉ entries := by
      have hout := hothers r hr
      rw [Std.TreeMap.mem_insert, Std.LawfulEqCmp.compare_eq_iff_eq] at hout
      exact ⟨fun hsame => hout (.inl hsame), fun hmem => hout (.inr hmem)⟩
    exact ⟨.cons (fun r hr => (hapart hr).1) hnames,
      List.forall_mem_cons.mpr ⟨hnew, fun r hr => (hapart hr).2⟩⟩

/-! ## Entries of a table -/

/-- The entries are the nodes of the rows, under their names. -/
structure Holds (rows : List CatalogRow) (entries : Std.TreeMap String EntityType) : Prop where
  names : rows.Pairwise fun r r' => ¬SameName r.name r'.name
  getElem? : ∀ key t, entries[key]? = some t ↔
    ∃ row ∈ rows, row.name.toUpper = key ∧ t = .ofRow row

theorem holds_of_insertRows (h : rows.foldlM insertRow {} = .ok entries) : Holds rows entries :=
  ⟨(names_of_insertRows h).1, fun key t => by rw [getElem?_insertRows h]; simp⟩

theorem exists_insertRows (h : rows.Pairwise fun r r' => ¬SameName r.name r'.name) :
    ∃ entries, rows.foldlM insertRow {} = .ok entries :=
  ⟨_, insertRows_eq rfl (List.pairwise_map.mpr h) fun key _ hmem => by simp at hmem⟩

/-- Types under their own names have different names. -/
theorem Keyed.nodup_names (h : Keyed entries) : (entries.values.map (·.name)).Nodup := by
  refine List.Nodup.of_map String.toUpper ?_
  have hkeys : (entries.values.map (·.name)).map String.toUpper = entries.keys := by
    rw [values_eq_map, ← Std.TreeMap.map_fst_toList_eq_keys, List.map_map, List.map_map]
    exact List.map_congr_left fun p hp =>
      h p.1 p.2 (Std.TreeMap.mem_toList_iff_getElem?_eq_some.mp hp)
  rw [hkeys]
  exact Std.TreeMap.nodup_keys

/-- Each type is linked once at most. -/
theorem map_snd_links_sublist (types : List EntityType) :
    ((links types).map Prod.snd).Sublist (types.map (·.name)) := by
  induction types with
  | nil => exact .slnil
  | cons t types ih =>
    rw [links, List.filterMap_cons]
    cases t.parent with
    | none => exact ih.cons _
    | some parent => exact ih.cons_cons _

/-- A check of several things succeeds if it does for each. -/
theorem forM_eq_ok {ε α : Type} {f : α → Except ε Unit} {as : List α} :
    as.forM f = .ok () ↔ ∀ a ∈ as, f a = .ok () := by
  refine ⟨fun h => ?_, forM_ok⟩
  induction as with
  | nil => simp
  | cons a as ih =>
    rw [List.forM] at h
    obtain ⟨u, ha, hrest⟩ := exists_of_bind_ok h
    exact List.forall_mem_cons.mpr ⟨ha, ih hrest⟩

section Holds

variable (h : Holds rows entries)
include h

theorem Holds.keyed : Keyed entries := by
  intro key t ht
  obtain ⟨row, -, hkey, rfl⟩ := (h.getElem? key t).mp ht
  exact hkey

theorem Holds.mem_iff : key ∈ entries ↔ ∃ row ∈ rows, row.name.toUpper = key := by
  rw [Std.TreeMap.mem_iff_isSome_getElem?, Option.isSome_iff_exists]
  simp only [h.getElem?]
  exact ⟨fun ⟨t, row, hrow, hkey, _⟩ => ⟨row, hrow, hkey⟩,
    fun ⟨row, hrow, hkey⟩ => ⟨_, row, hrow, hkey, rfl⟩⟩

theorem Holds.mem_values : t ∈ entries.values ↔ ∃ row ∈ rows, t = .ofRow row := by
  rw [values_eq_map, List.mem_map]
  constructor
  · rintro ⟨⟨key, u⟩, hmem, rfl⟩
    obtain ⟨row, hrow, -, hu⟩ :=
      (h.getElem? key u).mp (Std.TreeMap.mem_toList_iff_getElem?_eq_some.mp hmem)
    exact ⟨row, hrow, hu⟩
  · rintro ⟨row, hrow, rfl⟩
    exact ⟨(row.name.toUpper, .ofRow row), Std.TreeMap.mem_toList_iff_getElem?_eq_some.mpr
      ((h.getElem? _ _).mpr ⟨row, hrow, rfl, rfl⟩), rfl⟩

theorem Holds.mem_links {link : String × String} : link ∈ links entries.values ↔
    ∃ row ∈ rows, ∃ parent, row.parent = some parent ∧ link = (parent.toUpper, row.name) := by
  simp only [links, List.mem_filterMap, h.mem_values, Option.map_eq_some_iff]
  constructor
  · rintro ⟨_, ⟨row, hrow, rfl⟩, parent, hparent, rfl⟩
    exact ⟨row, hrow, parent, hparent, rfl⟩
  · rintro ⟨row, hrow, parent, hparent, rfl⟩
    exact ⟨_, ⟨row, hrow, rfl⟩, parent, hparent, rfl⟩

/-- The links come from rows whose parent is named. -/
theorem Holds.checkParents_iff : checkParents entries (links entries.values) = .ok () ↔
    ∀ row ∈ rows, ∀ parent ∈ row.parent, ∃ r ∈ rows, SameName r.name parent := by
  rw [checkParents, forM_eq_ok]
  constructor
  · intro hall row hrow parent hparent
    have hlink := hall (parent.toUpper, row.name) (h.mem_links.mpr ⟨row, hrow, parent, hparent, rfl⟩)
    exact h.mem_iff.mp (Std.TreeMap.mem_iff_contains.mpr (by simpa using hlink))
  · intro hall link hlink
    obtain ⟨row, hrow, parent, hparent, rfl⟩ := h.mem_links.mp hlink
    have hmem := h.mem_iff.mpr (hall row hrow parent hparent)
    exact if_pos (Std.TreeMap.mem_iff_contains.mp hmem)

theorem Holds.hostIsValid_iff {host : String} : hostIsValid entries host = true ↔
    ∃ r ∈ rows, SameName r.name host ∧ .ifc2x3 ∈ r.dialects := by
  have hdialects (r : CatalogRow) : (EntityType.ofRow r).dialects.supports .ifc2x3 = true ↔
      .ifc2x3 ∈ r.dialects := by
    rw [EntityType.ofRow, DialectSet.ofList, DialectSet.supports_ofPred, List.contains_iff_mem]
  rw [hostIsValid, Option.any_eq_true]
  simp only [h.getElem?]
  constructor
  · rintro ⟨_, ⟨r, hr, hname, rfl⟩, hvalid⟩
    exact ⟨r, hr, hname, (hdialects r).mp hvalid⟩
  · rintro ⟨r, hr, hname, hvalid⟩
    exact ⟨_, ⟨r, hr, hname, rfl⟩, (hdialects r).mpr hvalid⟩

theorem Holds.checkHosts_iff : checkHosts entries entries.values = .ok () ↔
    ∀ row ∈ rows, ∀ host ∈ row.host,
      ∃ r ∈ rows, SameName r.name host ∧ .ifc2x3 ∈ r.dialects := by
  rw [checkHosts, forM_eq_ok]
  simp only [h.mem_values, ← h.hostIsValid_iff]
  constructor
  · intro hall row hrow host hhost
    have hvalid := hall (.ofRow row) ⟨row, hrow, rfl⟩
    rw [show (EntityType.ofRow row).host = some host from hhost] at hvalid
    simpa using hvalid
  · rintro hall _ ⟨row, hrow, rfl⟩
    split
    · rename_i host hhost
      exact if_pos (hall row hrow host hhost)
    · rfl

/-- Children are listed in order, and each once, since types have different names. -/
theorem Holds.pairwise_childrenOf (key : String) :
    (childrenOf (links entries.values) key).Pairwise (· < ·) := by
  have hnodup : ((links entries.values).map Prod.snd).Nodup :=
    h.keyed.nodup_names.sublist (map_snd_links_sublist _)
  have hlisted : (childrenOf (links entries.values) key).Nodup :=
    (List.mergeSort_perm _ _).nodup_iff.mpr (hnodup.sublist (List.filter_sublist.map _))
  exact pairwise_lt_of_le (pairwise_sortedBy id _) hlisted

theorem Holds.mem_childrenOf : name ∈ childrenOf (links entries.values) key ↔
    ∃ r ∈ rows, r.name = name ∧ ∃ parent, r.parent = some parent ∧ parent.toUpper = key := by
  simp only [childrenOf, List.mem_mergeSort, List.mem_map, List.mem_filter, h.mem_links]
  constructor
  · rintro ⟨_, ⟨⟨r, hr, parent, hparent, rfl⟩, hkey⟩, rfl⟩
    exact ⟨r, hr, rfl, parent, hparent, by simpa using hkey⟩
  · rintro ⟨r, hr, rfl, parent, hparent, rfl⟩
    exact ⟨_, ⟨⟨r, hr, parent, hparent, rfl⟩, by simp⟩, rfl⟩

end Holds

theorem NodeOf.of_mem_iff (h : NodeOf rows row t) (hrows : ∀ r, r ∈ rows ↔ r ∈ rows') :
    NodeOf rows' row t :=
  ⟨h.node, h.sorted, fun name => by simp only [h.mem_children, hrows]⟩

/-- What a node says and lists is fixed by the rows. -/
theorem NodeOf.unique (h : NodeOf rows row t) (h' : NodeOf rows row u) : t = u := by
  have hmem (name : String) : name ∈ t.children ↔ name ∈ u.children := by
    rw [h.mem_children, h'.mem_children]
  rw [h.node, h'.node, h.sorted.eq_of_mem_iff h'.sorted hmem]

/-! ## Tables -/

/-- The catalog that entries come to. -/
def ofEntries (entries : Std.TreeMap String EntityType) : Catalog :=
  ⟨entries.map fun key t => { t with children := childrenOf (links entries.values) key }⟩

theorem ofRows_eq_ok : ofRows rows = .ok c ↔ ∃ entries, rows.foldlM insertRow {} = .ok entries ∧
    checkParents entries (links entries.values) = .ok () ∧
    checkHosts entries entries.values = .ok () ∧ c = ofEntries entries := by
  rw [ofRows]
  constructor
  · intro h
    obtain ⟨entries, hentries, h⟩ := exists_of_bind_ok h
    obtain ⟨⟨⟩, hparents, h⟩ := exists_of_bind_ok h
    obtain ⟨⟨⟩, hhosts, h⟩ := exists_of_bind_ok h
    exact ⟨entries, hentries, hparents, hhosts, (Except.ok.inj h).symm⟩
  · rintro ⟨entries, hentries, hparents, hhosts, rfl⟩
    rw [hentries, ok_bind]
    show (checkParents entries (links entries.values) >>= fun _ =>
      checkHosts entries entries.values >>= fun _ => pure _) = _
    rw [hparents, hhosts]
    rfl

/-- A table makes a catalog just when it is well-formed. -/
theorem exists_ofRows_iff : (∃ c, ofRows rows = .ok c) ↔ WellFormed rows := by
  constructor
  · rintro ⟨c, hc⟩
    obtain ⟨entries, hentries, hparents, hhosts, -⟩ := ofRows_eq_ok.mp hc
    have hholds := holds_of_insertRows hentries
    exact ⟨hholds.names, hholds.checkParents_iff.mp hparents, hholds.checkHosts_iff.mp hhosts⟩
  · intro h
    obtain ⟨entries, hentries⟩ := exists_insertRows h.names
    have hholds := holds_of_insertRows hentries
    exact ⟨_, ofRows_eq_ok.mpr ⟨entries, hentries, hholds.checkParents_iff.mpr h.parents,
      hholds.checkHosts_iff.mpr h.hosts, rfl⟩⟩

theorem ofRows_of_isOk (h : (ofRows rows).isOk = true) :
    ofRows rows = .ok ((ofRows rows).toOption.getD default) := by
  cases hrows : ofRows rows with
  | error f =>
    rw [hrows] at h
    cases h
  | ok c => rfl

/-- The node of a row. -/
theorem exists_nodeOf (hc : ofRows rows = .ok c) (row : CatalogRow) : ∃ t, NodeOf rows row t := by
  obtain ⟨entries, hentries, -, -, -⟩ := ofRows_eq_ok.mp hc
  have hholds := holds_of_insertRows hentries
  exact ⟨{ EntityType.ofRow row with
      children := childrenOf (links entries.values) row.name.toUpper },
    rfl, hholds.pairwise_childrenOf _, fun _ => hholds.mem_childrenOf⟩

/-- The types of a catalog are the nodes of its rows, found by their names in any case. -/
theorem find?_eq_some_iff (hc : ofRows rows = .ok c) :
    c.find? name = some t ↔ ∃ row ∈ rows, SameName row.name name ∧ NodeOf rows row t := by
  obtain ⟨entries, hentries, -, -, rfl⟩ := ofRows_eq_ok.mp hc
  have hholds := holds_of_insertRows hentries
  have hnode (r : CatalogRow) : NodeOf rows r { EntityType.ofRow r with
      children := childrenOf (links entries.values) r.name.toUpper } :=
    ⟨rfl, hholds.pairwise_childrenOf _, fun _ => hholds.mem_childrenOf⟩
  rw [find?, ofEntries, Std.TreeMap.getElem?_map, Option.map_eq_some_iff]
  simp only [hholds.getElem?]
  constructor
  · rintro ⟨_, ⟨r, hr, hname, rfl⟩, rfl⟩
    exact ⟨r, hr, hname, hname ▸ hnode r⟩
  · rintro ⟨r, hr, hname, ht⟩
    refine ⟨_, ⟨r, hr, hname, rfl⟩, ?_⟩
    rw [← hname]
    exact (hnode r).unique ht

/-! ## Catalogs of tables -/

theorem find?_of_mem_types (hc : Keyed c.entries) (h : t ∈ c.types) : c.find? t.name = some t := by
  rw [types, values_eq_map] at h
  obtain ⟨⟨key, u⟩, hmem, rfl⟩ := List.mem_map.mp h
  have hget := Std.TreeMap.mem_toList_iff_getElem?_eq_some.mp hmem
  rw [find?, hc key u hget]
  exact hget

theorem getElem?_entries_iff (hc : Keyed c.entries) :
    c.entries[key]? = some t ↔ t.name.toUpper = key ∧ c.find? t.name = some t := by
  constructor
  · intro h
    have hkey := hc key t h
    exact ⟨hkey, by rw [find?, hkey]; exact h⟩
  · rintro ⟨rfl, h⟩
    exact h

/-- There is one type for each row. -/
theorem perm_names (hc : ofRows rows = .ok c) :
    (c.types.map (·.name)).Perm (rows.map (·.name)) := by
  have hkeyed := keyed_of_ofRows hc
  have hdistinct : (rows.map (·.name)).Nodup :=
    List.pairwise_map.mpr ((exists_ofRows_iff.mp ⟨c, hc⟩).names.imp fun hne hsame =>
      hne (congrArg String.toUpper hsame))
  refine (List.perm_ext_iff_of_nodup hkeyed.nodup_names hdistinct).mpr fun name => ?_
  rw [List.mem_map, List.mem_map]
  constructor
  · rintro ⟨t, ht, rfl⟩
    obtain ⟨row, hrow, -, hnode⟩ := (find?_eq_some_iff hc).mp (find?_of_mem_types hkeyed ht)
    exact ⟨row, hrow, hnode.name_eq.symm⟩
  · rintro ⟨row, hrow, rfl⟩
    obtain ⟨t, hnode⟩ := exists_nodeOf hc row
    exact ⟨t, mem_types ((find?_eq_some_iff hc).mpr ⟨row, hrow, .refl _, hnode⟩), hnode.name_eq⟩

theorem WellFormed.perm (h : WellFormed rows) (hperm : rows'.Perm rows) : WellFormed rows' := by
  have hsymm {r r' : CatalogRow} (hne : ¬SameName r.name r'.name) : ¬SameName r'.name r.name :=
    fun hsame => hne hsame.symm
  refine ⟨(hperm.pairwise_iff hsymm).mpr h.names, fun row hrow parent hparent => ?_,
    fun row hrow host hhost => ?_⟩
  · obtain ⟨r, hr, hname⟩ := h.parents row (hperm.subset hrow) parent hparent
    exact ⟨r, hperm.symm.subset hr, hname⟩
  · obtain ⟨r, hr, hname, hdialect⟩ := h.hosts row (hperm.subset hrow) host hhost
    exact ⟨r, hperm.symm.subset hr, hname, hdialect⟩

/-- The order of the rows does not matter. -/
theorem equiv_of_perm (hc : ofRows rows = .ok c) (hc' : ofRows rows' = .ok c')
    (hperm : rows'.Perm rows) : c'.entries.Equiv c.entries := by
  refine .of_forall_constGet?_eq fun key => Option.ext fun t => ?_
  rw [getElem?_entries_iff (keyed_of_ofRows hc), getElem?_entries_iff (keyed_of_ofRows hc'),
    find?_eq_some_iff hc, find?_eq_some_iff hc']
  have hnode (row : CatalogRow) : NodeOf rows' row t ↔ NodeOf rows row t :=
    ⟨fun h => h.of_mem_iff fun r => hperm.mem_iff, fun h => h.of_mem_iff fun r => hperm.symm.mem_iff⟩
  simp only [hperm.mem_iff, hnode]

/-- **A table makes a catalog just when it is well-formed.** The catalog has one type for each row.
The type says what the row says, lists the names of the rows right below it in order and each once,
and is found by its name in any case; nothing else is found. Rows in another order make the same
catalog. -/
theorem tables_make_catalogs (rows : List CatalogRow) :
    ((∃ c, ofRows rows = .ok c) ↔ WellFormed rows) ∧
      ∀ c, ofRows rows = .ok c →
        (c.types.map (·.name)).Perm (rows.map (·.name)) ∧
        (∀ row ∈ rows, ∃ t, NodeOf rows row t ∧
          ∀ name, SameName row.name name → c.find? name = some t) ∧
        (∀ name t, c.find? name = some t → ∃ row ∈ rows, SameName row.name name ∧
          NodeOf rows row t) ∧
        ∀ rows', rows'.Perm rows → ∃ c', ofRows rows' = .ok c' ∧ c'.entries.Equiv c.entries := by
  refine ⟨exists_ofRows_iff, fun c hc => ⟨perm_names hc, fun row hrow => ?_,
    fun name t => (find?_eq_some_iff hc).mp, fun rows' hperm => ?_⟩⟩
  · obtain ⟨t, hnode⟩ := exists_nodeOf hc row
    exact ⟨t, hnode, fun name hname => (find?_eq_some_iff hc).mpr ⟨row, hrow, hname, hnode⟩⟩
  · have hwell := (exists_ofRows_iff.mp ⟨c, hc⟩).perm hperm
    obtain ⟨c', hc'⟩ := exists_ofRows_iff.mpr hwell
    exact ⟨c', hc', equiv_of_perm hc hc' hperm⟩

/-- Terminals before the type that they are below and that stands in for one of them, under names
in other cases. -/
def terminalRows : List CatalogRow :=
  [⟨"IfcSpaceHeater", some "ifcflowterminal", false, none, [.ifc4, .ifc4x3], [], none⟩,
    ⟨"IfcAirTerminal", some "IfcFlowTerminal", false, none, [.ifc4], [], some "IFCFLOWTERMINAL"⟩,
    ⟨"IfcFlowTERMINAL", none, true, some "HvacDomain", Dialect.all, [], none⟩]

theorem catalog_of_terminals : ∃ c t, ofRows terminalRows = .ok c ∧
    c.find? "IFCFlowTerminal" = some t ∧ t.name = "IfcFlowTERMINAL" ∧
    t.children = ["IfcAirTerminal", "IfcSpaceHeater"] := by
  obtain ⟨hloads, hall⟩ := tables_make_catalogs terminalRows
  obtain ⟨c, hc⟩ := hloads.mpr (by decide +kernel)
  obtain ⟨-, hrows, -, -⟩ := hall c hc
  obtain ⟨t, hnode, hfound⟩ := hrows terminalRows[2] (List.getElem_mem _)
  refine ⟨c, t, hc, hfound _ (by decide +kernel), hnode.name_eq, ?_⟩
  refine hnode.sorted.eq_of_mem_iff (by decide +kernel) fun name => ?_
  rw [hnode.mem_children]
  constructor
  · rintro ⟨r, hr, rfl, parent, hparent, -⟩
    simp only [terminalRows, List.mem_cons, List.not_mem_nil, or_false] at hr
    rcases hr with rfl | rfl | rfl
    · exact List.mem_cons_of_mem _ (List.mem_singleton_self _)
    · exact List.mem_cons_self
    · cases hparent
  · intro hname
    simp only [List.mem_cons, List.not_mem_nil, or_false] at hname
    rcases hname with rfl | rfl
    · exact ⟨terminalRows[1], List.getElem_mem _, rfl, _, rfl, by decide +kernel⟩
    · exact ⟨terminalRows[0], List.getElem_mem _, rfl, _, rfl, by decide +kernel⟩

end Eir.Catalog
