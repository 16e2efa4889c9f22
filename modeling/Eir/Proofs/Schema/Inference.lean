import Eir.Proofs.Text.Casing
import Eir.Schema.Selection

/-!
# The dialects of a rule

A rule is valid in the supported dialects that have all types it selects, each as
such or as the type of its type object (`Common`). These are what is inferred, in
order, and the target where no selected type is known or no dialect has them all
(`inferDialects_cases`). So the dialects come from the types and not from how they
are named.
-/

namespace Eir

/-- A list of dialects that a rule can have: some dialects, in order and each once. -/
structure Dialect.Listed (ds : List Dialect) : Prop where
  ne_nil : ds ≠ []
  sublist : ds.Sublist Dialect.all

namespace DialectSet

variable {s t : DialectSet} {d : Dialect}

theorem toList_congr (h : ∀ d, s.supports d = true ↔ t.supports d = true) :
    s.toList = t.toList :=
  List.filter_congr fun d _ => Bool.eq_iff_iff.mpr (h d)

theorem supports_foldl_inter {sets : List DialectSet} :
    (sets.foldl inter s).supports d = true ↔
      ∀ u ∈ s :: sets, u.supports d = true := by
  induction sets generalizing s with
  | nil => simp
  | cons u sets ih =>
    rw [List.foldl_cons, ih]
    simp [inter, and_assoc]

end DialectSet

namespace Catalog

variable {c : Catalog} {supported : DialectSet} {target d : Dialect} {g g' : FacetGroup}
  {t : EntityType} {name name' : String}

/-- The type is one of those selected. -/
def Selected (c : Catalog) (g : FacetGroup) (t : EntityType) : Prop :=
  ∃ name ∈ g.entityNames, c.find? name = some t

/-- The dialect has the type, or its type object. -/
def OccursIn (c : Catalog) (t : EntityType) (d : Dialect) : Prop :=
  t.dialects.supports d = true ∨
    ∃ u, c.find? (t.upperName ++ "TYPE") = some u ∧ u.dialects.supports d = true

/-- The dialect is supported and has all selected types that are known. -/
def Common (c : Catalog) (supported : DialectSet) (g : FacetGroup) (d : Dialect) : Prop :=
  supported.supports d = true ∧ ∀ t, c.Selected g t → c.OccursIn t d

/-- A known type that one selects is named by the other too, in whatever case. -/
def KnownIn (c : Catalog) (g g' : FacetGroup) : Prop :=
  ∀ name ∈ g.entityNames, c.find? name ≠ none → ∃ name' ∈ g'.entityNames, SameName name name'

/-! ## What types have in common -/

theorem isUsableIn_iff : c.isUsableIn t d = true ↔ c.OccursIn t d := by
  rw [isUsableIn, Bool.or_eq_true, SchemaView.find?, Option.isSome_filter, Option.any_eq_true]
  simp [OccursIn, view, SchemaView.includes]

theorem supports_usableDialects : (c.usableDialects supported t).supports d = true ↔
    supported.supports d = true ∧ c.OccursIn t d := by
  rw [usableDialects, DialectSet.supports_ofPred, Bool.and_eq_true, isUsableIn_iff]

/-- The dialects of each known type that is selected. -/
def selectedDialects (c : Catalog) (supported : DialectSet) (g : FacetGroup) : List DialectSet :=
  (g.entityNames.filterMap c.find?).map (c.usableDialects supported)

theorem mem_selectedDialects {s : DialectSet} : s ∈ c.selectedDialects supported g ↔
    ∃ t, c.Selected g t ∧ c.usableDialects supported t = s := by
  simp only [selectedDialects, List.mem_map, List.mem_filterMap, Selected]

/-- Where some known type is selected, the sets meet in the dialects that all of them have. -/
theorem supports_meet {s : DialectSet} {sets : List DialectSet}
    (h : c.selectedDialects supported g = s :: sets) :
    (sets.foldl .inter s).supports d = true ↔ c.Common supported g d := by
  rw [DialectSet.supports_foldl_inter, ← h]
  simp only [mem_selectedDialects]
  constructor
  · intro hall
    have htype (t : EntityType) (ht : c.Selected g t) :=
      supports_usableDialects.mp (hall _ ⟨t, ht, rfl⟩)
    obtain ⟨first, hfirst, -⟩ := mem_selectedDialects.mp (h ▸ List.mem_cons_self)
    exact ⟨(htype first hfirst).1, fun t ht => (htype t ht).2⟩
  · rintro ⟨hsupported, hall⟩ _ ⟨t, ht, rfl⟩
    exact supports_usableDialects.mpr ⟨hsupported, hall t ht⟩

theorem inferDialects_nil (h : c.selectedDialects supported g = []) :
    c.inferDialects supported target g = [target] := by
  rw [selectedDialects] at h
  simp only [inferDialects, h]
  rfl

theorem inferDialects_cons {s : DialectSet} {sets : List DialectSet}
    (h : c.selectedDialects supported g = s :: sets) :
    c.inferDialects supported target g =
      if (sets.foldl .inter s).toList = [] then [target] else (sets.foldl .inter s).toList := by
  rw [selectedDialects] at h
  simp only [inferDialects, h]
  split
  · rename_i hnone
    rw [if_pos hnone]
  · rename_i hne
    rw [if_neg hne]

/-- What is inferred are the dialects that the selected types have in common, or the target. -/
theorem inferDialects_cases (c : Catalog) (supported : DialectSet) (target : Dialect)
    (g : FacetGroup) :
    (∃ common : DialectSet, (∀ d, common.supports d = true ↔ c.Common supported g d) ∧
      (∃ t, c.Selected g t) ∧ (∃ d, c.Common supported g d) ∧
      c.inferDialects supported target g = common.toList) ∨
    (¬((∃ t, c.Selected g t) ∧ ∃ d, c.Common supported g d)) ∧
      c.inferDialects supported target g = [target] := by
  cases hsets : c.selectedDialects supported g with
  | nil =>
    refine .inr ⟨?_, inferDialects_nil hsets⟩
    rintro ⟨⟨t, ht⟩, -⟩
    have hmem : c.usableDialects supported t ∈ c.selectedDialects supported g :=
      mem_selectedDialects.mpr ⟨t, ht, rfl⟩
    rw [hsets] at hmem
    cases hmem
  | cons s sets =>
    have hmeet {d : Dialect} : d ∈ (sets.foldl .inter s).toList ↔ c.Common supported g d :=
      DialectSet.mem_toList.trans (supports_meet hsets)
    obtain ⟨t, ht, -⟩ := mem_selectedDialects.mp (hsets ▸ List.mem_cons_self)
    rw [inferDialects_cons hsets]
    split
    · rename_i hnone
      refine .inr ⟨?_, rfl⟩
      rintro ⟨-, d, hd⟩
      exact List.ne_nil_of_mem (hmeet.mpr hd) hnone
    · rename_i hsome
      obtain ⟨d, hd⟩ := List.exists_mem_of_ne_nil _ hsome
      exact .inl ⟨_, fun d => supports_meet hsets, ⟨t, ht⟩, ⟨d, hmeet.mp hd⟩, rfl⟩

/-! ## What is inferred -/

theorem listed_inferDialects (c : Catalog) (supported : DialectSet) (target : Dialect)
    (g : FacetGroup) : Dialect.Listed (c.inferDialects supported target g) := by
  rcases c.inferDialects_cases supported target g with ⟨common, hcommon, -, ⟨d, hd⟩, heq⟩ | ⟨-, heq⟩
  · rw [heq]
    exact ⟨List.ne_nil_of_mem (DialectSet.mem_toList.mpr ((hcommon d).mpr hd)),
      List.filter_sublist⟩
  · rw [heq]
    refine ⟨List.cons_ne_nil _ _, List.singleton_sublist.mpr ?_⟩
    cases target <;> decide

theorem mem_inferDialects (hknown : ∃ t, c.Selected g t) (hcommon : ∃ d, c.Common supported g d) :
    d ∈ c.inferDialects supported target g ↔ c.Common supported g d := by
  rcases c.inferDialects_cases supported target g with ⟨common, hsupports, -, -, heq⟩ | ⟨hnot, -⟩
  · rw [heq, DialectSet.mem_toList, hsupports]
  · exact absurd ⟨hknown, hcommon⟩ hnot

theorem inferDialects_eq_target (h : (∃ t, c.Selected g t) → ¬∃ d, c.Common supported g d) :
    c.inferDialects supported target g = [target] := by
  rcases c.inferDialects_cases supported target g with ⟨-, -, hknown, hcommon, -⟩ | ⟨-, heq⟩
  · exact absurd hcommon (h hknown)
  · exact heq

/-! ## How types are named -/

theorem find?_congr (h : SameName name name') : c.find? name = c.find? name' := by
  rw [find?, find?, h]

theorem KnownIn.selected (h : c.KnownIn g g') (ht : c.Selected g t) : c.Selected g' t := by
  obtain ⟨name, hname, hfound⟩ := ht
  obtain ⟨name', hname', hsame⟩ := h name hname (by simp [hfound])
  exact ⟨name', hname', find?_congr hsame ▸ hfound⟩

/-- More selected types have fewer dialects in common. -/
theorem KnownIn.common (h : c.KnownIn g g') (hd : c.Common supported g' d) :
    c.Common supported g d := ⟨hd.1, fun t ht => hd.2 t (h.selected ht)⟩

/-- What is inferred does not depend on how the known types are named. -/
theorem inferDialects_congr (h : c.KnownIn g g') (h' : c.KnownIn g' g) :
    c.inferDialects supported target g = c.inferDialects supported target g' := by
  have hselected (t : EntityType) : c.Selected g t ↔ c.Selected g' t := ⟨h.selected, h'.selected⟩
  have hcommon (d : Dialect) : c.Common supported g d ↔ c.Common supported g' d :=
    ⟨h'.common, h.common⟩
  rcases c.inferDialects_cases supported target g with ⟨common, hsupports, hknown, hsome, heq⟩ |
    ⟨hnot, heq⟩
  · rcases c.inferDialects_cases supported target g' with ⟨common', hsupports', -, -, heq'⟩ |
      ⟨hnot', -⟩
    · rw [heq, heq']
      exact DialectSet.toList_congr fun d => by rw [hsupports, hsupports', hcommon]
    · simp only [← hselected, ← hcommon] at hnot'
      exact absurd ⟨hknown, hsome⟩ hnot'
  · simp only [hselected, hcommon] at hnot
    rw [heq, inferDialects_eq_target fun hknown hsome => hnot ⟨hknown, hsome⟩]

end Catalog

end Eir
