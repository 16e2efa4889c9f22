import Eir.Consolidation
import Eir.FacetGroup
import Eir.Proofs.Lists
import Mathlib.Data.List.Nodup
import Mathlib.Data.List.Perm.Basic

/-!
# What a merged specification is

`entries` pairs each facet of a group with its cardinality, and a missing option counts
as `expected` (`mem_entries_iff`). A group is `Aligned` when it has no more options
than facets; then `push` adds one entry behind the others, and `pushUnique` adds none
that is there. A group filled by `pushUnique` alone has each of the given entries once
(`mem_entries_pushAll`, `nodup_entries_pushAll`).

`s.Replaces cs` says what `s` keeps of the specifications `cs`: their
identifiers in order, the dialects of any of them and the demands of all of
them, each once. `mergeAll` gives such a specification unless it is given none
(`replaces_of_mergeAll`, `exists_mergeAll`). It takes the specifications in the
order of their identifiers, and there is only one when these are distinct
(`sorted_of_perm`).
-/

namespace Eir

/-! ## Entries -/

namespace FacetGroup

/-- No option stands beyond the last facet. -/
def Aligned (g : FacetGroup) : Prop := g.options.length ≤ g.facets.length

theorem getElem?_pairUp (fs : List Facet) : ∀ (cs : List RequirementCardinality) (i : Nat),
    (pairUp fs cs)[i]? = fs[i]?.map fun f => (f, (cs[i]?).getD .expected) := by
  induction fs with
  | nil => intro cs i; simp [pairUp]
  | cons f fs ih =>
    intro cs i
    cases cs <;> cases i <;> simp [pairUp, ih]

/-- The entries are the facets, each with the cardinality given for its position. -/
theorem mem_entries_iff {g : FacetGroup} {f : Facet} {c : RequirementCardinality} :
    (f, c) ∈ g.entries ↔ ∃ i, g.facets[i]? = some f ∧ g.optionAt i = c := by
  rw [List.mem_iff_getElem?]
  refine exists_congr fun i => ?_
  rw [entries, getElem?_pairUp, Option.map_eq_some_iff]
  constructor
  · rintro ⟨f', hf, he⟩
    cases he
    exact ⟨hf, rfl⟩
  · rintro ⟨hf, rfl⟩
    exact ⟨f, hf, rfl⟩

theorem pairUp_push (f : Facet) (c : RequirementCardinality) (fs : List Facet) :
    ∀ cs : List RequirementCardinality, cs.length ≤ fs.length →
      pairUp (fs ++ [f]) (cs ++ List.replicate (fs.length - cs.length) .expected ++ [c]) =
        pairUp fs cs ++ [(f, c)] := by
  induction fs with
  | nil =>
    intro cs h
    have : cs = [] := by simpa using h
    subst this
    rfl
  | cons f' fs ih =>
    intro cs h
    cases cs with
    | nil =>
      have := ih [] (Nat.zero_le _)
      simp only [List.nil_append, List.length_nil, Nat.sub_zero] at this
      simp [pairUp, List.replicate_succ, this]
    | cons c' cs =>
      have := ih cs (by simpa using h)
      simpa [pairUp] using this

theorem Aligned.push {g : FacetGroup} (h : g.Aligned) (f : Facet) (c : RequirementCardinality) :
    (g.push f c).Aligned := by
  simp only [Aligned, FacetGroup.push, List.length_append, List.length_replicate,
    List.length_singleton] at h ⊢
  omega

theorem entries_push {g : FacetGroup} (h : g.Aligned) (f : Facet) (c : RequirementCardinality) :
    (g.push f c).entries = g.entries ++ [(f, c)] :=
  pairUp_push f c g.facets g.options h

theorem Aligned.pushUnique {g : FacetGroup} (h : g.Aligned) (f : Facet)
    (c : RequirementCardinality) : (g.pushUnique f c).Aligned := by
  unfold FacetGroup.pushUnique
  split
  · exact h
  · exact h.push f c

theorem entries_pushUnique {g : FacetGroup} (h : g.Aligned) (f : Facet)
    (c : RequirementCardinality) :
    (g.pushUnique f c).entries =
      if (f, c) ∈ g.entries then g.entries else g.entries ++ [(f, c)] := by
  unfold FacetGroup.pushUnique
  split
  · rfl
  · exact entries_push h f c

theorem aligned_empty (name description : String) : (empty name description).Aligned :=
  Nat.le_refl _

/-! ## Groups filled one entry at a time -/

/-- Appends the entries that the group does not have yet. -/
def pushAll (g : FacetGroup) (es : List (Facet × RequirementCardinality)) : FacetGroup :=
  es.foldl (fun g (f, c) => g.pushUnique f c) g

theorem mem_entries_pushAll {g : FacetGroup} (h : g.Aligned)
    {es : List (Facet × RequirementCardinality)} {e : Facet × RequirementCardinality} :
    e ∈ (g.pushAll es).entries ↔ e ∈ g.entries ∨ e ∈ es := by
  induction es generalizing g with
  | nil => simp [pushAll]
  | cons d es ih =>
    have hd := ih (h.pushUnique d.1 d.2)
    rw [entries_pushUnique h] at hd
    refine hd.trans ?_
    split
    · rename_i hmem
      constructor
      · rintro (hg | hes)
        · exact .inl hg
        · exact .inr (List.mem_cons_of_mem _ hes)
      · rintro (hg | hes)
        · exact .inl hg
        · rcases List.mem_cons.mp hes with rfl | hes
          · exact .inl hmem
          · exact .inr hes
    · simp [or_assoc]

theorem nodup_entries_pushAll {g : FacetGroup} (h : g.Aligned) (hg : g.entries.Nodup)
    (es : List (Facet × RequirementCardinality)) : (g.pushAll es).entries.Nodup := by
  induction es generalizing g with
  | nil => exact hg
  | cons d es ih =>
    refine ih (h.pushUnique d.1 d.2) ?_
    rw [entries_pushUnique h]
    split
    · exact hg
    · rename_i hd
      exact List.nodup_append.mpr ⟨hg, List.nodup_singleton _, fun a ha b hb hab => by
        rw [List.mem_singleton] at hb
        exact hd (hb ▸ hab ▸ ha)⟩

end FacetGroup

/-! ## Merged specifications -/

namespace Specification

/-- `s` stands for the specifications `cs`. -/
structure Replaces (s : Specification) (cs : List Specification) : Prop where
  /-- The identifiers are joined in order. -/
  identifier : ∃ ids : List String, ids.Perm (cs.map (·.identifier)) ∧ ids.Pairwise (· ≤ ·) ∧
    s.identifier = ",".intercalate ids
  /-- The dialects stand in order, each once. -/
  dialects_sublist : s.dialects.Sublist Dialect.all
  mem_dialects : ∀ d, d ∈ s.dialects ↔ ∃ c ∈ cs, d ∈ c.dialects
  nodup_entries : s.requirement.entries.Nodup
  /-- What is demanded; a facet without an option is expected. -/
  mem_entries : ∀ f card, (f, card) ∈ s.requirement.entries ↔
    ∃ c ∈ cs, ∃ i, c.requirement.facets[i]? = some f ∧ c.requirement.optionAt i = card
  /-- What is selected is what one of them selects. -/
  selects : ∃ c ∈ cs, s.applicability = c.applicability ∧ s.cardinality = c.cardinality

/-- Specifications in the order of their identifiers. -/
def sorted (cs : List Specification) : List Specification :=
  cs.mergeSort fun s t => decide (s.identifier ≤ t.identifier)

theorem perm_sorted (cs : List Specification) : (sorted cs).Perm cs := List.mergeSort_perm _ _

theorem pairwise_sorted (cs : List Specification) :
    ((sorted cs).map (·.identifier)).Pairwise (· ≤ ·) := by
  rw [List.pairwise_map]
  exact pairwise_sortedBy (·.identifier) cs

/-- Distinct identifiers leave one way to sort. -/
theorem sorted_of_perm {cs ds : List Specification} (h : cs.Perm ds)
    (hdistinct : (ds.map (·.identifier)).Nodup) : sorted cs = sorted ds := by
  have hperm : (sorted cs).Perm (sorted ds) :=
    (perm_sorted cs).trans (h.trans (perm_sorted ds).symm)
  refine hperm.eq_of_pairwise (fun s t hs ht hst hts => ?_)
    (List.pairwise_map.mp (pairwise_sorted cs)) (List.pairwise_map.mp (pairwise_sorted ds))
  have hs' : s ∈ ds := (perm_sorted ds).subset (hperm.subset hs)
  have ht' : t ∈ ds := (perm_sorted ds).subset ht
  exact List.inj_on_of_nodup_map hdistinct hs' ht' (String.le_antisymm hst hts)

theorem mergeAll_eq (cs : List Specification) :
    mergeAll cs = match sorted cs with
      | [] => none
      | first :: rest => some (merge first rest) := rfl

theorem exists_of_mergeAll {cs : List Specification} {s : Specification}
    (h : mergeAll cs = some s) : ∃ first rest, sorted cs = first :: rest ∧ s = merge first rest := by
  rw [mergeAll_eq] at h
  split at h
  · cases h
  · rename_i first rest hsorted
    exact ⟨first, rest, hsorted, (Option.some.inj h).symm⟩

/-- The demands of a merged specification are gathered one at a time. -/
theorem entries_merge (first : Specification) (rest : List Specification) :
    ∃ label description, (merge first rest).requirement =
      (FacetGroup.empty label description).pushAll
        ((first :: rest).flatMap fun s => s.requirement.entries) := ⟨_, _, rfl⟩

theorem mem_dialects_merge (first : Specification) (rest : List Specification) (d : Dialect) :
    d ∈ (merge first rest).dialects ↔ ∃ c ∈ first :: rest, d ∈ c.dialects := by
  rw [show (merge first rest).dialects =
    (DialectSet.ofList ((first :: rest).flatMap (·.dialects))).toList from rfl,
    DialectSet.mem_toList, DialectSet.ofList, DialectSet.supports_ofPred, List.contains_iff_mem,
    List.mem_flatMap]

/-- A merged specification stands for those it was merged from, in whatever order they came. -/
theorem replaces_merge {first : Specification} {rest cs : List Specification}
    (h : sorted cs = first :: rest) : (merge first rest).Replaces cs := by
  have hp : (first :: rest).Perm cs := h ▸ perm_sorted cs
  obtain ⟨label, description, he⟩ := entries_merge first rest
  have haligned := FacetGroup.aligned_empty label description
  refine ⟨⟨(first :: rest).map (·.identifier), hp.map _, ?_, rfl⟩, List.filter_sublist, fun d => ?_,
    ?_, fun f card => ?_, ⟨first, hp.subset List.mem_cons_self, rfl, rfl⟩⟩
  · exact h ▸ pairwise_sorted cs
  · rw [mem_dialects_merge]
    simp only [hp.mem_iff]
  · rw [he]
    exact FacetGroup.nodup_entries_pushAll haligned List.nodup_nil _
  · rw [he, FacetGroup.mem_entries_pushAll haligned, List.mem_flatMap]
    simp only [hp.mem_iff, FacetGroup.mem_entries_iff]
    constructor
    · rintro (⟨i, hi, -⟩ | hc)
      · simp [FacetGroup.empty] at hi
      · exact hc
    · exact .inr

theorem replaces_of_mergeAll {cs : List Specification} {s : Specification}
    (h : mergeAll cs = some s) : s.Replaces cs := by
  obtain ⟨first, rest, hsorted, rfl⟩ := exists_of_mergeAll h
  exact replaces_merge hsorted

theorem exists_mergeAll {cs : List Specification} (h : cs ≠ []) : ∃ s, mergeAll cs = some s := by
  rw [mergeAll_eq]
  split
  · rename_i hs
    exact absurd (hs ▸ perm_sorted cs).nil_eq.symm h
  · exact ⟨_, rfl⟩

end Specification

end Eir
