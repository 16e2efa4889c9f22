import Eir.Proofs.Consolidation.Account
import Eir.Proofs.FacetGroup.Rendering

/-!
# What merged specifications select

Specifications are merged when their applicability has the same text. Texts tell
plain applicabilities apart, so what is merged then selects the same objects
(`faithful_iff`). A value that holds the signs of a list is not plain: two lists
of values with one text are merged although they differ
(`lists_of_one_text_are_merged`).
-/

namespace Eir

/-- The specifications test the same facets with the same options. -/
def Specification.SameObjects (s t : Specification) : Prop :=
  s.applicability.facets = t.applicability.facets ∧
    s.applicability.options = t.applicability.options

namespace Consolidation

open Specification

/-- Only specifications that select the same objects are merged. -/
def Faithful (ps : List Piece) : Prop :=
  ∀ cs, .merged cs ∈ ps → ∀ p ∈ cs, ∀ q ∈ cs, SameObjects p.1 q.1

variable {specs : List Specification} {p q : Placed}

/-- Two originals of one class are merged if both of them demand something. -/
theorem exists_merged (hp : p ∈ specs.zipIdx) (hq : q ∈ specs.zipIdx) (hne : p ≠ q)
    (hpm : p.1.isMergeable = true) (hqm : q.1.isMergeable = true)
    (h : p.1.selection = q.1.selection) :
    ∃ cs, .merged cs ∈ pieces specs ∧ p ∈ cs ∧ q ∈ cs := by
  have hpmem : p ∈ members specs q.1.selection := mem_members.mpr ⟨hp, hpm, h⟩
  have hqmem : q ∈ members specs q.1.selection := mem_members.mpr ⟨hq, hqm, rfl⟩
  exact ⟨_, merged_mem_pieces.mpr ⟨_, mem_classes_of_ne hpmem hqmem hne, rfl⟩, hpmem, hqmem⟩

theorem sameObjects_of_plain {s t : Specification} (hs : s.applicability.Plain)
    (ht : t.applicability.Plain) (h : s.selection = t.selection) : SameObjects s t :=
  ⟨FacetGroup.facets_eq_of_decode_eq hs ht (congrArg Prod.fst h), hs.options.trans ht.options.symm⟩

theorem faithful_pieces (h : ∀ s ∈ specs, ∀ t ∈ specs, s.isMergeable = true →
    t.isMergeable = true → s.selection = t.selection → SameObjects s t) :
    Faithful (pieces specs) := by
  intro cs hcs p hp q hq
  obtain ⟨key, -, rfl⟩ := merged_mem_pieces.mp hcs
  obtain ⟨hps, hpm, hpk⟩ := mem_members.mp hp
  obtain ⟨hqs, hqm, hqk⟩ := mem_members.mp hq
  exact h p.1 (List.fst_mem_of_mem_zipIdx hps) q.1 (List.fst_mem_of_mem_zipIdx hqs) hpm hqm
    (hpk.trans hqk.symm)

/-- **Merged specifications select the same objects** just when the text of an applicability
gives its facets and options, among the specifications of the group that demand something. It
does if their applicabilities are plain. -/
theorem faithful_iff (g : SpecGroup) :
    ∃ ps, Account g.specifications ps g.consolidated.1 g.consolidated.2.specifications ∧
      (Faithful ps ↔ ∀ s ∈ g.specifications, ∀ t ∈ g.specifications, s.isMergeable = true →
        t.isMergeable = true → s.applicability.decode = t.applicability.decode →
          s.cardinality = t.cardinality → SameObjects s t) ∧
      ((∀ s ∈ g.specifications, s.isMergeable = true → s.applicability.Plain) → Faithful ps) := by
  refine ⟨pieces g.specifications, account_consolidate g.specifications, ⟨?_, ?_⟩, ?_⟩
  · intro hfaithful s hs t ht hsm htm hdecode hcard
    obtain ⟨p, hp, rfl⟩ := exists_placed hs
    obtain ⟨q, hq, rfl⟩ := exists_placed ht
    by_cases hpq : p = q
    · rw [hpq]
      exact ⟨rfl, rfl⟩
    · obtain ⟨cs, hcs, hpcs, hqcs⟩ :=
        exists_merged hp hq hpq hsm htm (Prod.ext hdecode hcard)
      exact hfaithful cs hcs p hpcs q hqcs
  · intro h
    exact faithful_pieces fun s hs t ht hsm htm hsel =>
      h s hs t ht hsm htm (congrArg Prod.fst hsel) (congrArg Prod.snd hsel)
  · intro hplain
    exact faithful_pieces fun s hs t ht hsm htm hsel =>
      sameObjects_of_plain (hplain s hs hsm) (hplain t ht htm) hsel

/-- A rule on the objects with one of the names. -/
def ruleOnNames (identifier : String) (names : List String) : Specification :=
  { (default : Specification) with
    identifier
    applicability := ⟨"Space", "", [.attr "Name" (some (.list names))], []⟩
    requirement := ⟨"Space", "", [.attr "Description" none], []⟩ }

/-- Rules on different names: one name with signs of a list in it, and two names. -/
def rulesOfOneText : SpecGroup :=
  ⟨.named "Spaces", [ruleOnNames "01" ["A','B"], ruleOnNames "02" ["A", "B"]]⟩

/-- The text of a list does not keep where a value ends, so different lists can be merged. -/
theorem lists_of_one_text_are_merged :
    ¬ ∀ (g : SpecGroup) (ps : List Piece),
      Account g.specifications ps g.consolidated.1 g.consolidated.2.specifications →
        Faithful ps := by
  intro h
  have hfaithful := h rulesOfOneText _ (account_consolidate _)
  have hp : (ruleOnNames "01" ["A','B"], 0) ∈ rulesOfOneText.specifications.zipIdx := by
    simp [rulesOfOneText]
  have hq : (ruleOnNames "02" ["A", "B"], 1) ∈ rulesOfOneText.specifications.zipIdx := by
    simp [rulesOfOneText]
  have hselection :
      (ruleOnNames "01" ["A','B"]).selection = (ruleOnNames "02" ["A", "B"]).selection := by
    simp [selection, ruleOnNames, FacetGroup.decode, Facet.describe_attr, Facet.optionalPart,
      Constraint.short, Constraint.quote]
  obtain ⟨cs, hcs, hpcs, hqcs⟩ := exists_merged hp hq (by simp) rfl rfl hselection
  have hsame := hfaithful cs hcs _ hpcs _ hqcs
  simp [SameObjects, ruleOnNames] at hsame

end Consolidation

end Eir
