import Eir.Proofs.Consolidation.Pieces
import Eir.Proofs.Lists

/-!
# Consolidating in another order, and again

Up to its own order, what comes of a list is made of the specifications that stay
and of one replacement for each class with at least two members that demand
something (`perm_consolidate`). Neither depends on the order of the list: a
replacement takes its constituents in the order of their identifiers, and there
is only one such order when these are distinct (`mergeAll_of_perm`).

A list is settled when no two of its specifications that demand something are
alike. Consolidation leaves a settled list as it is (`consolidate_of_settled`),
and what it gives is settled (`settled_consolidate`): a replacement selects what
its constituents select, so it is in their class, but they are gone.
-/

namespace Eir

namespace Specification

variable {cs ds : List Specification}

theorem mergeAll_of_perm (h : cs.Perm ds) (hdistinct : (ds.map (·.identifier)).Nodup) :
    mergeAll cs = mergeAll ds := by
  rw [mergeAll_eq, mergeAll_eq, sorted_of_perm h hdistinct]

end Specification

namespace Consolidation

variable {specs specs' : List Specification} {key : Class}

/-! ## What a list comes to -/

/-- What takes the place of the members of a class. -/
def replacement? (specs : List Specification) (key : Class) : Option Specification :=
  Specification.mergeAll (alike specs key)

/-- The specifications that stay as they are. -/
def kept (specs : List Specification) : List Specification :=
  specs.filter fun s => decide (¬ (s.isMergeable = true ∧ s.selection ∈ classes specs))

theorem map_fst_kept (specs : List Specification) :
    (specs.zipIdx.filter fun p => decide (¬ Merges specs p)).map Prod.fst = kept specs := by
  conv_rhs => rw [kept, ← List.zipIdx_map_fst 0 specs, List.filter_map]
  simp only [List.zipIdx_map_fst]
  rfl

/-- The pieces are the originals that stay and the classes that are replaced. -/
theorem perm_pieces (specs : List Specification) :
    (pieces specs).Perm
      ((specs.zipIdx.filter fun p => decide (¬ Merges specs p)).map .kept ++
        (classes specs).toList.map fun key => .merged (members specs key)) := by
  refine (List.perm_ext_iff_of_nodup (nodup_pieces specs) ?_).mpr fun a => ?_
  · refine List.nodup_append.mpr ⟨?_, ?_, ?_⟩
    · exact ((nodup_zipIdx specs).filter _).map fun _ _ => Piece.kept.inj
    · exact (Finset.nodup_toList _).map_on fun key hk key' hk' h =>
        injOn_members specs (Finset.mem_toList.mp hk) (Finset.mem_toList.mp hk')
          (Piece.merged.inj h)
    · rintro a ha b hb rfl
      obtain ⟨p, -, rfl⟩ := List.mem_map.mp ha
      obtain ⟨key, -, h⟩ := List.mem_map.mp hb
      cases h
  · cases a with
    | kept p => simp [kept_mem_pieces]
    | merged cs =>
      simp only [merged_mem_pieces, List.mem_append, List.mem_map, Finset.mem_toList,
        reduceCtorEq, and_false, exists_false, false_or, Piece.merged.injEq, eq_comm (a := cs)]

/-- A list comes to the specifications that stay and one replacement for each class. -/
theorem perm_consolidate (specs : List Specification) :
    (consolidate specs).2.Perm
      (kept specs ++ (classes specs).toList.filterMap (replacement? specs)) := by
  have hperm := (perm_pieces specs).filterMap Piece.result?
  rw [filterMap_pieces, List.filterMap_append, List.filterMap_map, List.filterMap_map] at hperm
  have hkept : (specs.zipIdx.filter fun p => decide (¬ Merges specs p)).filterMap
      (Piece.result? ∘ Piece.kept) = kept specs := by
    rw [← map_fst_kept, show Piece.result? ∘ Piece.kept = some ∘ Prod.fst from rfl,
      List.filterMap_eq_map]
  have hreplaced : (Piece.result? ∘ fun key => Piece.merged (members specs key)) =
      replacement? specs := by
    funext key
    exact congrArg Specification.mergeAll (map_fst_members specs key)
  rwa [hkept, hreplaced] at hperm

/-! ## What does not depend on the order -/

theorem alike_perm (h : specs.Perm specs') (key : Class) :
    (alike specs key).Perm (alike specs' key) := h.filter _

theorem classes_eq_of_perm (h : specs.Perm specs') : classes specs = classes specs' := by
  ext key
  rw [mem_classes_iff, mem_classes_iff, (alike_perm h key).length_eq]

theorem kept_perm (h : specs.Perm specs') : (kept specs).Perm (kept specs') := by
  rw [kept, kept, classes_eq_of_perm h]
  exact h.filter _

theorem replacement?_eq_of_perm (h : specs.Perm specs')
    (hdistinct : (specs'.map (·.identifier)).Nodup) (key : Class) :
    replacement? specs key = replacement? specs' key :=
  Specification.mergeAll_of_perm (alike_perm h key)
    (hdistinct.sublist (List.filter_sublist.map _))

/-- A class with at least two members that demand something has its replacement in the outcome. -/
theorem exists_replacement (hkey : key ∈ classes specs) :
    ∃ s ∈ (consolidate specs).2, replacement? specs key = some s := by
  have hne : alike specs key ≠ [] := by
    intro hnil
    have := mem_classes_iff.mp hkey
    rw [hnil, List.length_nil] at this
    omega
  obtain ⟨s, hs⟩ := Specification.exists_mergeAll hne
  refine ⟨s, (perm_consolidate specs).mem_iff.mpr (List.mem_append_right _ ?_), hs⟩
  exact List.mem_filterMap.mpr ⟨key, Finset.mem_toList.mpr hkey, hs⟩

/-- **The order of the rules does not show in what they are consolidated to.** When identifiers are
distinct, groups with the same specifications in different orders have equally many replacements,
and come to the same specifications: those that stay, and for each class the same replacement. -/
theorem consolidated_of_perm {g h : SpecGroup} (hperm : h.specifications.Perm g.specifications)
    (hdistinct : (g.specifications.map (·.identifier)).Nodup) :
    h.consolidated.1 = g.consolidated.1 ∧
      h.consolidated.2.specifications.Perm g.consolidated.2.specifications ∧
      (kept h.specifications).Perm (kept g.specifications) ∧
      ∀ key ∈ classes g.specifications, ∃ s ∈ h.consolidated.2.specifications,
        s ∈ g.consolidated.2.specifications ∧
          replacement? h.specifications key = some s ∧
          replacement? g.specifications key = some s := by
  have hclasses := classes_eq_of_perm hperm
  have hreplacement := replacement?_eq_of_perm hperm hdistinct
  have hout : h.consolidated.2.specifications.Perm g.consolidated.2.specifications := by
    refine (perm_consolidate h.specifications).trans
      (List.Perm.trans ?_ (perm_consolidate g.specifications).symm)
    rw [hclasses, funext hreplacement]
    exact (kept_perm hperm).append_right _
  refine ⟨?_, hout, kept_perm hperm, fun key hkey => ?_⟩
  · exact (fst_consolidate _).trans (hclasses ▸ (fst_consolidate _).symm)
  · obtain ⟨s, hs, hresult⟩ := exists_replacement hkey
    exact ⟨s, hout.mem_iff.mpr hs, hs, (hreplacement key).trans hresult, hresult⟩

/-- A rule that spaces have a value. -/
def spaceRule (identifier demanded : String) : Specification :=
  { (default : Specification) with
    identifier
    applicability := ⟨"Space", "", [.entity (.exact "IFCSPACE") none], []⟩
    requirement := ⟨"Space", "", [.attr demanded none], []⟩ }

/-- The presence of spaces, and two rules on them. -/
def spaceRules : SpecGroup :=
  ⟨.named "Spaces", [{ spaceRule "05_01" "Name" with requirement := .empty "Space" "" },
    spaceRule "05_02" "Name", spaceRule "05_03" "Description"]⟩

theorem consolidated_of_spaceRules :
    spaceRules.specifications.reverse.Perm spaceRules.specifications ∧
      (spaceRules.specifications.map (·.identifier)).Nodup ∧
      (consolidate spaceRules.specifications.reverse).2.Perm spaceRules.consolidated.2.specifications ∧
      ∃ s ∈ (consolidate spaceRules.specifications.reverse).2,
        s ∈ spaceRules.consolidated.2.specifications ∧
          replacement? spaceRules.specifications (spaceRule "05_02" "Name").selection = some s := by
  have hperm := List.reverse_perm spaceRules.specifications
  have hdistinct : (spaceRules.specifications.map (·.identifier)).Nodup := by decide
  have hkey : (spaceRule "05_02" "Name").selection ∈ classes spaceRules.specifications :=
    mem_classes_of_ne (p := (spaceRule "05_02" "Name", 1))
      (q := (spaceRule "05_03" "Description", 2))
      (mem_members.mpr ⟨by simp [spaceRules], rfl, rfl⟩)
      (mem_members.mpr ⟨by simp [spaceRules], rfl, rfl⟩) (by simp)
  obtain ⟨-, hout, -, hreplaced⟩ := consolidated_of_perm
    (h := { spaceRules with specifications := spaceRules.specifications.reverse }) hperm hdistinct
  obtain ⟨s, hs, hs', -, hresult⟩ := hreplaced _ hkey
  exact ⟨hperm, hdistinct, hout, s, hs, hs', hresult⟩

/-! ## Settled lists stay as they are -/

/-- No two specifications that demand something are alike. -/
def Settled (specs : List Specification) : Prop :=
  specs.Pairwise fun s t => s.isMergeable = true → t.isMergeable = true → s.selection ≠ t.selection

theorem Settled.not_mem_classes (h : Settled specs) (key : Class) : key ∉ classes specs := by
  rw [mem_classes_iff]
  intro hlength
  have halike : (alike specs key).Pairwise fun s t =>
      s.isMergeable = true → t.isMergeable = true → s.selection ≠ t.selection := h.filter _
  have hmem : ∀ s ∈ alike specs key, s.isMergeable = true ∧ s.selection = key := by
    simp [alike]
  obtain ⟨hsm, hsk⟩ := hmem _ (List.getElem_mem (show 0 < (alike specs key).length by omega))
  obtain ⟨htm, htk⟩ := hmem _ (List.getElem_mem (show 1 < (alike specs key).length by omega))
  exact List.pairwise_iff_getElem.mp halike 0 1 _ _ Nat.zero_lt_one hsm htm (hsk.trans htk.symm)

theorem Settled.pieces_eq (h : Settled specs) : pieces specs = specs.zipIdx.map .kept := by
  have hkept : pieceAt specs = some ∘ Piece.kept := by
    funext p
    exact pieceAt_of_not_merges fun hp => h.not_mem_classes _ hp.2
  rw [pieces, hkept, List.filterMap_eq_map]

theorem consolidate_of_settled (h : Settled specs) : consolidate specs = (0, specs) := by
  refine Prod.ext ?_ ?_
  · rw [fst_consolidate, Finset.card_eq_zero]
    exact Finset.eq_empty_of_forall_notMem h.not_mem_classes
  · rw [← filterMap_pieces, h.pieces_eq, List.filterMap_map,
      show Piece.result? ∘ Piece.kept = some ∘ Prod.fst from rfl, List.filterMap_eq_map]
    exact List.zipIdx_map_fst 0 specs

/-! ## Consolidated lists are settled -/

variable {a : Piece} {s : Specification}

/-- A merged specification is alike those that it was merged from. -/
theorem selection_of_replaces {cs : List Specification} (h : s.Replaces cs)
    (hcs : ∀ c ∈ cs, c.selection = key) : s.selection = key := by
  obtain ⟨c, hc, happlicability, hcardinality⟩ := h.selects
  rw [← hcs c hc, Specification.selection, Specification.selection, happlicability, hcardinality]

/-- What demands something is the replacement of its class, or the only member of it. -/
theorem piece_of_isMergeable (ha : a ∈ pieces specs) (hs : a.Gives s) (hm : s.isMergeable = true) :
    (s.selection ∈ classes specs ∧ a = .merged (members specs s.selection)) ∨
      (s.selection ∉ classes specs ∧ ∃ p ∈ members specs s.selection, a = .kept p) := by
  cases a with
  | kept p =>
    obtain rfl : s = p.1 := hs
    obtain ⟨hp, hstays⟩ := kept_mem_pieces.mp ha
    exact .inr ⟨fun hk => hstays ⟨hm, hk⟩, p, mem_members.mpr ⟨hp, hm, rfl⟩, rfl⟩
  | merged cs =>
    obtain ⟨key, hk, rfl⟩ := merged_mem_pieces.mp ha
    have hselection : s.selection = key := by
      refine selection_of_replaces (Specification.replaces_of_mergeAll hs) fun c hc => ?_
      obtain ⟨p, hp, rfl⟩ := List.mem_map.mp hc
      exact (mem_members.mp hp).2.2
    rw [hselection]
    exact .inl ⟨hk, rfl⟩

theorem settled_consolidate (specs : List Specification) : Settled (consolidate specs).2 := by
  refine pairwise_of_forall₂ (gives_consolidate specs) (nodup_pieces specs) ?_
  intro a ha b hb s t hne hs ht hsm htm hsame
  rcases piece_of_isMergeable ha hs hsm with ⟨hk, rfl⟩ | ⟨hk, p, hp, rfl⟩ <;>
    rcases piece_of_isMergeable hb ht htm with ⟨hk', rfl⟩ | ⟨hk', q, hq, rfl⟩
  · exact hne (by rw [hsame])
  · exact hk' (hsame ▸ hk)
  · exact hk (hsame ▸ hk')
  · exact hk (mem_classes_of_ne hp (hsame ▸ hq) fun hpq => hne (hpq ▸ rfl))

/-- **Consolidating twice is consolidating once.** The second time nothing is merged. -/
theorem consolidated_consolidated (g : SpecGroup) :
    g.consolidated.2.consolidated = (0, g.consolidated.2) := by
  have h : consolidate g.consolidated.2.specifications = (0, g.consolidated.2.specifications) :=
    consolidate_of_settled (settled_consolidate g.specifications)
  rw [SpecGroup.consolidated, h]

end Consolidation

end Eir
