import Eir.Proofs.Consolidation.Pieces

/-!
# Consolidation loses nothing and doubles nothing

An `Account` of a consolidated list says for each specification in it which
originals it is made of: one that was left as it was, or the mergeable members
of a class, for which it stands. The originals of all of them together are the
list that was consolidated, each original once. Every class with at least two
mergeable members has one replacement, and no other original is touched.
-/

namespace Eir.Consolidation

/-- What a piece makes of its originals: one alone stays as it is, several are replaced. -/
def Piece.Makes : Piece → Specification → Prop
  | kept p, s => s = p.1
  | merged cs, s => s.Replaces (cs.map Prod.fst)

/-- The pieces account for a consolidation of `specs` into `out` with `count` replacements. -/
structure Account (specs : List Specification) (pieces : List Piece) (count : Nat)
    (out : List Specification) : Prop where
  makes : List.Forall₂ Piece.Makes pieces out
  /-- Together the pieces are made of all originals, and of each of them once. -/
  exhaustive : (pieces.flatMap Piece.originals).Perm specs.zipIdx
  /-- A replacement stands where the first of its constituents stood. -/
  inOrder : (pieces.filterMap fun a => a.originals.head?).Sublist specs.zipIdx
  /-- Constituents are the mergeable members of one class, at least two. -/
  constituents : ∀ cs, .merged cs ∈ pieces →
    2 ≤ cs.length ∧ ∃ key, cs = members specs key
  replaced : ∀ key, 2 ≤ (members specs key).length →
    pieces.count (.merged (members specs key)) = 1
  counted : count = (classes specs).card

theorem makes_of_gives {a : Piece} {s : Specification} (h : a.Gives s) : a.Makes s := by
  cases a with
  | kept p => exact h
  | merged cs => exact Specification.replaces_of_mergeAll h

theorem account_consolidate (specs : List Specification) :
    Account specs (pieces specs) (consolidate specs).1 (consolidate specs).2 where
  makes := (gives_consolidate specs).imp fun _ _ => makes_of_gives
  exhaustive := perm_originals specs
  inOrder := heads_sublist specs
  constituents cs h := by
    obtain ⟨key, hk, rfl⟩ := merged_mem_pieces.mp h
    exact ⟨mem_classes.mp hk, key, rfl⟩
  replaced key h := List.count_eq_one_of_mem (nodup_pieces specs)
    (merged_mem_pieces.mpr ⟨key, mem_classes.mpr h, rfl⟩)
  counted := fst_consolidate specs

theorem exists_placed {specs : List Specification} {s : Specification} (hs : s ∈ specs) :
    ∃ p ∈ specs.zipIdx, p.1 = s := by
  rw [← List.zipIdx_map_fst 0 specs] at hs
  exact List.mem_map.mp hs

theorem exists_makes {ps : List Piece} {out : List Specification} {a : Piece}
    (h : List.Forall₂ Piece.Makes ps out) (ha : a ∈ ps) : ∃ t ∈ out, a.Makes t := by
  induction h with
  | nil => cases ha
  | cons hmakes _ ih =>
    rcases List.mem_cons.mp ha with rfl | ha
    · exact ⟨_, List.mem_cons_self, hmakes⟩
    · obtain ⟨t, ht, hmakes⟩ := ih ha
      exact ⟨t, List.mem_cons_of_mem _ ht, hmakes⟩

/-- A specification is still there, or it is a constituent of one that is. -/
theorem mem_or_replaced {specs : List Specification} {s : Specification} (hs : s ∈ specs) :
    s ∈ (consolidate specs).2 ∨
      ∃ t ∈ (consolidate specs).2, ∃ cs, 2 ≤ cs.length ∧ cs ⊆ specs ∧ t.Replaces cs ∧ s ∈ cs := by
  have account := account_consolidate specs
  obtain ⟨p, hp, rfl⟩ := exists_placed hs
  obtain ⟨a, ha, hmem⟩ := List.mem_flatMap.mp (account.exhaustive.mem_iff.mpr hp)
  obtain ⟨t, ht, hmakes⟩ := exists_makes account.makes ha
  cases a with
  | kept q =>
    left
    obtain rfl := List.mem_singleton.mp hmem
    rwa [← show t = p.1 from hmakes]
  | merged cs =>
    right
    obtain ⟨hlength, key, rfl⟩ := account.constituents cs ha
    refine ⟨t, ht, _, by rwa [List.length_map], fun x hx => ?_, hmakes, List.mem_map_of_mem hmem⟩
    obtain ⟨q, hq, rfl⟩ := List.mem_map.mp hx
    exact List.fst_mem_of_mem_zipIdx (mem_members.mp hq).1

/-- The original is in the result, unchanged and once, and in no replacement. -/
def Stays (ps : List Piece) (p : Placed) : Prop :=
  ps.count (.kept p) = 1 ∧ ∀ cs, .merged cs ∈ ps → p ∉ cs

/-- The original is a constituent of one replacement, and is not in the result itself. -/
def IsReplaced (ps : List Piece) (p : Placed) : Prop :=
  .kept p ∉ ps ∧ ∃! cs, .merged cs ∈ ps ∧ p ∈ cs

variable {specs : List Specification} {p : Placed}

theorem stays_pieces (hp : p ∈ specs.zipIdx) (h : ¬ Merges specs p) :
    Stays (pieces specs) p := by
  refine ⟨List.count_eq_one_of_mem (nodup_pieces specs) (kept_mem_pieces.mpr ⟨hp, h⟩), ?_⟩
  intro cs hcs hmem
  obtain ⟨key, hk, rfl⟩ := merged_mem_pieces.mp hcs
  exact h (merges_of_mem_members hk hmem)

theorem isReplaced_pieces (hp : p ∈ specs.zipIdx) (h : Merges specs p) :
    IsReplaced (pieces specs) p := by
  refine ⟨fun hkept => (kept_mem_pieces.mp hkept).2 h, members specs p.1.selection, ?_, ?_⟩
  · exact ⟨merged_mem_pieces.mpr ⟨_, h.2, rfl⟩, mem_members.mpr ⟨hp, h.1, rfl⟩⟩
  · rintro cs ⟨hcs, hmem⟩
    obtain ⟨key, -, rfl⟩ := merged_mem_pieces.mp hcs
    rw [(mem_members.mp hmem).2.2]

/-- **Consolidation loses nothing and doubles nothing.** The consolidated group has an account;
in it an original stays if it demands nothing or is the only one of its class that demands
something, and else it is replaced. -/
theorem consolidated_accounts_for_all (g : SpecGroup) :
    ∃ ps, Account g.specifications ps g.consolidated.1 g.consolidated.2.specifications ∧
      g.consolidated.2.metadata = g.metadata ∧
      ∀ p ∈ g.specifications.zipIdx,
        if p.1.isMergeable = true ∧ 2 ≤ (members g.specifications p.1.selection).length
        then IsReplaced ps p
        else Stays ps p := by
  refine ⟨pieces g.specifications, account_consolidate g.specifications, rfl, fun p hp => ?_⟩
  split
  · rename_i h
    exact isReplaced_pieces hp ⟨h.1, mem_classes.mpr h.2⟩
  · rename_i h
    exact stays_pieces hp fun hm => h ⟨hm.1, mem_classes.mp hm.2⟩

end Eir.Consolidation
