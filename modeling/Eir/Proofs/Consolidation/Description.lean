import Eir.Proofs.Consolidation.Account
import Eir.Proofs.Lists
import Eir.Proofs.Text.Affix
import Eir.Proofs.Text.Delimited
import Mathlib.Algebra.Order.BigOperators.Group.List

/-!
# What a merged specification says of its constituents

A merged description opens with the label of the first constituent, and goes on
with the descriptions of all of them. Each is abridged: the opening is taken out
where it first occurs (`abridges_mergeAll`). So a description is kept word for
word, but for the opening in front of it, just when the opening does not occur
further inside a description (`recounts_iff`). A label in the midst of a
description is lost (`label_inside_is_lost`).
-/

namespace Eir

namespace Specification

/-- What a merged description opens with when `first` is the first constituent. -/
def opening (first : Specification) : String := first.applicability.name ++ " "

/-- The description of `s` goes through those of `cs`, in the order of their identifiers: of each
it has every word, less the opening in front of it. -/
def Recounts (s : Specification) (cs : List Specification) : Prop :=
  ∃ first rest, sorted cs = first :: rest ∧ s.description = first.opening ++
    ", and ".intercalate ((first :: rest).map fun c => Text.withoutFront first.opening c.description)

/-- The description of `s` goes through those of `cs`, in the order of their identifiers: from each
the first occurrence of the opening is taken out, wherever it stands. -/
def Abridges (s : Specification) (cs : List Specification) : Prop :=
  ∃ first rest texts, sorted cs = first :: rest ∧
    List.Forall₂ (fun c text => Text.ErasesFirst first.opening.toList c.description.toList
      (String.toList text)) (first :: rest) texts ∧
    s.description = first.opening ++ ", and ".intercalate texts

/-- The opening stands in front of a description, if it occurs in it. -/
def LabelsInFront (cs : List Specification) : Prop :=
  ∀ first ∈ (sorted cs).head?, ∀ c ∈ cs,
    Text.OnlyInFront first.opening.toList c.description.toList

variable {first s : Specification} {rest cs : List Specification}

theorem description_merge (first : Specification) (rest : List Specification) :
    (merge first rest).description = first.opening ++ ", and ".intercalate
      ((first :: rest).map fun c => Text.eraseFirst first.opening c.description) := rfl

theorem abridges_mergeAll (h : mergeAll cs = some s) : s.Abridges cs := by
  obtain ⟨first, rest, hsorted, rfl⟩ := exists_of_mergeAll h
  refine ⟨first, rest, _, hsorted, ?_, description_merge first rest⟩
  exact List.forall₂_map_right_iff.mpr <| List.forall₂_same.mpr fun c _ =>
    Text.erasesFirst_eraseFirst first.opening c.description

/-- Taking the opening out where it first occurs takes it off the front of all descriptions, or
leaves less of them. -/
theorem intercalate_eq_iff (opening : String) (cs : List Specification) :
    ", and ".intercalate (cs.map fun c => Text.eraseFirst opening c.description) =
        ", and ".intercalate (cs.map fun c => Text.withoutFront opening c.description) ↔
      ∀ c ∈ cs, Text.OnlyInFront opening.toList c.description.toList := by
  constructor
  · intro h c hc
    by_contra hnot
    have hle : ∀ c ∈ cs, (Text.eraseFirst opening c.description).toList.length ≤
        (Text.withoutFront opening c.description).toList.length := by
      intro c _
      by_cases hfront : Text.OnlyInFront opening.toList c.description.toList
      · rw [Text.eraseFirst_eq_withoutFront hfront]
      · exact Nat.le_of_lt (Text.length_eraseFirst_lt hfront)
    have hlt := List.sum_lt_sum _ _ hle ⟨c, hc, Text.length_eraseFirst_lt hnot⟩
    have hlength := congrArg (fun text : String => text.toList.length) h
    simp only [Text.toList_intercalate_map, Text.length_joinedText] at hlength
    omega
  · intro h
    rw [List.map_congr_left fun c hc => Text.eraseFirst_eq_withoutFront (h c hc)]

/-- A merged description has every word of its constituents' just when none of them has the
opening further inside. -/
theorem recounts_iff (h : mergeAll cs = some s) : s.Recounts cs ↔ LabelsInFront cs := by
  obtain ⟨first, rest, hsorted, rfl⟩ := exists_of_mergeAll h
  have hmem : ∀ c, c ∈ first :: rest ↔ c ∈ cs := fun c => hsorted ▸ (perm_sorted cs).mem_iff
  have hfront : LabelsInFront cs ↔ ∀ c ∈ first :: rest,
      Text.OnlyInFront first.opening.toList c.description.toList := by
    simp only [LabelsInFront, hsorted, List.head?_cons, Option.mem_some_iff, forall_eq', hmem]
  rw [hfront, ← intercalate_eq_iff, ← String.append_right_inj first.opening]
  constructor
  · rintro ⟨first', rest', hsorted', h⟩
    rw [hsorted] at hsorted'
    cases hsorted'
    exact h
  · exact fun h => ⟨first, rest, hsorted, h⟩

end Specification

namespace Consolidation

open Specification

/-- **Merged descriptions keep every word just when labels stand in front.** Each replacement
abridges its constituents, and recounts them when no description has the opening further inside. -/
theorem replacements_recount_iff (g : SpecGroup) :
    ∃ ps, Account g.specifications ps g.consolidated.1 g.consolidated.2.specifications ∧
      List.Forall₂ (fun a s => ∀ cs, a = .merged cs →
        s.Abridges (cs.map Prod.fst) ∧
          (s.Recounts (cs.map Prod.fst) ↔ LabelsInFront (cs.map Prod.fst)))
        ps g.consolidated.2.specifications := by
  refine ⟨pieces g.specifications, account_consolidate g.specifications, ?_⟩
  refine (gives_consolidate g.specifications).imp fun a s hgives cs ha => ?_
  subst ha
  exact ⟨abridges_mergeAll hgives, recounts_iff hgives⟩

/-- A rule that spaces have a name, under a title of its own. -/
def titledRule (identifier title : String) : Specification :=
  { (default : Specification) with
    identifier
    description := title
    applicability := ⟨"Space", "", [.entity (.exact "IFCSPACE") none], []⟩
    requirement := ⟨"Space", "", [.attr "Name" none], []⟩ }

/-- Two rules on spaces. The title of the second does not begin with the label. -/
def titledRules : SpecGroup :=
  ⟨.named "Spaces", [titledRule "01" "Space Should Have Name Defined",
    titledRule "02" "Every Space Should Have Name Defined"]⟩

/-- A label in the midst of a description is lost when the rule is merged. -/
theorem label_inside_is_lost :
    ¬ ∀ (g : SpecGroup) (ps : List Piece),
      Account g.specifications ps g.consolidated.1 g.consolidated.2.specifications →
        List.Forall₂ (fun a s => ∀ cs, a = .merged cs → s.Recounts (cs.map Prod.fst))
          ps g.consolidated.2.specifications := by
  intro h
  have hrecounts := h titledRules _ (account_consolidate _)
  let p : Placed := (titledRule "01" "Space Should Have Name Defined", 0)
  let q : Placed := (titledRule "02" "Every Space Should Have Name Defined", 1)
  have hp : p ∈ members titledRules.specifications p.1.selection :=
    mem_members.mpr ⟨List.mem_cons_self, rfl, rfl⟩
  have hq : q ∈ members titledRules.specifications p.1.selection :=
    mem_members.mpr ⟨List.mem_cons_of_mem _ List.mem_cons_self, rfl, rfl⟩
  have hmerged := merged_mem_pieces.mpr ⟨_, mem_classes_of_ne hp hq (by simp [p, q]), rfl⟩
  obtain ⟨s, -, hs, hgives⟩ := exists_of_mem_left
    (forall₂_and hrecounts (gives_consolidate titledRules.specifications)) hmerged
  have hfront := (recounts_iff hgives).mp (hs _ rfl)
  obtain ⟨first, rest, hsorted, -⟩ := hs _ rfl
  -- Whichever of the two comes first, the label is the same.
  have hfirst : first.opening = "Space " := by
    have hmem := (perm_sorted _).subset (hsorted ▸ List.mem_cons_self : first ∈ sorted _)
    obtain ⟨r, hr, rfl⟩ := List.mem_map.mp hmem
    have hr' := List.fst_mem_of_mem_zipIdx (mem_members.mp hr).1
    simp only [titledRules, List.mem_cons, List.not_mem_nil, or_false] at hr'
    rcases hr' with h | h <;> rw [h] <;> rfl
  have hq' := hfront first (by rw [hsorted]; rfl) q.1 (List.mem_map_of_mem hq)
  rw [hfirst] at hq'
  exact absurd (hq' (by decide)) (by decide)

end Consolidation

end Eir
