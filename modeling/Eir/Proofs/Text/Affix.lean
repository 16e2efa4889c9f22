import Eir.Text.Affix
import Mathlib.Data.List.Infix

/-!
# Affixes of texts

A known beginning or ending is there when the characters say so
(`stripPrefix?_eq_none`, `isSome_stripSuffix?`). Taking a text out at its first
occurrence (`ErasesFirst`) does what `eraseFirst` does, and it is the same as
taking it off the front only when it stands there or nowhere
(`eraseFirst_eq_withoutFront`); else the text gets shorter
(`length_eraseFirst_lt`).
-/

namespace Eir.Text

variable {head tail s : String}

theorem stripPrefix?_eq_none : stripPrefix? head s = none ↔ ¬ head.toList <+: s.toList := by
  rw [stripPrefix?, Option.map_eq_none_iff, ← Option.not_isSome_iff_eq_none,
    List.isSome_isPrefixOf?_eq_isPrefixOf, List.isPrefixOf_iff_prefix]

theorem stripPrefix?_append (head rest : String) : stripPrefix? head (head ++ rest) = some rest := by
  rw [stripPrefix?, List.isPrefixOf?_eq_some_iff_append_eq.mpr (String.toList_append ..).symm,
    Option.map_some, String.ofList_toList]

theorem isSome_stripSuffix? : (stripSuffix? tail s).isSome = true ↔ tail.toList <:+ s.toList := by
  rw [stripSuffix?, Option.isSome_map, List.isSome_isSuffixOf?_eq_isSuffixOf,
    List.isSuffixOf_iff_suffix]

/-- `s` without `head` in front; `s` itself if it does not begin so. -/
def withoutFront (head s : String) : String := (stripPrefix? head s).getD s

/-! ## The first occurrence -/

section FirstOccurrence

variable {mid s t : List Char}

/-- `t` is `s` without the first occurrence of `mid`, or `s` itself if there is none. -/
inductive ErasesFirst (mid : List Char) : List Char → List Char → Prop
  | absent {s : List Char} (hnot : ¬ mid <:+: s) : ErasesFirst mid s s
  | found {l r : List Char}
      (hfirst : ∀ l' r', l ++ mid ++ r = l' ++ mid ++ r' → l.length ≤ l'.length) :
      ErasesFirst mid (l ++ mid ++ r) (l ++ r)

/-- Where a text is cut: around the first occurrence, if there is one. -/
theorem cutAround?_spec (mid cs : List Char) :
    match cutAround? mid cs with
    | none => ¬ mid <:+: cs
    | some (l, r) => cs = l ++ mid ++ r ∧ ∀ l' r', cs = l' ++ mid ++ r' → l.length ≤ l'.length := by
  induction cs with
  | nil =>
    cases mid with
    | nil => exact ⟨rfl, fun _ _ _ => Nat.zero_le _⟩
    | cons m mid => exact fun h => List.cons_ne_nil m mid (List.eq_nil_of_infix_nil h)
  | cons c cs ih =>
    rw [cutAround?]
    cases hfront : List.isPrefixOf? mid (c :: cs) with
    | some rest =>
      exact ⟨(List.isPrefixOf?_eq_some_iff_append_eq.mp hfront).symm, fun _ _ _ => Nat.zero_le _⟩
    | none =>
      have hnot : ¬ mid <+: c :: cs := by
        rintro ⟨rest, h⟩
        rw [List.isPrefixOf?_eq_some_iff_append_eq.mpr h] at hfront
        cases hfront
      cases hcut : cutAround? mid cs with
      | none =>
        rw [hcut] at ih
        rintro h
        rcases List.infix_cons_iff.mp h with h | h
        · exact hnot h
        · exact ih h
      | some cut =>
        obtain ⟨l, r⟩ := cut
        rw [hcut] at ih
        obtain ⟨hcs, hfirst⟩ := ih
        refine ⟨congrArg (c :: ·) hcs, fun l' r' h => ?_⟩
        cases l' with
        | nil => exact absurd ⟨r', h.symm⟩ hnot
        | cons x l' => exact Nat.succ_le_succ (hfirst l' r' (List.cons.inj h).2)

/-- The text stands in front, if it occurs at all. -/
def OnlyInFront (mid s : List Char) : Prop := mid <:+: s → mid <+: s

theorem ErasesFirst.eq_self (h : ErasesFirst mid s t) (hnot : ¬ mid <:+: s) :
    t = s := by
  cases h with
  | absent => rfl
  | @found l r => exact absurd ⟨l, r, rfl⟩ hnot

theorem ErasesFirst.eq_rest {r : List Char} (h : ErasesFirst mid (mid ++ r) t) : t = r := by
  generalize hs : mid ++ r = s at h
  cases h with
  | absent hnot => exact absurd (hs ▸ (List.prefix_append mid r).isInfix) hnot
  | @found l r' hfirst =>
    have hl : l = [] := List.eq_nil_of_length_eq_zero (Nat.le_zero.mp (hfirst [] r hs.symm))
    rw [hl] at hs ⊢
    exact (List.append_cancel_left hs).symm

theorem ErasesFirst.length_lt (h : ErasesFirst mid s t)
    (hnot : ¬ OnlyInFront mid s) : t.length < s.length := by
  cases h with
  | absent hno => exact absurd (fun hin => absurd hin hno) hnot
  | @found l r =>
    have hmid : mid ≠ [] := fun hnil => hnot fun _ => hnil ▸ List.nil_prefix
    have := List.length_pos_iff.mpr hmid
    simp only [List.length_append]
    omega

end FirstOccurrence

theorem erasesFirst_eraseFirst (mid s : String) :
    ErasesFirst mid.toList s.toList (eraseFirst mid s).toList := by
  have hspec := cutAround?_spec mid.toList s.toList
  rw [eraseFirst]
  cases hcut : cutAround? mid.toList s.toList with
  | none =>
    rw [hcut] at hspec
    exact .absent hspec
  | some cut =>
    obtain ⟨l, r⟩ := cut
    rw [hcut] at hspec
    obtain ⟨hs, hfirst⟩ := hspec
    rw [hs] at hfirst ⊢
    rw [String.toList_ofList]
    exact .found hfirst

theorem withoutFront_eq_self (h : ¬ head.toList <+: s.toList) : withoutFront head s = s := by
  rw [withoutFront, stripPrefix?_eq_none.mpr h, Option.getD_none]

theorem eraseFirst_eq_withoutFront (h : OnlyInFront head.toList s.toList) :
    eraseFirst head s = withoutFront head s := by
  have herases := erasesFirst_eraseFirst head s
  apply String.toList_injective
  by_cases hin : head.toList <:+: s.toList
  · obtain ⟨r, hr⟩ := h hin
    obtain rfl : s = head ++ String.ofList r := by
      rw [← String.toList_inj, String.toList_append, String.toList_ofList, hr]
    rw [withoutFront, stripPrefix?_append, Option.getD_some]
    rw [String.toList_append] at herases
    exact herases.eq_rest
  · rw [withoutFront_eq_self fun hfront => hin hfront.isInfix]
    exact herases.eq_self hin

theorem length_eraseFirst_lt (h : ¬ OnlyInFront head.toList s.toList) :
    (eraseFirst head s).toList.length < (withoutFront head s).toList.length := by
  rw [withoutFront_eq_self fun hfront => h fun _ => hfront]
  exact (erasesFirst_eraseFirst head s).length_lt h

example : eraseFirst "Space " "Every Space Has" = "Every Has" := by decide

end Eir.Text
