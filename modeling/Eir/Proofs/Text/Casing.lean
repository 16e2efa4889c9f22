import Mathlib.Tactic.SplitIfs

/-!
# Upper and lower case

Only the letters `a` to `z` have another case. Two texts have one form in upper
case just when they have one in lower case (`sameName_iff_toLower`), so it does
not matter which of the two names are compared in.
-/

namespace Eir

/-! ## Characters -/

theorem toNat_toUpper (c : Char) :
    c.toUpper.toNat = if 97 ≤ c.toNat ∧ c.toNat ≤ 122 then c.toNat - 32 else c.toNat := by
  unfold Char.toUpper
  split
  · rename_i h
    have hsmall : 97 ≤ c.toNat ∧ c.toNat ≤ 122 := h
    have hval : c.val.toNat = c.toNat := rfl
    have hshift : ('A'.val - 'a'.val).toNat = 2 ^ 32 - 32 := by decide
    rw [if_pos hsmall]
    show (c.val + ('A'.val - 'a'.val)).toNat = c.toNat - 32
    rw [UInt32.toNat_add, hshift, hval]
    omega
  · rename_i h
    exact (if_neg (show ¬(97 ≤ c.toNat ∧ c.toNat ≤ 122) from h)).symm

theorem toNat_toLower (c : Char) :
    c.toLower.toNat = if 65 ≤ c.toNat ∧ c.toNat ≤ 90 then c.toNat + 32 else c.toNat := by
  unfold Char.toLower
  split
  · rename_i h
    have hcapital : 65 ≤ c.toNat ∧ c.toNat ≤ 90 := h
    have hval : c.val.toNat = c.toNat := rfl
    have hshift : ('a'.val - 'A'.val).toNat = 32 := by decide
    rw [if_pos hcapital]
    show (c.val + ('a'.val - 'A'.val)).toNat = c.toNat + 32
    rw [UInt32.toNat_add, hshift, hval]
    omega
  · rename_i h
    exact (if_neg (show ¬(65 ≤ c.toNat ∧ c.toNat ≤ 90) from h)).symm

theorem toUpper_char_toUpper (c : Char) : c.toUpper.toUpper = c.toUpper := by
  rw [← Char.toNat_inj]
  simp only [toNat_toUpper]
  split_ifs <;> omega

theorem toLower_char_toUpper (c : Char) : c.toUpper.toLower = c.toLower := by
  rw [← Char.toNat_inj]
  simp only [toNat_toUpper, toNat_toLower]
  split_ifs <;> omega

theorem toUpper_char_toLower (c : Char) : c.toLower.toUpper = c.toUpper := by
  rw [← Char.toNat_inj]
  simp only [toNat_toUpper, toNat_toLower]
  split_ifs <;> omega

/-! ## Texts -/

theorem toUpper_toUpper (s : String) : s.toUpper.toUpper = s.toUpper := by
  unfold String.toUpper
  rw [String.map_map]
  exact congrArg (String.map · s) (funext toUpper_char_toUpper)

theorem toLower_toUpper (s : String) : s.toUpper.toLower = s.toLower := by
  unfold String.toUpper String.toLower
  rw [String.map_map]
  exact congrArg (String.map · s) (funext toLower_char_toUpper)

theorem toUpper_toLower (s : String) : s.toLower.toUpper = s.toUpper := by
  unfold String.toUpper String.toLower
  rw [String.map_map]
  exact congrArg (String.map · s) (funext toUpper_char_toLower)

/-! ## Names -/

/-- The names are one name, written in any case. -/
def SameName (a b : String) : Prop := a.toUpper = b.toUpper

theorem sameName_iff_map {a b : String} :
    SameName a b ↔ a.toList.map Char.toUpper = b.toList.map Char.toUpper := by
  rw [SameName, String.toUpper, String.toUpper, ← String.toList_inj, String.toList_map,
    String.toList_map]

instance (a b : String) : Decidable (SameName a b) := decidable_of_iff _ sameName_iff_map.symm

theorem SameName.refl (a : String) : SameName a a := rfl

theorem SameName.symm {a b : String} (h : SameName a b) : SameName b a := Eq.symm h

theorem SameName.trans {a b c : String} (h : SameName a b) (h' : SameName b c) : SameName a c :=
  Eq.trans h h'

theorem sameName_iff_toLower {a b : String} : SameName a b ↔ a.toLower = b.toLower := by
  constructor
  · intro h
    rw [← toLower_toUpper a, ← toLower_toUpper b]
    exact congrArg String.toLower h
  · intro h
    have hupper := congrArg String.toUpper h
    rwa [toUpper_toLower, toUpper_toLower] at hupper

end Eir
