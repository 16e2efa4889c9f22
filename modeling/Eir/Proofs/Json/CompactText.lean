import Eir.Json.Printer
import Eir.Proofs.Text.Delimited

/-!
# Different values have different texts

The text of a value on one line says which value it is (`compact_injective`), and
also where it ends when it stands in front of others: a number at the first
character that is no digit, a text at its closing quotation mark, and an array or an
object at its bracket (`compact_cancel`). What kind of value it is can be told by its
first character (`Shape.ofFirst?`).
-/

namespace Eir.Json

open Text

variable {r s : List Char}

/-! ## Texts in quotes -/

/-- The characters that are written with a backslash, by their numbers. -/
def escapedNumbers : List Nat := List.range 32 ++ [34, 92]

/-- A character stands for itself, or is written with a backslash. -/
theorem escapeChar_cases (c : Char) :
    (escapeChar c = [c] ∧ c ≠ '"' ∧ c ≠ '\\') ∨
      (c.toNat ∈ escapedNumbers ∧ ∃ code, escapeChar c = '\\' :: code) := by
  have hlow (h : c.toNat < 32) : c.toNat ∈ escapedNumbers :=
    List.mem_append_left _ (List.mem_range.mpr h)
  by_cases hlisted : c = '"' ∨ c = '\\' ∨ c = '\n' ∨ c = '\r' ∨ c = '\t'
  · right
    rcases hlisted with rfl | rfl | rfl | rfl | rfl <;> exact ⟨by decide, _, rfl⟩
  · simp only [not_or] at hlisted
    obtain ⟨hquote, hslash, hline, hreturn, htab⟩ := hlisted
    rw [escapeChar, if_neg hquote, if_neg hslash, if_neg hline, if_neg hreturn, if_neg htab]
    split
    · exact .inr ⟨hlow (by omega), _, rfl⟩
    · split
      · exact .inr ⟨hlow (by omega), _, rfl⟩
      · split
        · exact .inr ⟨hlow ‹_›, _, rfl⟩
        · exact .inl ⟨rfl, hquote, hslash⟩

/-- No character with a backslash is written like the beginning of another one. -/
theorem escaped_prefix_free : ∀ m ∈ escapedNumbers, ∀ n ∈ escapedNumbers,
    escapeChar (.ofNat m) <+: escapeChar (.ofNat n) → m = n := by
  decide +kernel

theorem eq_of_prefix_escapeChar {c d : Char} (h : escapeChar c <+: escapeChar d) : c = d := by
  rcases escapeChar_cases c with ⟨hc, -, hcslash⟩ | ⟨hcmem, code, hc⟩ <;>
    rcases escapeChar_cases d with ⟨hd, -, hdslash⟩ | ⟨hdmem, code', hd⟩
  · rw [hc, hd, List.cons_prefix_cons] at h
    exact h.1
  · rw [hc, hd, List.cons_prefix_cons] at h
    exact absurd h.1 hcslash
  · rw [hc, hd, List.cons_prefix_cons] at h
    exact absurd h.1.symm hdslash
  · rw [← Char.ofNat_toNat c, ← Char.ofNat_toNat d] at h
    exact Char.toNat_inj.mp (escaped_prefix_free _ hcmem _ hdmem h)

theorem escapeChar_cancel {c d : Char} (h : escapeChar c ++ r = escapeChar d ++ s) :
    c = d ∧ r = s := by
  have hcd : c = d := by
    rcases List.append_eq_append_iff.mp h with ⟨rest, hrest, -⟩ | ⟨rest, hrest, -⟩
    · exact eq_of_prefix_escapeChar ⟨rest, hrest.symm⟩
    · exact (eq_of_prefix_escapeChar ⟨rest, hrest.symm⟩).symm
  subst hcd
  exact ⟨rfl, List.append_cancel_left h⟩

theorem not_escapeChar_prefix_quote (c : Char) : ¬ escapeChar c <+: '"' :: r := by
  intro h
  rcases escapeChar_cases c with ⟨hc, hquote, -⟩ | ⟨-, code, hc⟩
  · rw [hc, List.cons_prefix_cons] at h
    exact hquote h.1
  · rw [hc, List.cons_prefix_cons] at h
    exact absurd h.1 (by decide)

theorem toList_quoted (t : String) :
    (quoted t).toList = '"' :: (t.toList.flatMap escapeChar ++ ['"']) := by
  rw [quoted, String.toList_ofList]
  rfl

theorem quoted_cancel {t u : String} (h : (quoted t).toList ++ r = (quoted u).toList ++ s) :
    t = u ∧ r = s := by
  rw [toList_quoted, toList_quoted] at h
  simp only [List.cons_append, List.append_assoc, List.nil_append] at h
  obtain ⟨htu, hrest⟩ := flatMap_cancel (fun c _ d _ _ _ => escapeChar_cancel)
    (fun d _ => not_escapeChar_prefix_quote d) (fun c _ => not_escapeChar_prefix_quote c)
    (List.cons.inj h).2
  exact ⟨String.toList_inj.mp htu, (List.cons.inj hrest).2⟩

/-! ## Numbers -/

/-- What follows a value: nothing, or no digit. -/
def Follows (cs : List Char) : Prop := StopsAt (fun c => ¬ c.isDigit = true) cs

theorem follows_comma (cs : List Char) : Follows ([','] ++ cs) :=
  stopsAt_cons (p := fun c => ¬ c.isDigit = true) (by decide)

theorem number_ofNat (n : Nat) : number (.ofNat n) = decimal n := rfl

theorem number_negSucc (n : Nat) : number (.negSucc n) = "-" ++ decimal (n + 1) := rfl

/-- The decimal digits of a number begin with a digit. -/
theorem exists_decimal_cons (n : Nat) : ∃ c cs, (decimal n).toList = c :: cs ∧ c.isDigit = true := by
  cases hdigits : (decimal n).toList with
  | nil =>
    rw [toList_decimal] at hdigits
    exact absurd hdigits Nat.toDigits_ne_nil
  | cons c cs =>
    exact ⟨c, cs, rfl, isDigit_of_mem_decimal (n := n) (by rw [hdigits]; exact List.mem_cons_self)⟩

theorem number_cancel {m n : Int} (hr : Follows r) (hs : Follows s)
    (h : (number m).toList ++ r = (number n).toList ++ s) : m = n ∧ r = s := by
  -- One of them is negative and the other is not.
  have hmixed {m n : Nat} {r s : List Char} :
      (decimal m).toList ++ r ≠ '-' :: ((decimal n).toList ++ s) := by
    obtain ⟨c, cs, hcs, hdigit⟩ := exists_decimal_cons m
    rw [hcs]
    intro h
    rw [(List.cons.inj h).1] at hdigit
    cases hdigit
  cases m with
  | ofNat m =>
    cases n with
    | ofNat n =>
      obtain ⟨rfl, hrs⟩ := decimal_cancel hr hs h
      exact ⟨rfl, hrs⟩
    | negSucc n =>
      rw [number_ofNat, number_negSucc, String.toList_append] at h
      exact absurd h hmixed
  | negSucc m =>
    cases n with
    | ofNat n =>
      rw [number_ofNat, number_negSucc, String.toList_append] at h
      exact absurd h.symm hmixed
    | negSucc n =>
      rw [number_negSucc, number_negSucc, String.toList_append, String.toList_append] at h
      obtain ⟨hmn, hrs⟩ := decimal_cancel hr hs (List.cons.inj h).2
      obtain rfl : m = n := Nat.succ.inj hmn
      exact ⟨rfl, hrs⟩

/-! ## Items and members -/

theorem compactItems_eq (xs : List Json) : compactItems xs = xs.map compact := by
  induction xs with
  | nil => rfl
  | cons x xs ih => rw [compactItems, ih, List.map_cons]

/-- A member on one line. -/
def compactMember (m : String × Json) : String := quoted m.1 ++ ":" ++ compact m.2

theorem compactMembers_eq (ms : List (String × Json)) : compactMembers ms = ms.map compactMember := by
  induction ms with
  | nil => rfl
  | cons m ms ih => rw [compactMembers, ih, List.map_cons, compactMember]

theorem toList_compactMember (m : String × Json) :
    (compactMember m).toList = (quoted m.1).toList ++ ':' :: (compact m.2).toList := by
  rw [compactMember, String.toList_append, String.toList_append, List.append_assoc]
  rfl

theorem toList_compact_arr (xs : List Json) :
    (compact (arr xs)).toList = '[' :: (joinedText [','] (fun x => (compact x).toList) xs ++ [']']) := by
  rw [compact, compactItems_eq, String.toList_append, String.toList_append, toList_intercalate_map]
  rfl

theorem toList_compact_obj (ms : List (String × Json)) :
    (compact (obj ms)).toList =
      '\x7b' :: (joinedText [','] (fun m => (compactMember m).toList) ms ++ ['\x7d']) := by
  rw [compact, compactMembers_eq, String.toList_append, String.toList_append, toList_intercalate_map]
  rfl

/-! ## Kinds of values -/

/-- The kinds of values. -/
inductive Shape where
  | null | bool | num | str | arr | obj

/-- The kind of a value. -/
def shape : Json → Shape
  | null => .null
  | bool _ => .bool
  | num _ => .num
  | str _ => .str
  | arr _ => .arr
  | obj _ => .obj

/-- The kind of the value that begins with a character. -/
def Shape.ofFirst? (c : Char) : Option Shape :=
  if c = 'n' then some null
  else if c = 't' ∨ c = 'f' then some bool
  else if c = '"' then some str
  else if c = '[' then some arr
  else if c = '\x7b' then some obj
  else if c = '-' ∨ c.isDigit then some num
  else none

theorem Shape.ofFirst?_of_isDigit {c : Char} (h : c.isDigit = true) : ofFirst? c = some num := by
  have hne {d : Char} (hd : d.isDigit = false) : c ≠ d := by
    rintro rfl
    rw [h] at hd
    cases hd
  rw [ofFirst?, if_neg (hne rfl), if_neg (not_or.mpr ⟨hne rfl, hne rfl⟩), if_neg (hne rfl),
    if_neg (hne rfl), if_neg (hne rfl), if_pos (.inr h)]

/-- The kind of a value is told by its first character. -/
theorem exists_compact_cons (j : Json) :
    ∃ c cs, (compact j).toList = c :: cs ∧ Shape.ofFirst? c = some j.shape := by
  cases j with
  | null => exact ⟨'n', ['u', 'l', 'l'], rfl, rfl⟩
  | bool b => cases b <;> exact ⟨_, _, rfl, rfl⟩
  | num n =>
    cases n with
    | ofNat n =>
      obtain ⟨c, cs, hcs, hdigit⟩ := exists_decimal_cons n
      exact ⟨c, cs, hcs, Shape.ofFirst?_of_isDigit hdigit⟩
    | negSucc n =>
      refine ⟨'-', (decimal (n + 1)).toList, ?_, rfl⟩
      rw [compact, number_negSucc, String.toList_append]
      rfl
  | str t => exact ⟨'"', _, toList_quoted t, rfl⟩
  | arr xs => exact ⟨'[', _, toList_compact_arr xs, rfl⟩
  | obj ms => exact ⟨'\x7b', _, toList_compact_obj ms, rfl⟩

theorem shape_eq {j k : Json} (h : (compact j).toList ++ r = (compact k).toList ++ s) :
    j.shape = k.shape := by
  obtain ⟨c, cs, hcs, hj⟩ := exists_compact_cons j
  obtain ⟨d, ds, hds, hk⟩ := exists_compact_cons k
  rw [hcs, hds] at h
  obtain rfl : c = d := (List.cons.inj h).1
  exact Option.some.inj (hj.symm.trans hk)

/-! ## Values -/

/-- What stands in brackets ends at the closing one, which no part begins with. -/
theorem bracketed_cancel {α : Type} {text : α → List Char} {as bs : List α} {q : Char}
    (hdigit : ¬ q.isDigit = true) (hcomma : ',' ≠ q)
    (hfirst : ∀ a, ∃ c cs, text a = c :: cs ∧ c ≠ q)
    (hcancel : ∀ a ∈ as, ∀ b ∈ bs, ∀ r s, Follows r → Follows s → text a ++ r = text b ++ s →
      a = b ∧ r = s)
    (h : joinedText [','] text as ++ q :: r = joinedText [','] text bs ++ q :: s) :
    as = bs ∧ r = s := by
  have hnonempty (b : α) (bs : List α) (r s : List Char) :
      q :: r ≠ joinedText [','] text (b :: bs) ++ s := by
    obtain ⟨c, cs, hcs, hne⟩ := hfirst b
    obtain ⟨ds, hds, -⟩ := joinedText_cons [','] text b bs
    rw [hds, hcs]
    exact fun h => hne (List.cons.inj h).1.symm
  have hnil : as = [] ↔ bs = [] := by
    cases as with
    | nil =>
      cases bs with
      | nil => exact Iff.rfl
      | cons b bs => exact absurd h (hnonempty b bs _ _)
    | cons a as =>
      cases bs with
      | nil => exact absurd h.symm (hnonempty a as _ _)
      | cons b bs => exact iff_of_false (List.cons_ne_nil a as) (List.cons_ne_nil b bs)
  have hclosed (r : List Char) : ¬ [','] <+: q :: r := fun hprefix =>
    hcomma (List.cons_prefix_cons.mp hprefix).1
  obtain ⟨rfl, hrs⟩ := joinedText_cancel Follows hcancel follows_comma (stopsAt_cons hdigit)
    (stopsAt_cons hdigit) (hclosed r) (hclosed s) hnil h
  exact ⟨rfl, (List.cons.inj hrs).2⟩

/-- Values are made of values. -/
theorem induction_on {P : Json → Prop} (hnull : P null) (hbool : ∀ b, P (bool b))
    (hnum : ∀ n, P (num n)) (hstr : ∀ t, P (str t)) (harr : ∀ xs, (∀ x ∈ xs, P x) → P (arr xs))
    (hobj : ∀ ms, (∀ m ∈ ms, P m.2) → P (obj ms)) : ∀ j, P j
  | null => hnull
  | bool b => hbool b
  | num n => hnum n
  | str t => hstr t
  | arr xs => harr xs fun x _ => induction_on hnull hbool hnum hstr harr hobj x
  | obj ms => hobj ms fun m _ => induction_on hnull hbool hnum hstr harr hobj m.2
  termination_by j => j
  decreasing_by
    · have hsize := List.sizeOf_lt_of_mem ‹x ∈ xs›
      simp only [arr.sizeOf_spec]
      omega
    · have hsize := List.sizeOf_lt_of_mem ‹m ∈ ms›
      simp only [obj.sizeOf_spec]
      cases m
      simp only [Prod.mk.sizeOf_spec] at hsize ⊢
      omega

/-- No value begins with a character that is the first one of none. -/
theorem compact_ne_close {q : Char} (hq : Shape.ofFirst? q = none) (j : Json) :
    ∃ c cs, (compact j).toList = c :: cs ∧ c ≠ q := by
  obtain ⟨c, cs, hcs, hshape⟩ := exists_compact_cons j
  refine ⟨c, cs, hcs, ?_⟩
  rintro rfl
  rw [hq] at hshape
  cases hshape

theorem member_ne_close (m : String × Json) :
    ∃ c cs, (compactMember m).toList = c :: cs ∧ c ≠ '\x7d' := by
  rw [toList_compactMember, toList_quoted, List.cons_append]
  exact ⟨'"', _, rfl, by decide⟩

theorem member_cancel {m n : String × Json} (hr : Follows r) (hs : Follows s)
    (hvalue : ∀ r s, Follows r → Follows s →
      (compact m.2).toList ++ r = (compact n.2).toList ++ s → m.2 = n.2 ∧ r = s)
    (h : (compactMember m).toList ++ r = (compactMember n).toList ++ s) : m = n ∧ r = s := by
  simp only [toList_compactMember, List.append_assoc, List.cons_append] at h
  obtain ⟨hkey, hrest⟩ := quoted_cancel h
  obtain ⟨hvalues, hrs⟩ := hvalue r s hr hs (List.cons.inj hrest).2
  exact ⟨Prod.ext hkey hvalues, hrs⟩

/-- A value ends where the writer ended it. -/
theorem compact_cancel (j : Json) : ∀ (k : Json) (r s : List Char), Follows r → Follows s →
    (compact j).toList ++ r = (compact k).toList ++ s → j = k ∧ r = s := by
  induction j using induction_on with
  | hnull =>
    intro k r s _ _ h
    have hshape := shape_eq h
    cases k with
    | null => exact ⟨rfl, List.append_cancel_left h⟩
    | _ => cases hshape
  | hbool b =>
    intro k r s _ _ h
    have hshape := shape_eq h
    cases k with
    | bool b' => cases b <;> cases b' <;> first | exact ⟨rfl, List.append_cancel_left h⟩ | cases h
    | _ => cases hshape
  | hnum m =>
    intro k r s hr hs h
    have hshape := shape_eq h
    cases k with
    | num n =>
      obtain ⟨rfl, hrs⟩ := number_cancel hr hs h
      exact ⟨rfl, hrs⟩
    | _ => cases hshape
  | hstr t =>
    intro k r s _ _ h
    have hshape := shape_eq h
    cases k with
    | str u =>
      obtain ⟨rfl, hrs⟩ := quoted_cancel h
      exact ⟨rfl, hrs⟩
    | _ => cases hshape
  | harr xs ih =>
    intro k r s _ _ h
    have hshape := shape_eq h
    cases k with
    | arr ys =>
      simp only [toList_compact_arr, List.cons_append, List.append_assoc, List.nil_append] at h
      obtain ⟨rfl, hrs⟩ := bracketed_cancel (by decide) (by decide) (compact_ne_close (by decide))
        (fun x hx y _ => ih x hx y) (List.cons.inj h).2
      exact ⟨rfl, hrs⟩
    | _ => cases hshape
  | hobj ms ih =>
    intro k r s _ _ h
    have hshape := shape_eq h
    cases k with
    | obj ns =>
      simp only [toList_compact_obj, List.cons_append, List.append_assoc, List.nil_append] at h
      obtain ⟨rfl, hrs⟩ := bracketed_cancel (by decide) (by decide) member_ne_close
        (fun m hm n _ r s hr hs => member_cancel hr hs (ih m hm n.2)) (List.cons.inj h).2
      exact ⟨rfl, hrs⟩
    | _ => cases hshape

/-- Values with the same text are the same. -/
theorem compact_injective : Function.Injective compact := by
  intro j k h
  exact (compact_cancel j k [] [] stopsAt_nil stopsAt_nil (by rw [h])).1

end Eir.Json
