import Eir.Xml.Attributes
import Eir.Xml.Element
import Mathlib.Data.List.Induction

/-!
# Written tags and texts

What reading makes of the pieces that elements are written with. The written
form of a text holds no bracket and no quotation mark, so it ends where the
writer ended it; the blanks at its ends are those of the text itself
(`textToken_escapeChars`). The attributes of a written tag are read one after the
other (`attribute?_written`), and the tag is cut off at its own bracket
(`cutTag_tagContent`).
-/

namespace Eir.Xml

variable {cs rest : List Char} {c : Char}

/-! ## Escaped texts -/

/-- The characters that are written as references, as they are written. -/
def references : List (List Char) :=
  ['<', '>', '&', '\x27', '"'].map escapeChar

theorem escapeChar_cases (c : Char) :
    (escapeChar c = [c] ∧ c ≠ '<' ∧ c ≠ '>' ∧ c ≠ '"' ∧ c ≠ '\x27') ∨
      (escapeChar c ∈ references ∧ isBlank c = false) := by
  by_cases h : c ∈ ['<', '>', '&', '\x27', '"']
  · refine .inr ⟨List.mem_map_of_mem h, ?_⟩
    simp only [List.mem_cons, List.not_mem_nil, or_false] at h
    obtain rfl | rfl | rfl | rfl | rfl := h <;> rfl
  · simp only [List.mem_cons, List.not_mem_nil, or_false, not_or] at h
    obtain ⟨h₁, h₂, h₃, h₄, h₅⟩ := h
    refine .inl ⟨?_, h₁, h₂, h₅, h₄⟩
    unfold escapeChar
    rw [if_neg h₁, if_neg h₂, if_neg h₃, if_neg h₄, if_neg h₅]

theorem mem_escapeChars (h : c ∈ escapeChars cs) :
    c ≠ '<' ∧ c ≠ '>' ∧ c ≠ '"' ∧ c ≠ '\x27' := by
  obtain ⟨d, -, hd⟩ := List.mem_flatMap.mp h
  obtain ⟨he, hplain⟩ | ⟨he, -⟩ := escapeChar_cases d
  · rw [he, List.mem_singleton] at hd
    exact hd ▸ hplain
  · have letters : ∀ r ∈ references, '<' ∉ r ∧ '>' ∉ r ∧ '"' ∉ r ∧ '\x27' ∉ r := by decide
    obtain ⟨h₁, h₂, h₃, h₄⟩ := letters _ he
    exact ⟨fun h => h₁ (h ▸ hd), fun h => h₂ (h ▸ hd), fun h => h₃ (h ▸ hd), fun h => h₄ (h ▸ hd)⟩

theorem escapeChars_cons : escapeChars (c :: cs) = escapeChar c ++ escapeChars cs := rfl

theorem escapeChar_of_isBlank (h : isBlank c = true) : escapeChar c = [c] := by
  obtain ⟨he, -⟩ | ⟨-, hb⟩ := escapeChar_cases c
  · exact he
  · rw [h] at hb
    cases hb

/-- The first and the last written character of one that is not blank are not blank. -/
theorem escapeChar_of_not_isBlank (h : isBlank c = false) :
    (∃ x ∈ (escapeChar c).head?, isBlank x = false) ∧
      ∃ x ∈ (escapeChar c).reverse.head?, isBlank x = false := by
  obtain ⟨he, -⟩ | ⟨he, -⟩ := escapeChar_cases c
  · rw [he]
    exact ⟨⟨c, rfl, h⟩, c, rfl, h⟩
  · have ends : ∀ r ∈ references, r.head? = some '&' ∧ r.reverse.head? = some ';' := by decide
    exact ⟨⟨'&', (ends _ he).1, rfl⟩, ';', (ends _ he).2, rfl⟩

theorem dropWhile_append_of_head? {p : Char → Bool} {xs ys : List Char}
    (h : ∃ x ∈ xs.head?, p x = false) : (xs ++ ys).dropWhile p = xs ++ ys := by
  obtain ⟨x, hx, hp⟩ := h
  cases xs with
  | nil => cases hx
  | cons y xs =>
    obtain rfl : y = x := Option.some.inj hx
    exact List.dropWhile_cons_of_neg (by simp [hp])

theorem dropWhile_escapeChars (cs : List Char) :
    (escapeChars cs).dropWhile isBlank = escapeChars (cs.dropWhile isBlank) := by
  induction cs with
  | nil => rfl
  | cons c cs ih =>
    rw [escapeChars_cons]
    cases h : isBlank c with
    | true =>
      rw [escapeChar_of_isBlank h, List.singleton_append, List.dropWhile_cons_of_pos h,
        List.dropWhile_cons_of_pos h, ih]
    | false =>
      rw [dropWhile_append_of_head? (escapeChar_of_not_isBlank h).1,
        List.dropWhile_cons_of_neg (by simp [h]), escapeChars_cons]

theorem dropEndWhile_escapeChars (cs : List Char) :
    Text.dropEndWhile isBlank (escapeChars cs) = escapeChars (Text.dropEndWhile isBlank cs) := by
  unfold Text.dropEndWhile
  induction cs using List.reverseRecOn with
  | nil => rfl
  | append_singleton cs c ih =>
    have snoc : escapeChars (cs ++ [c]) = escapeChars cs ++ escapeChar c := by
      simp only [escapeChars, List.flatMap_append, List.flatMap_cons, List.flatMap_nil,
        List.append_nil]
    rw [snoc, List.reverse_append, List.reverse_append, List.reverse_singleton,
      List.singleton_append]
    cases h : isBlank c with
    | true =>
      rw [escapeChar_of_isBlank h, List.reverse_singleton, List.singleton_append,
        List.dropWhile_cons_of_pos h, List.dropWhile_cons_of_pos h, ih]
    | false =>
      rw [dropWhile_append_of_head? (escapeChar_of_not_isBlank h).2,
        List.dropWhile_cons_of_neg (by simp [h]), List.reverse_append, List.reverse_reverse,
        List.reverse_reverse, List.reverse_cons, List.reverse_reverse, snoc]

/-- A text without the blanks at its ends. -/
def trimmed (cs : List Char) : List Char := Text.dropEndWhile isBlank (cs.dropWhile isBlank)

/-- A text neither begins nor ends with a blank of markup. -/
def Trimmed (s : String) : Prop := trimmed s.toList = s.toList

instance (s : String) : Decidable (Trimmed s) :=
  inferInstanceAs (Decidable (trimmed s.toList = s.toList))

theorem escapeChars_eq_nil : escapeChars cs = [] ↔ cs = [] := by
  constructor
  · intro h
    have := unescapeChars?_escapeChars cs
    rw [h] at this
    exact (Option.some.inj this).symm
  · rintro rfl
    rfl

/-- A written text is read without the blanks around it. -/
theorem textToken_escapeChars (cs : List Char) :
    textToken (escapeChars cs) =
      if trimmed cs = [] then .other else .text (escapeChars (trimmed cs)) := by
  have inner : Text.dropEndWhile isBlank ((escapeChars cs).dropWhile isBlank) =
      escapeChars (trimmed cs) := by
    rw [dropWhile_escapeChars, dropEndWhile_escapeChars, trimmed]
  unfold textToken
  rw [inner]
  by_cases h : trimmed cs = []
  · rw [if_pos h, h]
    rfl
  · obtain ⟨x, xs, hx⟩ := List.exists_cons_of_ne_nil fun he => h (escapeChars_eq_nil.mp he)
    rw [if_neg h, hx]

/-! ## Names -/

/-- A character of the names that documents are written with. -/
def isNameLetter (c : Char) : Bool := c.isAlpha || c = ':'

/-- A name of letters and colons. -/
structure IsName (name : String) : Prop where
  ne_nil : name.toList ≠ []
  letters : ∀ c ∈ name.toList, isNameLetter c = true

/-- The test that `IsName` is decided by. -/
def isName (name : String) : Bool := !name.toList.isEmpty && name.toList.all isNameLetter

theorem isName_iff {name : String} : isName name = true ↔ IsName name := by
  unfold isName
  rw [Bool.and_eq_true, List.all_eq_true, Bool.not_eq_true', List.isEmpty_eq_false_iff]
  exact ⟨fun h => ⟨h.1, h.2⟩, fun h => ⟨h.1, h.2⟩⟩

instance (name : String) : Decidable (IsName name) := decidable_of_iff _ isName_iff

theorem ne_of_isNameLetter {d : Char} (hd : isNameLetter d = false) (h : isNameLetter c = true) :
    c ≠ d := by
  rintro rfl
  rw [h] at hd
  cases hd

theorem isBlank_of_isNameLetter (h : isNameLetter c = true) : isBlank c = false := by
  have h₁ := ne_of_isNameLetter (d := ' ') rfl h
  have h₂ := ne_of_isNameLetter (d := '\t') rfl h
  have h₃ := ne_of_isNameLetter (d := '\n') rfl h
  have h₄ := ne_of_isNameLetter (d := '\r') rfl h
  simp [isBlank, h₁, h₂, h₃, h₄]

theorem isQuote_of_isNameLetter (h : isNameLetter c = true) : isQuote c = false := by
  have h₁ := ne_of_isNameLetter (d := '"') rfl h
  have h₂ := ne_of_isNameLetter (d := '\x27') rfl h
  simp [isQuote, h₁, h₂]

/-! ## Tags -/

/-- A name and an equals sign, a value between quotation marks: they are cut around. -/
theorem cutAround?_quote (h : ∀ x ∈ cs, x ≠ '"') :
    Text.cutAround? ['"'] (cs ++ '"' :: rest) = some (cs, rest) := by
  induction cs with
  | nil => rfl
  | cons c cs ih =>
    have hc : ('"' == c) = false := beq_eq_false_iff_ne.mpr (h c List.mem_cons_self).symm
    rw [List.cons_append, Text.cutAround?, Text.isPrefixOf?_cons_cons, hc,
      ih fun x hx => h x (List.mem_cons_of_mem _ hx)]
    rfl

/-- Attributes as they stand behind the name of a tag. -/
def writtenAttributes (attributes : List Attribute) : List Char :=
  attributes.flatMap fun a => (writtenAttribute a).toList

theorem toList_writtenAttribute (a : Attribute) :
    (writtenAttribute a).toList =
      ' ' :: (a.1.toList ++ '=' :: '"' :: (escapeChars a.2.toList ++ ['"'])) := by
  simp [writtenAttribute, escape]

theorem toList_tagContent (name : String) (attributes : List Attribute) :
    (tagContent name attributes).toList = name.toList ++ writtenAttributes attributes := by
  unfold tagContent writtenAttributes
  rw [String.toList_append, String.toList_join, List.flatMap_map]

theorem firstAttribute_written {a : Attribute} (h : IsName a.1) (rest : List Char) :
    firstAttribute ((writtenAttribute a).toList ++ rest) =
      .ok (some ⟨a.1.toList, escapeChars a.2.toList, rest⟩) := by
  obtain ⟨hne, hletters⟩ := h
  obtain ⟨c, cs, hname⟩ := List.exists_cons_of_ne_nil hne
  rw [hname] at hletters
  have hc : isBlank c = false := isBlank_of_isNameLetter (hletters c List.mem_cons_self)
  have hcs : ∀ x ∈ cs, isNameChar x = true := fun x hx => by
    have hx := hletters x (List.mem_cons_of_mem _ hx)
    simp [isNameChar, ne_of_isNameLetter (d := '=') rfl hx, isBlank_of_isNameLetter hx]
  have value : quotedValue? ('"' :: (escapeChars a.2.toList ++ '"' :: rest)) =
      some (escapeChars a.2.toList, rest) :=
    cutAround?_quote fun x hx => (mem_escapeChars hx).2.2.1
  have text : (writtenAttribute a).toList ++ rest =
      ' ' :: c :: (cs ++ '=' :: '"' :: (escapeChars a.2.toList ++ '"' :: rest)) := by
    rw [toList_writtenAttribute, hname]
    simp only [List.cons_append, List.append_assoc, List.nil_append]
  unfold firstAttribute
  rw [text, List.dropWhile_cons_of_pos (by rfl), List.dropWhile_cons_of_neg (by simp [hc])]
  simp only []
  rw [List.dropWhile_append_of_pos hcs, List.takeWhile_append_of_pos hcs,
    List.dropWhile_cons_of_neg (by decide), List.dropWhile_cons_of_neg (by decide)]
  simp only []
  rw [List.dropWhile_cons_of_neg (by decide), value, List.takeWhile_cons_of_neg (by decide),
    List.append_nil, hname]

/-- An attribute is read back as the first of its name. -/
theorem attribute?_written {attributes : List Attribute} (h : ∀ a ∈ attributes, IsName a.1)
    (name : String) :
    attribute? name (writtenAttributes attributes) = .ok (attributes.lookup name) := by
  induction attributes with
  | nil => rw [attribute?.eq_def]; rfl
  | cons a attributes ih =>
    obtain ⟨key, value⟩ := a
    have first := firstAttribute_written (h (key, value) List.mem_cons_self)
      (writtenAttributes attributes)
    have behind := ih fun b hb => h b (List.mem_cons_of_mem _ hb)
    have text : writtenAttributes ((key, value) :: attributes) =
        (writtenAttribute (key, value)).toList ++ writtenAttributes attributes := rfl
    rw [attribute?.eq_def, text]
    split
    · rename_i he
      rw [first] at he
      cases he
    · rename_i he
      rw [first] at he
      cases he
    · rename_i b he
      rw [first] at he
      obtain rfl := Option.some.inj (Except.ok.inj he)
      by_cases hname : key = name
      · subst hname
        rw [if_pos rfl, unescapeChars?_escapeChars, List.lookup_cons_self]
        simp only [String.ofList_toList]
      · rw [if_neg fun he => hname (String.toList_injective he), behind, List.lookup_cons,
          beq_eq_false_iff_ne.mpr (Ne.symm hname)]

/-- A bracket behind a text without brackets and quotation marks ends the tag at that place. -/
theorem cutTag_append (h : ∀ x ∈ cs, x ≠ '>' ∧ isQuote x = false) :
    cutTag none (cs ++ rest) = (cutTag none rest).map fun (l, r) => (cs ++ l, r) := by
  induction cs with
  | nil => simp
  | cons c cs ih =>
    obtain ⟨hc, hq⟩ := h c List.mem_cons_self
    rw [List.cons_append, cutTag, if_neg hc, hq, if_neg Bool.false_ne_true,
      ih fun x hx => h x (List.mem_cons_of_mem _ hx)]
    simp [Option.map_map, Function.comp_def]

/-- What stands between quotation marks does not end the tag. -/
theorem cutTag_quoted (h : ∀ x ∈ cs, x ≠ '"') :
    cutTag (some '"') (cs ++ '"' :: rest) =
      (cutTag none rest).map fun (l, r) => (cs ++ '"' :: l, r) := by
  induction cs with
  | nil => rfl
  | cons c cs ih =>
    rw [List.cons_append, cutTag, if_neg (h c List.mem_cons_self),
      ih fun x hx => h x (List.mem_cons_of_mem _ hx)]
    simp [Option.map_map, Function.comp_def]

theorem cutTag_writtenAttributes {attributes : List Attribute}
    (h : ∀ a ∈ attributes, IsName a.1) :
    cutTag none (writtenAttributes attributes ++ rest) =
      (cutTag none rest).map fun (l, r) => (writtenAttributes attributes ++ l, r) := by
  induction attributes with
  | nil => simp [writtenAttributes]
  | cons a attributes ih =>
    have text (cs : List Char) : writtenAttributes (a :: attributes) ++ cs =
        (' ' :: a.1.toList ++ ['=']) ++
          '"' :: (escapeChars a.2.toList ++ '"' :: (writtenAttributes attributes ++ cs)) := by
      simp [writtenAttributes, toList_writtenAttribute]
    have letters : ∀ x ∈ ' ' :: a.1.toList ++ ['='], x ≠ '>' ∧ isQuote x = false := by
      intro x hx
      rw [List.mem_append, List.mem_cons, List.mem_singleton] at hx
      obtain (rfl | hx) | rfl := hx
      · decide
      · have hx := (h a List.mem_cons_self).2 x hx
        exact ⟨ne_of_isNameLetter rfl hx, isQuote_of_isNameLetter hx⟩
      · decide
    have inQuotes : cutTag none
        ('"' :: (escapeChars a.2.toList ++ '"' :: (writtenAttributes attributes ++ rest))) =
        (cutTag (some '"')
          (escapeChars a.2.toList ++ '"' :: (writtenAttributes attributes ++ rest))).map
          fun (l, r) => ('"' :: l, r) := rfl
    rw [text, cutTag_append letters, inQuotes,
      cutTag_quoted fun x hx => (mem_escapeChars hx).2.2.1,
      ih fun b hb => h b (List.mem_cons_of_mem _ hb)]
    simp only [Option.map_map, Function.comp_def, text]

/-- A written tag goes on up to its own bracket. -/
theorem cutTag_tagContent {name : String} {attributes : List Attribute} (hn : IsName name)
    (ha : ∀ a ∈ attributes, IsName a.1) :
    cutTag none ((tagContent name attributes).toList ++ rest) =
      (cutTag none rest).map fun (l, r) => ((tagContent name attributes).toList ++ l, r) := by
  have letters : ∀ x ∈ name.toList, x ≠ '>' ∧ isQuote x = false := fun x hx =>
    ⟨ne_of_isNameLetter rfl (hn.2 x hx), isQuote_of_isNameLetter (hn.2 x hx)⟩
  rw [toList_tagContent, List.append_assoc, cutTag_append letters, cutTag_writtenAttributes ha]
  simp only [Option.map_map, Function.comp_def, List.append_assoc]

/-- The name of a written tag is read back, and its attributes stand behind it. -/
theorem ofContent_tagContent {name : String} (h : IsName name) (attributes : List Attribute) :
    Tag.ofContent (tagContent name attributes).toList =
      ⟨name.toList, writtenAttributes attributes⟩ := by
  have letters : ∀ x ∈ name.toList, (!isBlank x) = true := fun x hx => by
    simp [isBlank_of_isNameLetter (h.2 x hx)]
  unfold Tag.ofContent
  rw [toList_tagContent, List.takeWhile_append_of_pos letters,
    List.dropWhile_append_of_pos letters]
  cases attributes with
  | nil => simp [writtenAttributes]
  | cons a attributes => simp [writtenAttributes, toList_writtenAttribute, isBlank]

/-- A written tag ends with a letter or a quotation mark. -/
theorem getLast?_tagContent {name : String} (h : IsName name) (attributes : List Attribute) :
    (tagContent name attributes).toList.getLast? ≠ some '/' := by
  rw [toList_tagContent]
  cases attributes using List.reverseRecOn with
  | nil =>
    intro hlast
    have letter := h.2 '/' (List.mem_of_getLast? (by simpa [writtenAttributes] using hlast))
    cases letter
  | append_singleton attributes a =>
    have text : writtenAttributes (attributes ++ [a]) = writtenAttributes attributes ++
        ' ' :: (a.1.toList ++ '=' :: '"' :: escapeChars a.2.toList) ++ ['"'] := by
      simp [writtenAttributes, toList_writtenAttribute]
    rw [text, ← List.append_assoc, List.getLast?_concat]
    decide

end Eir.Xml
