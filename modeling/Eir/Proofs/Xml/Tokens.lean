import Eir.Proofs.Xml.Written
import Mathlib.Data.List.TakeWhile

/-!
# Tokens of a written document

A document whose elements have names of letters is cut into the tags that it was
written with (`tokens_document`). What its reader gets to see does not depend on
the depth of an element, and of a text only on what stands between its blanks.
-/

namespace Eir.Xml

variable {cs ds rest : List Char} {ts us seen : List Token} {name : String}
  {attributes : List Attribute}

/-! ## Cutting one piece -/

/-- The text is cut into these parts, whatever precedes and follows it. -/
def Cuts (cs : List Char) (ts : List Token) : Prop :=
  ∀ seen rest, tokensAfter seen (cs ++ rest) = tokensAfter (ts.reverse ++ seen) rest

theorem Cuts.nil : Cuts [] [] := fun _ _ => rfl

theorem Cuts.append (h : Cuts cs ts) (h' : Cuts ds us) : Cuts (cs ++ ds) (ts ++ us) := by
  intro seen rest
  rw [List.append_assoc, h, h', List.reverse_append, List.append_assoc]

theorem Cuts.markup {t : Token} (h : ∀ rest, cutMarkup (cs ++ rest) = .ok (t, rest)) :
    Cuts ('<' :: cs) [t] := by
  intro seen rest
  rw [List.cons_append, tokensAfter]
  split
  · rename_i he
    rw [h rest] at he
    cases he
    rfl
  · rename_i he
    rw [h rest] at he
    cases he

/-- A text goes up to the next tag. -/
theorem Cuts.text (hne : cs ≠ []) (hcs : ∀ x ∈ cs, x ≠ '<') (h : Cuts ('<' :: ds) ts) :
    Cuts (cs ++ '<' :: ds) (textToken cs :: ts) := by
  intro seen rest
  obtain ⟨c, cs, rfl⟩ := List.exists_cons_of_ne_nil hne
  have hc : c ≠ '<' := hcs c List.mem_cons_self
  have letters : ∀ x ∈ cs, decide (x ≠ '<') = true := fun x hx =>
    decide_eq_true (hcs x (List.mem_cons_of_mem _ hx))
  have step : tokensAfter seen (c :: (cs ++ '<' :: (ds ++ rest))) =
      tokensAfter (textToken (c :: cs) :: seen) ('<' :: (ds ++ rest)) := by
    rw [tokensAfter.eq_3 _ _ _ hc, List.takeWhile_append_of_pos letters,
      List.dropWhile_append_of_pos letters, List.takeWhile_cons_of_neg (by decide),
      List.dropWhile_cons_of_neg (by decide), List.append_nil]
  rw [List.append_assoc, List.cons_append, List.cons_append, step, ← List.cons_append, h,
    List.reverse_cons, List.append_assoc, List.singleton_append]

theorem cutTag_end : cutTag none ('>' :: rest) = some ([], rest) := rfl

/-- The letter that a tag begins with. -/
theorem exists_tagContent_eq_cons (hn : IsName name) (attributes : List Attribute) :
    ∃ c content, isNameLetter c = true ∧ (tagContent name attributes).toList = c :: content := by
  obtain ⟨c, cs, hname⟩ := List.exists_cons_of_ne_nil hn.1
  refine ⟨c, cs ++ writtenAttributes attributes, hn.2 c (hname ▸ List.mem_cons_self), ?_⟩
  rw [toList_tagContent, hname, List.cons_append]

/-- A tag that begins with a letter opens an element. -/
theorem cutMarkup_of_isNameLetter {c : Char} (hc : isNameLetter c = true) (cs : List Char) :
    cutMarkup (c :: cs) = match cutTag none (c :: cs) with
      | some (content, rest) =>
        match content.getLast? with
        | some '/' => .ok (.single (.ofContent content.dropLast), rest)
        | _ => .ok (.opening (.ofContent content), rest)
      | none => .error .tag := by
  unfold cutMarkup
  split
  · rename_i he
    cases he
    exact absurd hc (by decide)
  · rename_i he
    cases he
    exact absurd hc (by decide)
  · rename_i he
    cases he
    exact absurd hc (by decide)
  · rfl

theorem cuts_opening (hn : IsName name) (ha : ∀ a ∈ attributes, IsName a.1) :
    Cuts ('<' :: ((tagContent name attributes).toList ++ ['>']))
      [.opening ⟨name.toList, writtenAttributes attributes⟩] := by
  refine Cuts.markup fun rest => ?_
  have cut : cutTag none ((tagContent name attributes).toList ++ '>' :: rest) =
      some ((tagContent name attributes).toList, rest) := by
    rw [cutTag_tagContent hn ha, cutTag_end]
    simp
  obtain ⟨c, content, hc, htag⟩ := exists_tagContent_eq_cons hn attributes
  have hlast := getLast?_tagContent hn attributes
  have content' := ofContent_tagContent hn attributes
  rw [List.append_assoc, List.singleton_append]
  rw [htag] at cut hlast content' ⊢
  rw [List.cons_append] at cut ⊢
  rw [cutMarkup_of_isNameLetter hc, cut]
  -- the last letter of the tag is no slash (`hlast`), so only the second case is left
  simp only [content']

theorem cuts_single (hn : IsName name) (ha : ∀ a ∈ attributes, IsName a.1) :
    Cuts ('<' :: ((tagContent name attributes).toList ++ ['/', '>']))
      [.single ⟨name.toList, writtenAttributes attributes⟩] := by
  refine Cuts.markup fun rest => ?_
  have cut : cutTag none ((tagContent name attributes).toList ++ '/' :: '>' :: rest) =
      some ((tagContent name attributes).toList ++ ['/'], rest) := by
    rw [cutTag_tagContent hn ha]
    rfl
  obtain ⟨c, content, hc, htag⟩ := exists_tagContent_eq_cons hn attributes
  have content' := ofContent_tagContent hn attributes
  rw [List.append_assoc, List.cons_append, List.singleton_append]
  rw [htag] at cut content' ⊢
  rw [List.cons_append] at cut ⊢
  rw [cutMarkup_of_isNameLetter hc, cut]
  simp only [List.getLast?_concat, List.dropLast_concat, content']

theorem cuts_closing (hn : IsName name) :
    Cuts ('<' :: '/' :: (name.toList ++ ['>'])) [.closing name.toList] := by
  refine Cuts.markup fun rest => ?_
  have letters : ∀ x ∈ name.toList, x ≠ '>' ∧ isQuote x = false := fun x hx =>
    ⟨ne_of_isNameLetter rfl (hn.2 x hx), isQuote_of_isNameLetter (hn.2 x hx)⟩
  have cut : cutTag none (name.toList ++ ['>'] ++ rest) = some (name.toList, rest) := by
    rw [List.append_assoc, cutTag_append letters, List.singleton_append, cutTag_end]
    simp
  have noBlank : closingName name.toList = name.toList := by
    have : Text.dropEndWhile isBlank name.toList = name.toList := by
      unfold Text.dropEndWhile
      obtain ⟨c, cs, hc⟩ := List.exists_cons_of_ne_nil (List.reverse_ne_nil_iff.mpr hn.1)
      have letter := hn.2 c (List.mem_reverse.mp (hc ▸ List.mem_cons_self))
      rw [hc, List.dropWhile_cons_of_neg (by simp [isBlank_of_isNameLetter letter]), ← hc,
        List.reverse_reverse]
    unfold closingName
    rw [this]
    simp
  rw [List.cons_append, cutMarkup, cut]
  simp only [noBlank]

/-! ## Documents -/

namespace Element

/-- The elements below it and it itself have names of letters, and so have their attributes. -/
inductive WellNamed : Element → Prop
  | text {name content : String} (hn : IsName name) : WellNamed (.text name content)
  | single {name : String} {attributes : List Attribute} (hn : IsName name)
      (ha : ∀ a ∈ attributes, IsName a.1) : WellNamed (.single name attributes)
  | parent {name : String} {attributes : List Attribute} {children : List Element}
      (hn : IsName name) (ha : ∀ a ∈ attributes, IsName a.1)
      (hc : ∀ e ∈ children, WellNamed e) : WellNamed (.parent name attributes children)

theorem WellNamed.isName_attributes {name : String} {attributes : List Attribute}
    {children : List Element} (h : WellNamed (.parent name attributes children)) :
    ∀ a ∈ attributes, IsName a.1 := by
  cases h with
  | parent _ ha _ => exact ha

/-- What a text between two tags is read as. -/
def textTokens (content : String) : List Token :=
  if content.toList = [] then [] else [textToken (escapeChars content.toList)]

mutual

/-- What an element is read as, from the line break in front of it on. -/
def tokens : Element → List Token
  | text name content =>
    .other :: .opening ⟨name.toList, []⟩ :: (textTokens content ++ [.closing name.toList])
  | single name attributes => [.other, .single ⟨name.toList, writtenAttributes attributes⟩]
  | parent name attributes children =>
    .other :: .opening ⟨name.toList, writtenAttributes attributes⟩ ::
      (tokensOfAll children ++ [.other, .closing name.toList])

/-- What elements are read as, one after the other. -/
def tokensOfAll : List Element → List Token
  | [] => []
  | e :: es => tokens e ++ tokensOfAll es

end

/-- Lines as they stand in a document, each behind a line break. -/
def broken (lines : List String) : List Char := lines.flatMap fun line => '\n' :: line.toList

/-- A line break and the blanks in front of a tag are nothing of interest. -/
theorem cuts_line (depth : Nat) {line : String} {tag : List Char}
    (hline : line.toList = (indentation depth).toList ++ '<' :: tag) (h : Cuts ('<' :: tag) ts) :
    Cuts ('\n' :: line.toList) (.other :: ts) := by
  have blank : ∀ x ∈ '\n' :: (indentation depth).toList, x = '\n' ∨ x = ' ' := by
    intro x hx
    rw [indentation, String.toList_ofList, List.mem_cons, List.mem_replicate] at hx
    exact hx.imp_right And.right
  have nothing : textToken ('\n' :: (indentation depth).toList) = .other := by
    have all : ('\n' :: (indentation depth).toList).dropWhile isBlank = [] := by
      rw [List.dropWhile_eq_nil_iff]
      intro x hx
      obtain rfl | rfl := blank x hx <;> rfl
    unfold textToken
    rw [all]
    rfl
  rw [hline, ← List.cons_append, ← nothing]
  refine Cuts.text (List.cons_ne_nil _ _) (fun x hx => ?_) h
  obtain rfl | rfl := blank x hx <;> decide

theorem cuts_text (hn : IsName name) (depth : Nat) (content : String) :
    Cuts (broken (lines depth (.text name content))) (tokens (.text name content)) := by
  have opens : Cuts ('<' :: ((tagContent name []).toList ++ ['>']))
      [.opening ⟨name.toList, writtenAttributes []⟩] := cuts_opening hn (by simp)
  have closes := cuts_closing hn
  have tag : (tagContent name []).toList = name.toList := by
    rw [toList_tagContent]
    exact List.append_nil _
  rw [tag] at opens
  have inner : Cuts ((escapeChars content.toList) ++ '<' :: '/' :: (name.toList ++ ['>']))
      (textTokens content ++ [.closing name.toList]) := by
    unfold textTokens
    split
    · rename_i hc
      rw [hc]
      exact closes
    · rename_i hc
      exact Cuts.text (fun he => hc (escapeChars_eq_nil.mp he))
        (fun x hx => (mem_escapeChars hx).1) closes
  have line : broken (lines depth (.text name content)) =
      '\n' :: (indentation depth ++ "<" ++ name ++ ">" ++ escape content ++ "</" ++ name ++
        ">").toList := by
    simp [broken, lines]
  rw [line]
  refine cuts_line depth ?_ (opens.append inner)
  simp [escape]

theorem broken_append (ls ms : List String) : broken (ls ++ ms) = broken ls ++ broken ms :=
  List.flatMap_append

theorem toList_intercalate_lines (l : String) (ls : List String) :
    ("\n".intercalate (l :: ls)).toList = l.toList ++ broken ls := by
  induction ls generalizing l with
  | nil => simp [broken]
  | cons m ls ih =>
    rw [String.intercalate_cons_cons, String.toList_append, String.toList_append, ih]
    simp [broken]

/-- The lines of an element are cut into what it is read as. -/
theorem cuts_lines {e : Element} (h : e.WellNamed) (depth : Nat) :
    Cuts (broken (e.lines depth)) e.tokens := by
  induction h generalizing depth with
  | text hn => exact cuts_text hn depth _
  | @single name attributes hn ha =>
    have line : broken (lines depth (.single name attributes)) =
        '\n' :: (indentation depth ++ "<" ++ tagContent name attributes ++ "/>").toList := by
      simp [broken, lines]
    rw [line]
    exact cuts_line depth (by simp) (cuts_single hn ha)
  | @parent name attributes children hn ha hc ih =>
    have all : Cuts (broken (linesOfAll (depth + 1) children)) (tokensOfAll children) := by
      clear hc
      induction children with
      | nil => exact Cuts.nil
      | cons e es ihs =>
        rw [linesOfAll, broken_append]
        exact (ih e List.mem_cons_self (depth + 1)).append
          (ihs fun e he => ih e (List.mem_cons_of_mem _ he))
    have opens : Cuts
        ('\n' :: (indentation depth ++ "<" ++ tagContent name attributes ++ ">").toList) _ :=
      cuts_line depth (by simp) (cuts_opening hn ha)
    have closes : Cuts ('\n' :: (indentation depth ++ "</" ++ name ++ ">").toList) _ :=
      cuts_line depth (by simp) (cuts_closing hn)
    have lines : broken (lines depth (.parent name attributes children)) =
        '\n' :: (indentation depth ++ "<" ++ tagContent name attributes ++ ">").toList ++
          (broken (linesOfAll (depth + 1) children) ++
            '\n' :: (indentation depth ++ "</" ++ name ++ ">").toList) := by
      simp [broken, Element.lines]
    rw [lines]
    exact opens.append (all.append closes)

end Element

theorem toList_document (root : Element) :
    (document root).toList = declaration.toList ++ Element.broken (root.lines 0) :=
  Element.toList_intercalate_lines _ _

/-- A document is cut into its declaration and what its elements are read as. -/
theorem tokens_document {root : Element} (h : root.WellNamed) :
    tokens (document root).toList = .ok (.other :: root.tokens) := by
  have declared : Cuts declaration.toList [.other] := by
    have written : declaration.toList =
        '<' :: '?' :: ("xml version=\"1.0\" encoding=\"UTF-8\"".toList ++ ['?', '>']) := by
      decide
    rw [written]
    refine Cuts.markup fun rest => ?_
    rfl
  have cuts := declared.append (Element.cuts_lines h 0) [] []
  rw [List.append_nil] at cuts
  unfold tokens
  rw [toList_document, cuts, tokensAfter]
  simp

end Eir.Xml
