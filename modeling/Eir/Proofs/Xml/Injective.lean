import Eir.Proofs.Text.Delimited
import Eir.Proofs.Xml.Tokens

/-!
# Different elements are written differently

The text of an element says which element it is (`NamedBy.eq_of_text_eq`), as soon
as the elements that hold text are known by their names: without that, one that
holds nothing but a line break is written like one that holds no elements. Each
piece of the text ends where the writer ended it: a name at the first character
that is no letter, an attribute at its quotation mark, and the elements in another
one at the first line with fewer blanks.
-/

namespace Eir.Xml

variable {r s : List Char}

theorem escapeChars_injective : Function.Injective escapeChars := fun cs ds h =>
  Option.some.inj <| by rw [← unescapeChars?_escapeChars cs, h, unescapeChars?_escapeChars]

/-! ## Names and attributes -/

theorem name_cancel {m n : String} (hm : IsName m) (hn : IsName n)
    (hr : Text.StopsAt (isNameLetter · = false) r) (hs : Text.StopsAt (isNameLetter · = false) s)
    (h : m.toList ++ r = n.toList ++ s) : m = n ∧ r = s := by
  obtain ⟨hmn, hrs⟩ := Text.append_cancel (fun c hc => by simp [hm.2 c hc])
    (fun c hc => by simp [hn.2 c hc]) hr hs h
  exact ⟨String.toList_injective hmn, hrs⟩

theorem attribute_cancel {a b : Attribute} (ha : IsName a.1) (hb : IsName b.1)
    (h : (writtenAttribute a).toList ++ r = (writtenAttribute b).toList ++ s) : a = b ∧ r = s := by
  have unquoted (v : String) : '"' ∉ escapeChars v.toList := fun hv =>
    (mem_escapeChars hv).2.2.1 rfl
  simp only [toList_writtenAttribute, List.cons_append, List.append_assoc, List.cons.injEq,
    true_and, List.nil_append] at h
  obtain ⟨hname, hvalue⟩ := name_cancel ha hb (Text.stopsAt_cons rfl) (Text.stopsAt_cons rfl) h
  simp only [List.cons.injEq, true_and] at hvalue
  obtain ⟨hv, hrs⟩ := Text.closed_cancel (unquoted a.2) (unquoted b.2) hvalue
  exact ⟨Prod.ext hname (String.toList_injective (escapeChars_injective hv)), hrs⟩

theorem writtenAttributes_cancel {as bs : List Attribute} {c d : Char}
    (has : ∀ a ∈ as, IsName a.1) (hbs : ∀ b ∈ bs, IsName b.1) (hc : c ≠ ' ') (hd : d ≠ ' ')
    (h : writtenAttributes as ++ c :: r = writtenAttributes bs ++ d :: s) :
    as = bs ∧ c = d ∧ r = s := by
  have ends {c : Char} {r : List Char} (hc : c ≠ ' ') (a : Attribute) :
      ¬ (writtenAttribute a).toList <+: c :: r := by
    rw [toList_writtenAttribute, List.cons_prefix_cons]
    exact fun h => hc h.1.symm
  obtain ⟨hab, hrs⟩ := Text.flatMap_cancel
    (fun a ha b hb _ _ => attribute_cancel (has a ha) (hbs b hb)) (fun b _ => ends hc b)
    (fun a _ => ends hd a) h
  exact ⟨hab, List.cons.inj hrs⟩

theorem stopsAt_writtenAttributes {as : List Attribute} {c : Char} (hc : isNameLetter c = false) :
    Text.StopsAt (isNameLetter · = false) (writtenAttributes as ++ c :: r) := by
  cases as with
  | nil => exact Text.stopsAt_cons hc
  | cons a as =>
    rw [writtenAttributes, List.flatMap_cons, toList_writtenAttribute]
    exact Text.stopsAt_cons rfl

/-! ## Elements -/

namespace Element

/-- All names are names of letters, and those of the elements that hold text are the names
in `texts`. -/
inductive NamedBy (texts : List String) : Element → Prop
  | text {name content : String} (hn : IsName name) (ht : name ∈ texts) :
      NamedBy texts (.text name content)
  | single {name : String} {attributes : List Attribute} (hn : IsName name) (ht : name ∉ texts)
      (ha : ∀ a ∈ attributes, IsName a.1) : NamedBy texts (.single name attributes)
  | parent {name : String} {attributes : List Attribute} {children : List Element}
      (hn : IsName name) (ht : name ∉ texts) (ha : ∀ a ∈ attributes, IsName a.1)
      (hc : ∀ e ∈ children, NamedBy texts e) : NamedBy texts (.parent name attributes children)

variable {texts : List String} {e f : Element}

theorem NamedBy.wellNamed (h : e.NamedBy texts) : e.WellNamed := by
  induction h with
  | text hn => exact .text hn
  | single hn _ ha => exact .single hn ha
  | parent hn _ ha _ ih => exact .parent hn ha ih

/-- The name of an element. -/
def name : Element → String
  | text name _ => name
  | single name _ => name
  | parent name _ _ => name

theorem NamedBy.isName (h : e.NamedBy texts) : IsName e.name := by
  cases h <;> assumption

/-- The closing tag of an element on a line of its own, and what follows. -/
def closingLine (depth : Nat) (name : String) (r : List Char) : List Char :=
  '\n' :: ((indentation depth).toList ++ '<' :: '/' :: (name.toList ++ '>' :: r))

/-- What follows the name in the first tag of an element, when the element is followed by `r`. -/
def behindName (depth : Nat) (r : List Char) : Element → List Char
  | text name content =>
    '>' :: (escapeChars content.toList ++ '<' :: '/' :: (name.toList ++ '>' :: r))
  | single _ attributes => writtenAttributes attributes ++ '/' :: '>' :: r
  | parent name attributes children =>
    writtenAttributes attributes ++
      '>' :: (children.flatMap (fun e => broken (e.lines (depth + 1))) ++
        closingLine depth name r)

theorem broken_linesOfAll (depth : Nat) (es : List Element) :
    broken (linesOfAll depth es) = es.flatMap fun e => broken (e.lines depth) := by
  induction es with
  | nil => rfl
  | cons e es ih => rw [linesOfAll, broken_append, ih, List.flatMap_cons]

theorem broken_lines_append (depth : Nat) (e : Element) (r : List Char) :
    broken (e.lines depth) ++ r =
      '\n' :: ((indentation depth).toList ++ '<' :: (e.name.toList ++ e.behindName depth r)) := by
  cases e with
  | text name content => simp [broken, lines, escape, behindName, Element.name]
  | single name attributes => simp [broken, lines, behindName, toList_tagContent, Element.name]
  | parent name attributes children =>
    rw [behindName, ← broken_linesOfAll]
    simp [broken, lines, toList_tagContent, Element.name, closingLine]

theorem stopsAt_behindName (depth : Nat) (e : Element) (r : List Char) :
    Text.StopsAt (isNameLetter · = false) (e.behindName depth r) := by
  cases e with
  | text => exact Text.stopsAt_cons rfl
  | single => exact stopsAt_writtenAttributes rfl
  | parent => exact stopsAt_writtenAttributes rfl

/-- An element below another has more blanks in front of it than the closing tag of that one. -/
theorem not_prefix_closingLine (depth : Nat) (e : Element) (name : String) (r : List Char) :
    ¬ broken (e.lines (depth + 1)) <+: closingLine depth name r := by
  rintro ⟨t, ht⟩
  have deeper : (indentation (depth + 1)).toList = (indentation depth).toList ++ [' ', ' '] := by
    simp only [indentation, String.toList_ofList]
    rw [Nat.mul_succ, List.replicate_succ', List.replicate_succ', List.append_assoc]
    rfl
  rw [broken_lines_append, closingLine, deeper, List.append_assoc] at ht
  have := List.append_cancel_left (List.cons.inj ht).2
  cases this

theorem closingLine_cancel {depth : Nat} {name : String}
    (h : closingLine depth name r = closingLine depth name s) : r = s := by
  simpa [closingLine] using h

theorem NamedBy.name_cancel (he : e.NamedBy texts) (hf : f.NamedBy texts) {depth : Nat}
    (h : broken (e.lines depth) ++ r = broken (f.lines depth) ++ s) :
    e.name = f.name ∧ e.behindName depth r = f.behindName depth s := by
  rw [broken_lines_append, broken_lines_append] at h
  have h := List.append_cancel_left (List.cons.inj h).2
  exact Xml.name_cancel he.isName hf.isName (stopsAt_behindName depth e r)
    (stopsAt_behindName depth f s) (List.cons.inj h).2

/-- An element ends where the writer ended it. -/
theorem NamedBy.cancel (he : e.NamedBy texts) (hf : f.NamedBy texts) {depth : Nat}
    (h : broken (e.lines depth) ++ r = broken (f.lines depth) ++ s) : e = f ∧ r = s := by
  obtain ⟨hname, hbehind⟩ := he.name_cancel hf h
  clear h
  induction he generalizing f depth r s with
  | @text name content hn ht =>
    cases hf with
    | @text _ content' =>
      obtain rfl : name = _ := hname
      have unopened (v : String) : '<' ∉ escapeChars v.toList := fun hv =>
        (mem_escapeChars hv).1 rfl
      obtain ⟨hcontent, hrest⟩ := Text.closed_cancel (unopened content) (unopened content')
        (List.cons.inj hbehind).2
      obtain rfl : content = content' := String.toList_injective (escapeChars_injective hcontent)
      exact ⟨rfl, by simpa using hrest⟩
    | single _ ht' =>
      obtain rfl : name = _ := hname
      exact absurd ht ht'
    | parent _ ht' =>
      obtain rfl : name = _ := hname
      exact absurd ht ht'
  | @single name attributes hn ht ha =>
    cases hf with
    | text _ ht' =>
      obtain rfl : name = _ := hname
      exact absurd ht' ht
    | single _ _ ha' =>
      obtain rfl : name = _ := hname
      obtain ⟨rfl, -, hrest⟩ := writtenAttributes_cancel ha ha' (by decide) (by decide) hbehind
      exact ⟨rfl, (List.cons.inj hrest).2⟩
    | parent _ _ ha' =>
      obtain ⟨-, hend, -⟩ := writtenAttributes_cancel ha ha' (by decide) (by decide) hbehind
      cases hend
  | @parent name attributes children hn ht ha hc ih =>
    cases hf with
    | text _ ht' =>
      obtain rfl : name = _ := hname
      exact absurd ht' ht
    | single _ _ ha' =>
      obtain ⟨-, hend, -⟩ := writtenAttributes_cancel ha ha' (by decide) (by decide) hbehind
      cases hend
    | @parent _ _ children' _ _ ha' hc' =>
      obtain rfl : name = _ := hname
      obtain ⟨rfl, -, hrest⟩ := writtenAttributes_cancel ha ha' (by decide) (by decide) hbehind
      have inside : ∀ e ∈ children, ∀ f ∈ children', ∀ r s,
          broken (e.lines (depth + 1)) ++ r = broken (f.lines (depth + 1)) ++ s →
            e = f ∧ r = s := by
        intro e he f hf r s h
        obtain ⟨hn, hb⟩ := (hc e he).name_cancel (hc' f hf) h
        exact ih e he (hc' f hf) hn hb
      obtain ⟨rfl, hclose⟩ := Text.flatMap_cancel inside
        (fun f _ => not_prefix_closingLine depth f name r)
        (fun e _ => not_prefix_closingLine depth e name s) hrest
      exact ⟨rfl, closingLine_cancel hclose⟩

theorem broken_lines (depth : Nat) (e : Element) :
    broken (e.lines depth) = '\n' :: ("\n".intercalate (e.lines depth)).toList := by
  obtain ⟨l, ls, hlines⟩ : ∃ l ls, e.lines depth = l :: ls := by
    cases e <;> exact ⟨_, _, rfl⟩
  rw [hlines, toList_intercalate_lines]
  rfl

/-- Elements with the same text are the same. -/
theorem NamedBy.eq_of_text_eq (he : e.NamedBy texts) (hf : f.NamedBy texts) {depth : Nat}
    (h : "\n".intercalate (e.lines depth) = "\n".intercalate (f.lines depth)) : e = f := by
  have written : broken (e.lines depth) ++ [] = broken (f.lines depth) ++ [] := by
    rw [broken_lines depth e, broken_lines depth f, h]
  exact (he.cancel hf written).1

end Element

end Eir.Xml
