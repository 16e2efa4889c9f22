import Eir.Ids.Summary
import Eir.Proofs.Xml.Tokens

/-!
# Reading elements

What a reader of documents makes of one element: a tag, what stands in it, and
the closing tag (`reads_parent`, `reads_text`). Most elements say nothing to the
reader (`Quiet`, `reads_quiet`): it looks at the texts of the header, at the tags
of specifications, and at the elements with names of facets that stand directly
below an applicability or the requirements.
-/

namespace Eir.DocumentSummary

open Xml (Element Tag Token)

namespace Reading

variable {r s t : Reading} {ts us : List Token} {name above : String}
  {attributes : List Xml.Attribute} {children : List Element}

/-! ## Runs of the reader -/

/-- Reading the tokens leads from one state to the other. -/
def Reads (r : Reading) (ts : List Token) (s : Reading) : Prop := ts.foldlM next r = .ok s

theorem Reads.nil : Reads r [] r := rfl

theorem Reads.cons {k : Token} (h : r.next k = .ok s) (h' : Reads s ts t) : Reads r (k :: ts) t := by
  unfold Reads
  rw [List.foldlM_cons, h]
  exact h'

theorem Reads.append (h : Reads r ts s) (h' : Reads s us t) : Reads r (ts ++ us) t := by
  unfold Reads
  rw [List.foldlM_append, h]
  exact h'

/-- The state inside of an element. -/
def within (r : Reading) (name : String) : Reading :=
  { r with openNames := name.toList :: r.openNames }

theorem path_within : (r.within name).path = Tag.localName name.toList :: r.path := rfl

theorem next_opening {rest : List Char} (h : r.element ⟨name.toList, rest⟩ = .ok s) :
    r.next (.opening ⟨name.toList, rest⟩) =
      .ok { s.within name with sawRoot := s.sawRoot || Tag.localName name.toList == "ids" } := by
  change (r.element ⟨name.toList, rest⟩ >>= _) = _
  rw [h]
  rfl

theorem next_closing (r : Reading) (name : String) :
    (r.within name).next (.closing name.toList) = .ok r := by
  change (if name.toList = name.toList then _ else _) = _
  rw [if_pos rfl]
  rfl

/-- What stands between the tags of an element that is no document. -/
theorem reads_between {rest : List Char} (hids : Tag.localName name.toList ≠ "ids")
    (begins : r.element ⟨name.toList, rest⟩ = .ok s)
    (inside : Reads (s.within name) ts (t.within name)) :
    Reads r (.opening ⟨name.toList, rest⟩ :: (ts ++ [.closing name.toList])) t := by
  have hopen := next_opening begins
  rw [beq_eq_false_iff_ne.mpr hids, Bool.or_false] at hopen
  exact Reads.cons hopen (inside.append (Reads.cons (next_closing t name) Reads.nil))

theorem reads_parent (hids : Tag.localName name.toList ≠ "ids")
    (begins : r.element ⟨name.toList, Xml.writtenAttributes attributes⟩ = .ok s)
    (inside : Reads (s.within name) (Element.tokensOfAll children) (t.within name)) :
    Reads r (Element.tokens (.parent name attributes children)) t := by
  have lineBreak : Reads (t.within name) [.other] (t.within name) := Reads.cons rfl Reads.nil
  have between := reads_between hids begins (inside.append lineBreak)
  rw [List.append_assoc] at between
  exact Reads.cons rfl between

theorem reads_text {content : String} (hids : Tag.localName name.toList ≠ "ids")
    (begins : r.element ⟨name.toList, []⟩ = .ok s)
    (inside : Reads (s.within name) (Element.textTokens content) (t.within name)) :
    Reads r (Element.tokens (.text name content)) t :=
  Reads.cons rfl (reads_between hids begins inside)

theorem tokensOfAll_append (es fs : List Element) :
    Element.tokensOfAll (es ++ fs) = Element.tokensOfAll es ++ Element.tokensOfAll fs := by
  induction es with
  | nil => rfl
  | cons e es ih => rw [List.cons_append, Element.tokensOfAll, Element.tokensOfAll, ih,
      List.append_assoc]

/-- Elements that each leave the state as it is do so together. -/
theorem reads_all (h : ∀ e ∈ children, Reads r e.tokens r) :
    Reads r (Element.tokensOfAll children) r := by
  induction children with
  | nil => exact Reads.nil
  | cons e es ih =>
    exact (h e List.mem_cons_self).append (ih fun e he => h e (List.mem_cons_of_mem _ he))

/-! ## Elements that say nothing -/

/-- The tag says nothing below an element with the local name `above`. -/
def Unnoticed (above name : String) : Prop :=
  name ∉ ["ids", "specification"] ∧
    (name ∈ facetNames → above ≠ "applicability" ∧ above ≠ "requirements")

instance (above name : String) : Decidable (Unnoticed above name) :=
  inferInstanceAs (Decidable (_ ∧ _))

/-- The element says nothing below one with the local name `above`. -/
inductive Quiet : String → Element → Prop
  | text {above name content : String} (h : Unnoticed above (Tag.localName name.toList))
      (hinfo : above ≠ "info") : Quiet above (.text name content)
  | single {above name : String} {attributes : List Xml.Attribute}
      (h : Unnoticed above (Tag.localName name.toList)) : Quiet above (.single name attributes)
  | parent {above name : String} {attributes : List Xml.Attribute} {children : List Element}
      (h : Unnoticed above (Tag.localName name.toList))
      (hc : ∀ e ∈ children, Quiet (Tag.localName name.toList) e) :
      Quiet above (.parent name attributes children)

theorem Unnoticed.ne_ids (h : Unnoticed above name) : name ≠ "ids" := fun he =>
  h.1 (he ▸ List.mem_cons_self)

/-- A tag that begins no specification only counts as a facet. -/
theorem element_of_ne {rest : List Char} (h : Tag.localName name.toList ≠ "specification") :
    r.element ⟨name.toList, rest⟩ = .ok (r.countFacet (Tag.localName name.toList)) := by
  unfold element
  rw [if_neg h]
  rfl

theorem countFacet_of_not_mem (h : name ∉ facetNames) : r.countFacet name = r := by
  unfold countFacet
  split
  · rfl
  · rw [if_pos (by simpa using h)]

/-- A tag that begins a specification. -/
theorem element_of_eq {rest : List Char} {found : SpecificationSummary}
    (hname : Tag.localName name.toList = "specification")
    (h : SpecificationSummary.ofTag ⟨name.toList, rest⟩ = .ok found) :
    r.element ⟨name.toList, rest⟩ = .ok { r with reversed := found :: r.reversed } := by
  have noFacet (r : Reading) : r.countFacet "specification" = r :=
    countFacet_of_not_mem (by decide)
  unfold element
  rw [if_pos hname, h, hname]
  exact congrArg Except.ok (noFacet _)

theorem Unnoticed.countFacet (h : Unnoticed above name) (hr : r.path.head? = some above) :
    r.countFacet name = r := by
  by_cases hf : name ∈ facetNames
  · obtain ⟨ha, hq⟩ := h.2 hf
    unfold Reading.countFacet
    split
    · rfl
    · rw [if_neg (by simpa using hf), hr]
      split
      · exact absurd (Option.some.inj ‹_›) ha
      · exact absurd (Option.some.inj ‹_›) hq
      · rfl
  · exact countFacet_of_not_mem hf

theorem Unnoticed.element {rest : List Char} (h : Unnoticed above (Tag.localName name.toList))
    (hr : r.path.head? = some above) : r.element ⟨name.toList, rest⟩ = .ok r := by
  rw [element_of_ne fun he => h.1 (he ▸ List.mem_cons_of_mem _ List.mem_cons_self),
    h.countFacet hr]

/-- Outside of a header a text is passed over. -/
theorem next_textToken_of_ne {content : List Char} (hr : r.path.head? = some above)
    (h : above ≠ "info") : (r.within name).next (Xml.textToken content) = .ok (r.within name) := by
  unfold Xml.textToken
  split
  · rfl
  · change Reading.text _ _ = _
    unfold Reading.text
    rw [path_within]
    split
    · rename_i he
      rw [(List.cons.inj he).2, List.head?_cons] at hr
      exact absurd (Option.some.inj hr).symm h
    · rfl

/-- A quiet element leaves the reader as it was. -/
theorem reads_quiet {e : Element} (h : Quiet above e) (hr : r.path.head? = some above) :
    Reads r e.tokens r := by
  induction h generalizing r with
  | text h hinfo =>
    refine reads_text h.ne_ids (h.element hr) ?_
    unfold Element.textTokens
    split
    · exact Reads.nil
    · exact Reads.cons (next_textToken_of_ne hr hinfo) Reads.nil
  | single h => exact Reads.cons rfl (Reads.cons (h.element hr) Reads.nil)
  | parent h _ ih =>
    exact reads_parent h.ne_ids (h.element hr)
      (reads_all fun e he => ih e he (by rw [path_within]; rfl))

end Reading

end Eir.DocumentSummary
