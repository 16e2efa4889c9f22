import Eir.Proofs.Ids.ReadBack

/-!
# Documents that are accepted

A model checker accepts a document that has a title, and in which each specification
has a name, a version of the schema and something that it applies to. The document of
a group is read back whatever texts are in its header (`SpecGroup.exists_read_document`),
and it is accepted if the name of the group is more than blanks and the rules are
`Acceptable` (`SpecGroup.Acceptable.accepted`).
-/

namespace Eir

open Xml (Element Tag Token)

/-! ## What is accepted -/

/-- The rule has a name, and says in which schemas and to which objects it applies. -/
structure Specification.Acceptable (s : Specification) : Prop where
  name : s.name ≠ ""
  dialects : s.dialects ≠ []
  applicability : s.applicability.facets ≠ []

/-- There is more to the name than blanks. -/
def Titled (name : String) : Prop := ∃ c ∈ name.toList, Xml.isBlank c = false

instance (name : String) : Decidable (Titled name) :=
  decidable_of_iff (name.toList.any (!Xml.isBlank ·) = true) <| by
    simp only [Titled, List.any_eq_true, Bool.not_eq_true']

/-- The group has a title, and its rules can be accepted. -/
structure SpecGroup.Acceptable (g : SpecGroup) : Prop where
  titled : Titled g.name
  rules : ∀ s ∈ g.specifications, s.Acceptable

/-- The specification has a name, a version of the schema and a facet that selects objects. -/
structure SpecificationSummary.Accepted (s : SpecificationSummary) : Prop where
  name : s.name ≠ ""
  ifcVersions : s.ifcVersions ≠ []
  applicability : s.applicabilityFacets ≠ 0

/-- The document has a title, and its specifications are accepted. -/
structure DocumentSummary.Accepted (d : DocumentSummary) : Prop where
  title : d.title ≠ ""
  specifications : ∀ s ∈ d.specifications, s.Accepted

/-- The text is a document that is accepted. -/
def IsAccepted (content : String) : Prop :=
  ∃ d, DocumentSummary.read content = .ok d ∧ d.Accepted

theorem SpecificationSummary.problems_eq_nil {s : SpecificationSummary} :
    s.problems = [] ↔ s.Accepted := by
  have hfields : s.Accepted ↔ s.name ≠ "" ∧ s.ifcVersions ≠ [] ∧ s.applicabilityFacets ≠ 0 :=
    ⟨fun ⟨hname, hversions, hfacets⟩ => ⟨hname, hversions, hfacets⟩,
      fun ⟨hname, hversions, hfacets⟩ => ⟨hname, hversions, hfacets⟩⟩
  rw [hfields]
  simp [problems]

/-- A document is accepted just when nothing is wrong with it. -/
theorem DocumentSummary.problems_eq_nil {d : DocumentSummary} : d.problems = [] ↔ d.Accepted := by
  have hfields : d.Accepted ↔ d.title ≠ "" ∧ ∀ s ∈ d.specifications, s.Accepted :=
    ⟨fun ⟨htitle, hspecifications⟩ => ⟨htitle, hspecifications⟩,
      fun ⟨htitle, hspecifications⟩ => ⟨htitle, hspecifications⟩⟩
  rw [hfields]
  simp [problems, SpecificationSummary.problems_eq_nil]

theorem Specification.Acceptable.summary {s : Specification} (h : s.Acceptable) :
    s.summary.Accepted where
  name := h.name
  ifcVersions := by simpa [Specification.summary] using h.dialects
  applicability := by simpa [Specification.summary] using h.applicability

/-! ## Headers with any texts -/

namespace DocumentSummary

open Reading

variable {r s : Reading}

theorem putTrimmed_within (r : Reading) (element name content : String) :
    putTrimmed (r.within element) name content = (putTrimmed r name content).within element := by
  unfold putTrimmed put
  split
  · rfl
  · split <;> rfl

theorem putAll_within (r : Reading) (element : String) (ps : List (String × String)) :
    putAll (r.within element) ps = (putAll r ps).within element := by
  induction ps generalizing r with
  | nil => rfl
  | cons p ps ih =>
    rw [putAll, putAll, List.foldl_cons, List.foldl_cons, putTrimmed_within]
    exact ih _

/-- The texts of the header are kept one after the other, the title first. -/
def putHeader (r : Reading) (m : GroupMetadata) : Reading :=
  putAll (putTrimmed r "title" m.name) m.optionalTexts

/-- The texts that need not be there have other names than the title, all read as header. -/
theorem optionalTexts_names (m : GroupMetadata) : ∀ p ∈ m.optionalTexts,
    isHeaderName p.1 ∧ Tag.localName p.1.toList ≠ "title" := by
  have names : ∀ name ∈ m.optionalTexts.map Prod.fst,
      isHeaderName name ∧ Tag.localName name.toList ≠ "title" := by
    show ∀ name ∈ ["ids:copyright", "ids:version", "ids:description", "ids:author", "ids:date",
      "ids:purpose", "ids:milestone"], isHeaderName name ∧ Tag.localName name.toList ≠ "title"
    decide
  exact fun p hp => names _ (List.mem_map_of_mem hp)

/-- The header is read whatever its texts are. -/
theorem reads_infoElement (r : Reading) (m : GroupMetadata) :
    Reads r m.infoElement.tokens (putHeader r m) := by
  have title := reads_header (r := r.within "ids:info") "ids:title" m.name (by decide) rfl
  rw [show Tag.localName "ids:title".toList = "title" from rfl, putTrimmed_within] at title
  have others := reads_headers m.optionalTexts (fun p hp => (optionalTexts_names m p hp).1)
    (r := (putTrimmed r "title" m.name).within "ids:info") rfl
  rw [putAll_within] at others
  rw [m.infoElement_eq]
  refine reads_parent (s := r) (by decide) ?_ (title.append others)
  rw [element_of_ne (by decide), countFacet_of_not_mem (by decide)]

/-- Only texts of the header differ. -/
structure SameBesideHeader (r s : Reading) : Prop where
  openNames : s.openNames = r.openNames
  sawRoot : s.sawRoot = r.sawRoot
  reversed : s.reversed = r.reversed

theorem same_putTrimmed (r : Reading) (name content : String) :
    SameBesideHeader r (putTrimmed r name content) := by
  unfold putTrimmed put
  split
  · exact ⟨rfl, rfl, rfl⟩
  · split <;> exact ⟨rfl, rfl, rfl⟩

theorem same_putAll (r : Reading) (ps : List (String × String)) :
    SameBesideHeader r (putAll r ps) := by
  induction ps generalizing r with
  | nil => exact ⟨rfl, rfl, rfl⟩
  | cons p ps ih =>
    have hfirst := same_putTrimmed r (Tag.localName p.1.toList) p.2
    have hrest := ih (putTrimmed r (Tag.localName p.1.toList) p.2)
    exact ⟨hrest.openNames.trans hfirst.openNames, hrest.sawRoot.trans hfirst.sawRoot,
      hrest.reversed.trans hfirst.reversed⟩

theorem same_putHeader (r : Reading) (m : GroupMetadata) :
    SameBesideHeader r (putHeader r m) := by
  have hfirst := same_putTrimmed r "title" m.name
  have hrest := same_putAll (putTrimmed r "title" m.name) m.optionalTexts
  exact ⟨hrest.openNames.trans hfirst.openNames, hrest.sawRoot.trans hfirst.sawRoot,
    hrest.reversed.trans hfirst.reversed⟩

theorem title_putTrimmed {name : String} (hname : name ≠ "title") (r : Reading)
    (content : String) : (putTrimmed r name content).title = r.title := by
  unfold putTrimmed put
  split
  · rfl
  · split
    · exact absurd rfl hname
    · rfl
    · rfl
    · rfl

theorem title_putAll {ps : List (String × String)}
    (h : ∀ p ∈ ps, Tag.localName p.1.toList ≠ "title") (r : Reading) :
    (putAll r ps).title = r.title := by
  induction ps generalizing r with
  | nil => rfl
  | cons p ps ih =>
    have hrest := ih (fun q hq => h q (List.mem_cons_of_mem p hq))
      (putTrimmed r (Tag.localName p.1.toList) p.2)
    exact hrest.trans (title_putTrimmed (h p List.mem_cons_self) r p.2)

/-- What else is in the header does not change the title. -/
theorem title_putHeader (r : Reading) (m : GroupMetadata) :
    (putHeader r m).title = (putTrimmed r "title" m.name).title :=
  title_putAll (fun p hp => (optionalTexts_names m p hp).2) _

/-! ## Groups -/

/-- The state behind a document, whatever the texts of its header are. -/
def readAnyGroup (g : SpecGroup) : Reading :=
  { putHeader { start with sawRoot := true } g.metadata with
    reversed := (g.specifications.map (·.summary)).reverse }

theorem reads_groupElement (g : SpecGroup) : Reads start g.element.tokens (readAnyGroup g) := by
  have opened : start.next (.opening ⟨"ids:ids".toList,
      Xml.writtenAttributes SpecGroup.namespaces⟩) =
      .ok (Reading.within { start with sawRoot := true } "ids:ids") := by
    rw [next_opening (s := start)]
    · rfl
    · rw [element_of_ne (by decide), countFacet_of_not_mem (by decide)]
  have info := reads_infoElement (Reading.within { start with sawRoot := true } "ids:ids")
    g.metadata
  have same := same_putHeader { start with sawRoot := true } g.metadata
  have within : putHeader (Reading.within { start with sawRoot := true } "ids:ids") g.metadata =
      (putHeader { start with sawRoot := true } g.metadata).within "ids:ids" := by
    rw [putHeader, putTrimmed_within, putAll_within]
    rfl
  have specifications := reads_specificationsElement g.specifications
    (r := (putHeader { start with sawRoot := true } g.metadata).within "ids:ids")
  have reversed : ((putHeader { start with sawRoot := true } g.metadata).within
      "ids:ids").reversed = [] := same.reversed
  rw [reversed, List.append_nil] at specifications
  rw [within] at info
  exact Reads.cons rfl (Reads.cons opened (Reads.append (s := (readAnyGroup g).within "ids:ids")
    (info.append (specifications.append Reads.nil))
    (Reads.cons rfl (Reads.cons (next_closing (readAnyGroup g) "ids:ids") Reads.nil))))

end DocumentSummary

open DocumentSummary in
/-- A document is read as what the reader knows behind its element. -/
theorem SpecGroup.read_of_reads {g : SpecGroup} {r : Reading}
    (h : Reading.Reads .start g.element.tokens r) (hroot : r.sawRoot = true) :
    DocumentSummary.read g.document = .ok r.summary := by
  have first : ∃ rest, g.document.toList = '<' :: rest := by
    refine ⟨Xml.declaration.toList.tail ++ Element.broken (g.element.lines 0), ?_⟩
    rw [SpecGroup.document, Xml.toList_document]
    rfl
  obtain ⟨rest, hrest⟩ := first
  have whole : (Xml.tokens g.document.toList >>= (·.foldlM Reading.next .start)) = .ok r := by
    have behind : Reading.Reads .start (.other :: g.element.tokens) r := Reading.Reads.cons rfl h
    rw [SpecGroup.document, Xml.tokens_document g.wellNamed]
    exact behind
  -- The document begins with a bracket, so there is no mark in front of it.
  rw [hrest] at whole
  unfold DocumentSummary.read
  rw [hrest]
  split
  · rename_i he
    exact absurd (List.cons.inj he).1 (by decide)
  · simp only [whole, hroot, if_true]

theorem Xml.trimmed_ne_nil {cs : List Char} (h : ∃ c ∈ cs, isBlank c = false) :
    trimmed cs ≠ [] := by
  obtain ⟨c, hc, hblank⟩ := h
  have hfront : ∃ c ∈ cs.dropWhile isBlank, isBlank c = false := by
    induction cs with
    | nil => cases hc
    | cons x xs ih =>
      rw [List.dropWhile_cons]
      split
      · rename_i hx
        refine ih ((List.mem_cons.mp hc).resolve_left ?_)
        rintro rfl
        rw [hx] at hblank
        cases hblank
      · exact ⟨c, hc, hblank⟩
  intro hnil
  rw [trimmed, Text.dropEndWhile, List.reverse_eq_nil_iff, List.dropWhile_eq_nil_iff] at hnil
  obtain ⟨x, hx, hkept⟩ := hfront
  rw [hnil x (List.mem_reverse.mpr hx)] at hkept
  cases hkept

open DocumentSummary in
/-- The document of a group is read back with its rules, and with a title if the group has one. -/
theorem SpecGroup.exists_read_document (g : SpecGroup) :
    ∃ d, DocumentSummary.read g.document = .ok d ∧
      d.specifications = g.specifications.map (·.summary) ∧ (Titled g.name → d.title ≠ "") := by
  have same := same_putHeader { Reading.start with sawRoot := true } g.metadata
  refine ⟨(readAnyGroup g).summary, read_of_reads (reads_groupElement g) same.sawRoot,
    List.reverse_reverse _, fun htitled => ?_⟩
  have htrimmed : Xml.trimmed g.metadata.name.toList ≠ [] := Xml.trimmed_ne_nil htitled
  have htitle : (readAnyGroup g).summary.title =
      String.ofList (Xml.trimmed g.metadata.name.toList) := by
    show (putHeader _ g.metadata).title = _
    rw [title_putHeader, putTrimmed, if_neg htrimmed, put]
  rw [htitle]
  intro hempty
  exact htrimmed (by simpa using congrArg String.toList hempty)

/-- A group that can be accepted has a document that is. -/
theorem SpecGroup.Acceptable.accepted {g : SpecGroup} (h : g.Acceptable) :
    IsAccepted g.document := by
  obtain ⟨d, hread, hspecs, htitle⟩ := g.exists_read_document
  refine ⟨d, hread, htitle h.titled, ?_⟩
  rw [hspecs]
  intro s hs
  obtain ⟨spec, hspec, rfl⟩ := List.mem_map.mp hs
  exact (h.rules spec hspec).summary

end Eir
