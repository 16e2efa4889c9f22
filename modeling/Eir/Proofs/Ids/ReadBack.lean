import Eir.Proofs.Ids.Elements
import Eir.Proofs.Ids.Reading

/-!
# Reading back what was written

A written group of specifications reads back as the summary of the group
(`read_document`). The reader counts each facet once, also one that holds an
element with the name of a facet (`reads_facets`), finds the attributes of a
specification behind its tag (`ofTag_element`), and keeps three texts of the
header (`reads_header`).
-/

namespace Eir

open Xml (Element Tag Token)

namespace DocumentSummary

open Reading

variable {r : Reading} {above : String} {e : Element} {s : SpecificationSummary}
  {before : List SpecificationSummary}

/-! ## Facets -/

theorem unnoticed_of_not_mem {name : String} (hids : name ∉ ["ids", "specification"])
    (hf : name ∉ facetNames) : Unnoticed above name := ⟨hids, fun h => absurd h hf⟩

theorem quiet_constraint (c : Constraint) (h : above ≠ "info") : Quiet above c.element := by
  obtain ⟨v, hv⟩ | ⟨base, rules, hr, hnames⟩ := c.element_cases
  · rw [hv]
    exact .text (unnoticed_of_not_mem (by decide) (by decide)) h
  · rw [hr]
    refine .parent (unnoticed_of_not_mem (by decide) (by decide)) fun e he => ?_
    obtain ⟨p, hp, rfl⟩ := List.mem_map.mp he
    have names : ∀ name ∈ ruleNames, Unnoticed (Tag.localName "xs:restriction".toList)
        (Tag.localName name.toList) := by decide
    exact .single (names _ (hnames p hp))

theorem quiet_part (h : IsPart e) : Quiet above e := by
  obtain ⟨c, name, hn, rfl⟩ := h
  have names : ∀ name ∈ partNames, Tag.localName name.toList ∉ ["ids", "specification"] ∧
      Tag.localName name.toList ∉ facetNames ∧ Tag.localName name.toList ≠ "info" := by decide
  obtain ⟨hids, hf, hinfo⟩ := names name hn
  refine .parent (unnoticed_of_not_mem hids hf) fun e he => ?_
  obtain rfl := List.mem_singleton.mp he
  exact quiet_constraint c hinfo

end DocumentSummary

namespace SpecificationSummary

/-- With so many more facets below the element with that local name. -/
def withFacets (s : SpecificationSummary) (above : String) (n : Nat) : SpecificationSummary :=
  if above = "applicability" then { s with applicabilityFacets := s.applicabilityFacets + n }
  else { s with requirementFacets := s.requirementFacets + n }

theorem withFacets_zero (s : SpecificationSummary) (above : String) :
    s.withFacets above 0 = s := by
  unfold withFacets
  split <;> rfl

theorem withFacets_withFacets (s : SpecificationSummary) (above : String) (m n : Nat) :
    (s.withFacets above m).withFacets above n = s.withFacets above (m + n) := by
  unfold withFacets
  split
  · simp only [Nat.add_assoc]
  · simp only [Nat.add_assoc]

end SpecificationSummary

namespace DocumentSummary

open Reading

variable {r : Reading} {above : String} {e : Element} {s : SpecificationSummary}
  {before : List SpecificationSummary}

/-- The elements that facets stand in. -/
def sections : List String := ["applicability", "requirements"]

theorem countFacet_of_mem {name : String} (hn : name ∈ facetNames) (habove : above ∈ sections)
    (hr : r.path.head? = some above) (hs : r.reversed = s :: before) :
    r.countFacet name = { r with reversed := s.withFacets above 1 :: before } := by
  unfold countFacet
  rw [hs]
  simp only []
  rw [if_neg (by simpa using hn), hr]
  simp only [sections, List.mem_cons, List.not_mem_nil, or_false] at habove
  obtain rfl | rfl := habove
  · rfl
  · rfl

/-- A facet counts once, whatever stands in it. -/
theorem reads_facet (f : Facet) (c : Option RequirementCardinality) (habove : above ∈ sections)
    (hr : r.path.head? = some above) (hs : r.reversed = s :: before) :
    Reads r (f.element c).tokens { r with reversed := s.withFacets above 1 :: before } := by
  obtain ⟨name, attributes, children, he, hn, -, hc⟩ := f.element_cases c
  have names : ∀ name ∈ facetTags, Tag.localName name.toList ∈ facetNames ∧
      Tag.localName name.toList ≠ "ids" ∧ Tag.localName name.toList ≠ "specification" := by decide
  obtain ⟨hf, hids, hspec⟩ := names name hn
  rw [he]
  refine reads_parent hids (element_of_ne hspec) ?_
  rw [countFacet_of_mem hf habove hr hs]
  refine reads_all fun e h => ?_
  have quiet : Quiet (Tag.localName name.toList) e := by
    obtain hc | ⟨rfl, part, hpart, rfl⟩ := hc
    · exact quiet_part (hc e h)
    -- the entity of a whole stands below a `partOf`, so it does not count
    · obtain rfl := List.mem_singleton.mp h
      refine .parent (by decide) fun e h => ?_
      obtain rfl := List.mem_singleton.mp h
      exact quiet_part hpart
  exact reads_quiet quiet rfl

theorem reads_facets (fs : List (Facet × Option RequirementCardinality))
    (habove : above ∈ sections) (hr : r.path.head? = some above) (hs : r.reversed = s :: before) :
    Reads r (Element.tokensOfAll (fs.map fun p => p.1.element p.2))
      { r with reversed := s.withFacets above fs.length :: before } := by
  induction fs generalizing r s with
  | nil =>
    rw [List.length_nil, SpecificationSummary.withFacets_zero, ← hs]
    exact Reads.nil
  | cons p fs ih =>
    have first := reads_facet p.1 p.2 habove hr hs
    have others := ih (r := { r with reversed := s.withFacets above 1 :: before }) hr rfl
    rw [SpecificationSummary.withFacets_withFacets, Nat.add_comm] at others
    exact first.append others

/-- An element that facets stand in. -/
theorem reads_section (name : String) (attributes : List Xml.Attribute)
    (fs : List (Facet × Option RequirementCardinality))
    (hname : Tag.localName name.toList ∈ sections) (hs : r.reversed = s :: before) :
    Reads r (Element.tokens (.parent name attributes (fs.map fun p => p.1.element p.2)))
      { r with
        reversed := s.withFacets (Tag.localName name.toList) fs.length :: before } := by
  have names : ∀ name ∈ sections, name ∉ facetNames ∧ name ≠ "ids" ∧ name ≠ "specification" := by
    decide
  obtain ⟨hf, hids, hspec⟩ := names _ hname
  refine reads_parent (s := r) hids ?_ (reads_facets fs hname rfl hs)
  rw [element_of_ne hspec, countFacet_of_not_mem hf]

end DocumentSummary

/-! ## Specifications -/

namespace Text

variable {p : Char → Bool}

theorem partsFrom_append {cs : List Char} (h : ∀ c ∈ cs, p c = false) (part rest : List Char) :
    partsFrom p part (cs ++ rest) = partsFrom p (cs.reverse ++ part) rest := by
  induction cs generalizing part with
  | nil => rfl
  | cons c cs ih =>
    rw [List.cons_append, partsFrom, if_neg (by simp [h c List.mem_cons_self]),
      ih fun x hx => h x (List.mem_cons_of_mem _ hx), List.reverse_cons, List.append_assoc,
      List.singleton_append]

/-- Words without blanks, joined by blanks, are the words of the text. -/
theorem words_intercalate {ws : List String}
    (h : ∀ w ∈ ws, w.toList ≠ [] ∧ ∀ c ∈ w.toList, isBlank c = false) :
    words (" ".intercalate ws) = ws := by
  have joined (w : String) (ws : List String)
      (h : ∀ v ∈ w :: ws, v.toList ≠ [] ∧ ∀ c ∈ v.toList, isBlank c = false) :
      partsFrom isBlank [] (" ".intercalate (w :: ws)).toList = (w :: ws).map String.toList := by
    induction ws generalizing w with
    | nil =>
      obtain ⟨hne, hw⟩ := h w List.mem_cons_self
      have last := partsFrom_append hw [] []
      rw [List.append_nil] at last
      rw [String.intercalate_singleton, last]
      simp [partsFrom, hne]
    | cons v ws ih =>
      obtain ⟨hne, hw⟩ := h w List.mem_cons_self
      have others := ih v fun x hx => h x (List.mem_cons_of_mem _ hx)
      rw [String.intercalate_cons_cons, String.toList_append, String.toList_append,
        List.append_assoc, partsFrom_append hw]
      show partsFrom isBlank (w.toList.reverse ++ [])
        (' ' :: (" ".intercalate (v :: ws)).toList) = _
      rw [partsFrom, if_pos (by decide), others]
      simp [hne]
  cases ws with
  | nil => rfl
  | cons w ws =>
    unfold words parts
    rw [joined w ws h, List.map_map]
    simp [Function.comp_def]

end Text

/-- What a specification looks like in a document. -/
def Specification.summary (s : Specification) : SpecificationSummary where
  name := s.name
  identifier := some s.identifier
  ifcVersions := s.dialects.map (·.name)
  applicabilityFacets := s.applicability.facets.length
  requirementFacets := s.requirement.facets.length

/-- A text that need not be there: none if it is empty. -/
def optionalValue (value : String) : Option String := if value.isEmpty then none else some value

/-- What a group looks like in a document. -/
def SpecGroup.summary (g : SpecGroup) : DocumentSummary where
  title := g.metadata.name
  version := optionalValue g.metadata.version
  milestone := optionalValue g.metadata.milestone
  specifications := g.specifications.map (·.summary)

theorem Dialect.words_names (ds : List Dialect) :
    Text.words (" ".intercalate (ds.map (·.name))) = ds.map (·.name) := by
  refine Text.words_intercalate fun w hw => ?_
  obtain ⟨d, -, rfl⟩ := List.mem_map.mp hw
  have letters : d.name.toList ≠ [] ∧ d.name.toList.any Text.isBlank = false := by
    cases d <;> decide
  exact ⟨letters.1, fun c hc => by simpa using List.any_eq_false.mp letters.2 c hc⟩

namespace DocumentSummary

open Reading

variable {r : Reading}

/-- What the tag of a specification tells of it: no facet has been counted. -/
def tagSummary (s : Specification) : SpecificationSummary :=
  { s.summary with applicabilityFacets := 0, requirementFacets := 0 }

/-- The attributes of a specification are found behind its tag. -/
theorem ofTag_written (s : Specification) (name : List Char) {others : List Xml.Attribute}
    (h : ∀ a ∈ [("name", s.name), ("ifcVersion", " ".intercalate (s.dialects.map (·.name))),
      ("identifier", s.identifier)] ++ others, Xml.IsName a.1) :
    SpecificationSummary.ofTag ⟨name, Xml.writtenAttributes
      ([("name", s.name), ("ifcVersion", " ".intercalate (s.dialects.map (·.name))),
        ("identifier", s.identifier)] ++ others)⟩ = .ok (tagSummary s) := by
  unfold SpecificationSummary.ofTag
  simp only [Xml.attribute?_written h]
  show Except.ok (SpecificationSummary.mk s.name (some s.identifier)
    (Text.words (" ".intercalate (s.dialects.map (·.name)))) 0 0) = _
  rw [Dialect.words_names]
  rfl

theorem reads_applicability (s : Specification) {t : SpecificationSummary}
    {before : List SpecificationSummary} (hr : r.reversed = t :: before) :
    Reads r s.applicabilityElement.tokens
      { r with
        reversed := t.withFacets "applicability" s.applicability.facets.length :: before } := by
  have facets : s.applicability.facets.map (·.element none) =
      (s.applicability.facets.map (·, none)).map fun p => p.1.element p.2 := by
    rw [List.map_map]
    rfl
  have standing := reads_section "ids:applicability"
    [("minOccurs", s.cardinality.occurs.1), ("maxOccurs", s.cardinality.occurs.2)]
    (s.applicability.facets.map (·, none)) (by decide) hr
  rw [← facets, List.length_map] at standing
  exact standing

theorem reads_requirements (g : FacetGroup) {t : SpecificationSummary}
    {before : List SpecificationSummary} (hr : r.reversed = t :: before) :
    Reads r g.requirementsElement.tokens
      { r with reversed := t.withFacets "requirements" g.facets.length :: before } := by
  have facets : g.entries.map (fun p => p.1.element (some p.2)) =
      (g.entries.map fun p => (p.1, some p.2)).map fun p => p.1.element p.2 := by
    rw [List.map_map]
    rfl
  have standing := reads_section "ids:requirements"
    (attributeIfAny "description" g.description)
    (g.entries.map fun p => (p.1, some p.2)) (by decide) hr
  rw [← facets, List.length_map, g.length_entries] at standing
  exact standing

/-- A specification is read as its summary. -/
theorem reads_specification (s : Specification) :
    Reads r s.element.tokens { r with reversed := s.summary :: r.reversed } := by
  have names := s.wellNamed_element.isName_attributes
  refine reads_parent (s := { r with reversed := tagSummary s :: r.reversed }) (by decide) ?_ ?_
  · refine element_of_eq (by decide) ?_
    rw [List.append_assoc] at names ⊢
    exact ofTag_written s _ names
  · refine (reads_applicability s rfl).append ?_
    split
    · rename_i hempty
      have none : s.requirement.facets = [] := List.isEmpty_iff.mp hempty
      have summary : (tagSummary s).withFacets "applicability" s.applicability.facets.length =
          s.summary := by
        simp [SpecificationSummary.withFacets, tagSummary, Specification.summary, none]
      rw [summary]
      exact Reads.nil
    · have summary : ((tagSummary s).withFacets "applicability"
            s.applicability.facets.length).withFacets "requirements"
              s.requirement.facets.length = s.summary := by
        simp [SpecificationSummary.withFacets, tagSummary, Specification.summary]
      have requirements := (reads_requirements s.requirement (r := { Reading.within
        { r with reversed := tagSummary s :: r.reversed } "ids:specification" with
        reversed := (tagSummary s).withFacets "applicability"
          s.applicability.facets.length :: r.reversed }) rfl).append Reads.nil
      rw [summary] at requirements
      exact requirements

theorem reads_specifications (ss : List Specification) :
    Reads r (Element.tokensOfAll (ss.map (·.element)))
      { r with reversed := (ss.map (·.summary)).reverse ++ r.reversed } := by
  induction ss generalizing r with
  | nil => exact Reads.nil
  | cons s ss ih =>
    have others := ih (r := { r with reversed := s.summary :: r.reversed })
    rw [List.map_cons, List.map_cons, List.reverse_cons, List.append_assoc]
    exact (reads_specification s).append others

/-- The element that the specifications stand in. -/
theorem reads_specificationsElement (ss : List Specification) :
    Reads r (Element.tokens (.parent "ids:specifications" [] (ss.map (·.element))))
      { r with reversed := (ss.map (·.summary)).reverse ++ r.reversed } := by
  refine reads_parent (s := r) (by decide) ?_ (reads_specifications ss)
  rw [element_of_ne (by decide), countFacet_of_not_mem (by decide)]

/-! ## The header -/

/-- Keeps a text of the header that stands in an element with that local name. -/
def put (r : Reading) (name value : String) : Reading :=
  match name with
  | "title" => { r with title := value }
  | "version" => { r with version := some value }
  | "milestone" => { r with milestone := some value }
  | _ => r

/-- Keeps a text without the blanks at its ends, if there is more than blanks. -/
def putTrimmed (r : Reading) (name content : String) : Reading :=
  if Xml.trimmed content.toList = [] then r
  else put r name (String.ofList (Xml.trimmed content.toList))

theorem path_putTrimmed (name content : String) : (putTrimmed r name content).path = r.path := by
  unfold putTrimmed put
  split
  · rfl
  · split <;> rfl

/-- The header is not read for anything else than its texts. -/
def isHeaderName (name : String) : Prop :=
  Tag.localName name.toList ∉ "ids" :: "specification" :: facetNames

instance (name : String) : Decidable (isHeaderName name) := inferInstanceAs (Decidable (_ ∉ _))

theorem next_text {name : String} {cs : List Char} (hr : r.path.head? = some "info") :
    (r.within name).next (.text (Xml.escapeChars cs)) =
      .ok ((put r (Tag.localName name.toList) (String.ofList cs)).within name) := by
  obtain ⟨outer, hpath⟩ : ∃ outer, r.path = "info" :: outer := by
    cases h : r.path with
    | nil =>
      rw [h] at hr
      cases hr
    | cons n outer =>
      rw [h] at hr
      exact ⟨outer, by rw [Option.some.inj hr]⟩
  show Reading.text _ _ = _
  unfold Reading.text put
  rw [path_within, hpath]
  simp only [Xml.unescapeChars?_escapeChars]
  generalize Tag.localName name.toList = element
  by_cases htitle : element = "title"
  · rw [htitle]
    rfl
  by_cases hversion : element = "version"
  · rw [hversion]
    rfl
  by_cases hmilestone : element = "milestone"
  · rw [hmilestone]
    rfl
  · simp only []

theorem reads_header (name content : String) (hname : isHeaderName name)
    (hr : r.path.head? = some "info") :
    Reads r (Element.tokens (.text name content))
      (putTrimmed r (Tag.localName name.toList) content) := by
  unfold isHeaderName at hname
  rw [List.mem_cons, List.mem_cons, not_or, not_or] at hname
  obtain ⟨hids, hspec, hf⟩ := hname
  refine reads_text hids (element_of_ne hspec) ?_
  rw [countFacet_of_not_mem hf]
  unfold Element.textTokens putTrimmed
  by_cases hc : content.toList = []
  · have nothing : Xml.trimmed [] = [] := rfl
    rw [if_pos hc, hc, if_pos nothing]
    exact Reads.nil
  · rw [if_neg hc, Xml.textToken_escapeChars]
    by_cases ht : Xml.trimmed content.toList = []
    · rw [if_pos ht, if_pos ht]
      exact Reads.cons rfl Reads.nil
    · rw [if_neg ht, if_neg ht]
      exact Reads.cons (next_text hr) Reads.nil

/-- Keeps texts one after the other; each comes with the name of its element. -/
def putAll (r : Reading) (ps : List (String × String)) : Reading :=
  ps.foldl (fun r p => putTrimmed r (Tag.localName p.1.toList) p.2) r

theorem reads_headers (ps : List (String × String)) (hnames : ∀ p ∈ ps, isHeaderName p.1)
    (hr : r.path.head? = some "info") :
    Reads r (Element.tokensOfAll (ps.flatMap fun p => textIfAny p.1 p.2)) (putAll r ps) := by
  induction ps generalizing r with
  | nil => exact Reads.nil
  | cons p ps ih =>
    have others := ih (fun q hq => hnames q (List.mem_cons_of_mem _ hq))
      (r := putTrimmed r (Tag.localName p.1.toList) p.2) (by rw [path_putTrimmed, hr])
    rw [List.flatMap_cons, tokensOfAll_append]
    refine Reads.append ?_ others
    unfold textIfAny
    split
    · rename_i hempty
      rw [String.isEmpty_iff] at hempty
      rw [hempty]
      exact Reads.nil
    · exact (reads_header p.1 p.2 (hnames p List.mem_cons_self) hr).append Reads.nil

theorem putTrimmed_of_trimmed {value : String} (h : Xml.Trimmed value) (name : String) :
    putTrimmed r name value = if value.isEmpty then r else put r name value := by
  unfold putTrimmed
  rw [h, String.ofList_toList]
  by_cases hv : value = ""
  · rw [hv]
    rfl
  · rw [if_neg (by simpa using hv), if_neg (by simpa using hv)]

theorem putTrimmed_title {value : String} (h : Xml.Trimmed value) (hr : r.title = "") :
    putTrimmed r "title" value = { r with title := value } := by
  rw [putTrimmed_of_trimmed h]
  split
  · rename_i hv
    rw [String.isEmpty_iff.mp hv, ← hr]
  · rfl

theorem putTrimmed_version {value : String} (h : Xml.Trimmed value) (hr : r.version = none) :
    putTrimmed r "version" value = { r with version := optionalValue value } := by
  rw [putTrimmed_of_trimmed h, optionalValue]
  split
  · rw [← hr]
  · rfl

theorem putTrimmed_milestone {value : String} (h : Xml.Trimmed value) (hr : r.milestone = none) :
    putTrimmed r "milestone" value = { r with milestone := optionalValue value } := by
  rw [putTrimmed_of_trimmed h, optionalValue]
  split
  · rw [← hr]
  · rfl

theorem putTrimmed_of_mem (name : String)
    (h : name ∈ ["copyright", "description", "author", "date", "purpose"]) (value : String) :
    putTrimmed r name value = r := by
  unfold putTrimmed
  split
  · rfl
  · simp only [List.mem_cons, List.not_mem_nil, or_false] at h
    obtain rfl | rfl | rfl | rfl | rfl := h <;> rfl

/-- Of the texts that need not be there, the version and the milestone are kept. -/
theorem putAll_optionalTexts {m : GroupMetadata} (hversion : Xml.Trimmed m.version)
    (hmilestone : Xml.Trimmed m.milestone) (hr : r.version = none ∧ r.milestone = none) :
    putAll r m.optionalTexts =
      { r with
        version := optionalValue m.version
        milestone := optionalValue m.milestone } := by
  have locals : Tag.localName "ids:copyright".toList = "copyright" ∧
      Tag.localName "ids:version".toList = "version" ∧
      Tag.localName "ids:description".toList = "description" ∧
      Tag.localName "ids:author".toList = "author" ∧ Tag.localName "ids:date".toList = "date" ∧
      Tag.localName "ids:purpose".toList = "purpose" ∧
      Tag.localName "ids:milestone".toList = "milestone" := by decide
  simp only [GroupMetadata.optionalTexts, putAll, List.foldl_cons, List.foldl_nil, locals]
  rw [putTrimmed_of_mem "copyright" (by decide), putTrimmed_version hversion (by exact hr.1),
    putTrimmed_of_mem "description" (by decide),
    putTrimmed_of_mem "author" (by decide),
    putTrimmed_of_mem "date" (by decide),
    putTrimmed_of_mem "purpose" (by decide), putTrimmed_milestone hmilestone (by exact hr.2)]

/-- Of the header a title, a version and a milestone are kept. -/
theorem reads_info {m : GroupMetadata} (hname : Xml.Trimmed m.name)
    (hversion : Xml.Trimmed m.version) (hmilestone : Xml.Trimmed m.milestone)
    (hr : r.title = "" ∧ r.version = none ∧ r.milestone = none) :
    Reads r m.infoElement.tokens
      { r with
        title := m.name
        version := optionalValue m.version
        milestone := optionalValue m.milestone } := by
  have names : ∀ p ∈ m.optionalTexts, isHeaderName p.1 := by
    have : ∀ name ∈ m.optionalTexts.map Prod.fst, isHeaderName name := by
      show ∀ name ∈ ["ids:copyright", "ids:version", "ids:description", "ids:author", "ids:date",
        "ids:purpose", "ids:milestone"], isHeaderName name
      decide
    exact fun p hp => this _ (List.mem_map_of_mem hp)
  have title := reads_header (r := r.within "ids:info") "ids:title" m.name (by decide) rfl
  have others := reads_headers m.optionalTexts names
    (r := Reading.within { r with title := m.name } "ids:info") rfl
  rw [putAll_optionalTexts hversion hmilestone (by exact hr.2)] at others
  rw [show Tag.localName "ids:title".toList = "title" from rfl, putTrimmed_title hname (by exact hr.1)]
    at title
  rw [m.infoElement_eq]
  refine reads_parent (s := r) (by decide) ?_ (title.append others)
  rw [element_of_ne (by decide), countFacet_of_not_mem (by decide)]

/-! ## Groups -/

/-- The state behind a document: it began, and its group has been read. -/
def readGroup (g : SpecGroup) : Reading where
  openNames := []
  sawRoot := true
  title := g.metadata.name
  version := optionalValue g.metadata.version
  milestone := optionalValue g.metadata.milestone
  reversed := (g.specifications.map (·.summary)).reverse

/-- The element of a group is read as the group. -/
theorem reads_group {g : SpecGroup} (hname : Xml.Trimmed g.metadata.name)
    (hversion : Xml.Trimmed g.metadata.version) (hmilestone : Xml.Trimmed g.metadata.milestone) :
    Reads start g.element.tokens (readGroup g) := by
  have lineBreak (r : Reading) : Reads r [.other] r := Reads.cons rfl Reads.nil
  -- the one element whose tag is seen as the beginning of a document
  have opened : start.next (.opening ⟨"ids:ids".toList,
      Xml.writtenAttributes SpecGroup.namespaces⟩) =
      .ok (Reading.within { start with sawRoot := true } "ids:ids") := by
    rw [next_opening (s := start)]
    · rfl
    · rw [element_of_ne (by decide), countFacet_of_not_mem (by decide)]
  have info := reads_info (r := Reading.within { start with sawRoot := true } "ids:ids") hname
    hversion hmilestone ⟨rfl, rfl, rfl⟩
  have specifications := reads_specificationsElement g.specifications
    (r := (readGroup { g with specifications := [] }).within "ids:ids")
  have closed := next_closing (readGroup g) "ids:ids"
  have state : (Reading.within { readGroup { g with specifications := [] } with
      reversed := (g.specifications.map (·.summary)).reverse ++ [] } "ids:ids") =
      (readGroup g).within "ids:ids" := by
    rw [List.append_nil]
    rfl
  refine Reads.cons rfl (Reads.cons opened (Reads.append (s := (readGroup g).within "ids:ids") ?_
    (Reads.cons rfl (Reads.cons closed Reads.nil))))
  rw [← state]
  exact info.append (specifications.append Reads.nil)

end DocumentSummary

open DocumentSummary in
/-- A written group reads back as its summary. -/
theorem SpecGroup.read_document (g : SpecGroup) (hname : Xml.Trimmed g.metadata.name)
    (hversion : Xml.Trimmed g.metadata.version) (hmilestone : Xml.Trimmed g.metadata.milestone) :
    DocumentSummary.read g.document = .ok g.summary := by
  have reads := reads_group hname hversion hmilestone
  have cut : Xml.tokens g.document.toList = .ok (.other :: g.element.tokens) :=
    Xml.tokens_document g.wellNamed
  have first : ∃ rest, g.document.toList = '<' :: rest := by
    refine ⟨Xml.declaration.toList.tail ++ Element.broken (g.element.lines 0), ?_⟩
    rw [SpecGroup.document, Xml.toList_document]
    rfl
  obtain ⟨rest, hrest⟩ := first
  have read : (Xml.tokens g.document.toList >>= (·.foldlM Reading.next .start)) =
      .ok (readGroup g) := by
    have behind : Reading.Reads .start (.other :: g.element.tokens) (readGroup g) :=
      Reading.Reads.cons rfl reads
    rw [cut]
    exact behind
  -- the document begins with a bracket, so there is no mark in front of it
  rw [hrest] at read
  unfold DocumentSummary.read
  rw [hrest]
  split
  · rename_i he
    exact absurd (List.cons.inj he).1 (by decide)
  · simp only [read]
    show Except.ok (readGroup g).summary = _
    unfold Reading.summary readGroup
    rw [List.reverse_reverse]
    rfl

/-- A group whose texts are full of markup; of its facets one stands in another. -/
def SpecGroup.markup : SpecGroup where
  metadata := { GroupMetadata.named "<Doors> & \"gates\"" with version := "v\x271.0\x27" }
  specifications := [{
    identifier := "01_1"
    name := "a < b"
    description := ""
    instructions := some "\n"
    applicability := ⟨"", "", [.entity (.list ["IFCDOOR", "IFC&GATE"]) none,
      .partOf (some .nests) "<IfcWall>"], []⟩
    cardinality := .required
    requirement := ⟨"", " ", [.attr "Na\"me" (some (.pattern "[^<>]+"))], []⟩
    dialects := [.ifc4, .ifc4x3] }]

theorem SpecGroup.read_document_markup :
    DocumentSummary.read SpecGroup.markup.document = .ok {
      title := "<Doors> & \"gates\""
      version := some "v\x271.0\x27"
      milestone := none
      specifications := [⟨"a < b", some "01_1", ["IFC4", "IFC4X3"], 2, 1⟩] } :=
  SpecGroup.read_document SpecGroup.markup (by decide) (by decide) (by decide)

end Eir
