import Eir.Ids.Document
import Eir.Proofs.Xml.Injective

/-!
# Elements of an exchanged document

Which elements a document is made of: what stands in a constraint
(`Constraint.element_cases`) and in a facet (`Facet.element_cases`). All names in
it are names of letters (`SpecGroup.wellNamed`), whatever the group holds, and
below a facet only the simple values are elements of text (`Facet.namedBy_element`).
-/

namespace Eir

open Xml (Element IsName)
open Xml.Element (NamedBy WellNamed)

variable {e : Element}

/-! ## Constraints -/

/-- The names of the rules that a value can be restricted by. -/
def ruleNames : List String :=
  ["xs:pattern", "xs:enumeration", "xs:minLength", "xs:maxLength", "xs:minInclusive",
    "xs:minExclusive", "xs:maxInclusive", "xs:maxExclusive"]

theorem Bounds.mem_ruleNames {b : Bounds} {p : String × String} (h : p ∈ b.rules) :
    p.1 ∈ ruleNames := by
  simp only [rules, List.mem_append, Option.mem_toList, Option.map_eq_some_iff] at h
  obtain ⟨v, -, rfl⟩ | ⟨v, -, rfl⟩ := h
  · show (if b.minInclusive then "xs:minInclusive" else "xs:minExclusive") ∈ ruleNames
    split <;> decide
  · show (if b.maxInclusive then "xs:maxInclusive" else "xs:maxExclusive") ∈ ruleNames
    split <;> decide

/-- A constraint is written as one text or as a restriction. -/
theorem Constraint.element_cases (c : Constraint) :
    (∃ v, c.element = .text "ids:simpleValue" v) ∨
      ∃ base rules, c.element = restriction base rules ∧ ∀ p ∈ rules, p.1 ∈ ruleNames := by
  cases c with
  | exact v => exact .inl ⟨v, rfl⟩
  | pattern p =>
    refine .inr ⟨_, _, rfl, fun q hq => ?_⟩
    obtain rfl := List.mem_singleton.mp hq
    exact List.mem_cons_self
  | list vs =>
    refine .inr ⟨_, _, rfl, fun q hq => ?_⟩
    obtain ⟨v, -, rfl⟩ := List.mem_map.mp hq
    exact List.mem_cons_of_mem _ List.mem_cons_self
  | range b => exact .inr ⟨_, _, rfl, fun q hq => Bounds.mem_ruleNames hq⟩
  | length lo hi =>
    refine .inr ⟨_, _, rfl, fun q hq => ?_⟩
    rw [List.mem_cons, List.mem_singleton] at hq
    obtain rfl | rfl := hq <;> simp [ruleNames]

/-- The names of the elements of text below a facet. -/
def valueNames : List String := ["ids:simpleValue"]

theorem Constraint.namedBy_element (c : Constraint) : c.element.NamedBy valueNames := by
  have rules : ∀ name ∈ ruleNames, IsName name ∧ name ∉ valueNames := by decide
  obtain ⟨v, hv⟩ | ⟨base, found, hr, hnames⟩ := c.element_cases
  · rw [hv]
    exact .text (by decide) (by decide)
  · rw [hr]
    refine .parent (by decide) (by decide) (fun a ha => ?_) fun e he => ?_
    · obtain rfl := List.mem_singleton.mp ha
      show IsName "base"
      decide
    · obtain ⟨p, hp, rfl⟩ := List.mem_map.mp he
      obtain ⟨hname, hvalue⟩ := rules _ (hnames p hp)
      refine .single hname hvalue fun a ha => ?_
      obtain rfl := List.mem_singleton.mp ha
      show IsName "value"
      decide

/-! ## Facets -/

/-- The names of the elements that constraints are put on. -/
def partNames : List String :=
  ["ids:name", "ids:predefinedType", "ids:value", "ids:propertySet", "ids:baseName", "ids:system"]

/-- The element puts a constraint on a part of a facet. -/
def IsPart (e : Element) : Prop := ∃ c, ∃ name ∈ partNames, e = Constraint.on c name

/-- The names of the elements that facets are written as. -/
def facetTags : List String :=
  ["ids:entity", "ids:attribute", "ids:property", "ids:classification", "ids:partOf"]

/-- The names of the attributes of facets. -/
def facetAttributes : List String := ["cardinality", "dataType", "relation"]

theorem isPart_of_mem_ifAny {c : Option Constraint} {name : String} (hn : name ∈ partNames)
    (h : e ∈ Constraint.ifAny c name) : IsPart e := by
  cases c with
  | none => cases h
  | some c => exact ⟨c, name, hn, List.mem_singleton.mp h⟩

theorem mem_attributeIfSome {name : String} {value : Option String} {a : Xml.Attribute}
    (h : a ∈ attributeIfSome name value) : a.1 = name := by
  simp only [attributeIfSome, Option.mem_toList, Option.map_eq_some_iff] at h
  obtain ⟨v, -, rfl⟩ := h
  rfl

/-- A facet is written as an element of its kind that holds constraints; the one of a whole
holds them in an element of its own. -/
theorem Facet.element_cases (f : Facet) (c : Option RequirementCardinality) :
    ∃ name attributes children, f.element c = .parent name attributes children ∧
      name ∈ facetTags ∧ (∀ a ∈ attributes, a.1 ∈ facetAttributes) ∧
      ((∀ e ∈ children, IsPart e) ∨
        name = "ids:partOf" ∧ ∃ e, IsPart e ∧ children = [.parent "ids:entity" [] [e]]) := by
  have card : ∀ a ∈ attributeIfSome "cardinality" (c.map (·.documentWord)),
      a.1 ∈ facetAttributes := fun a ha => by
    rw [mem_attributeIfSome ha]
    decide
  have more {name : String} {value : Option String} (hn : name ∈ facetAttributes) :
      ∀ a ∈ attributeIfSome name value ++ attributeIfSome "cardinality" (c.map (·.documentWord)),
        a.1 ∈ facetAttributes := fun a ha => by
    obtain ha | ha := List.mem_append.mp ha
    · rw [mem_attributeIfSome ha]
      exact hn
    · exact card a ha
  cases f with
  | entity types predefinedType =>
    refine ⟨_, _, _, rfl, by decide, by simp, .inl fun e he => ?_⟩
    obtain rfl | he := List.mem_cons.mp he
    · exact ⟨_, _, by decide, rfl⟩
    · exact isPart_of_mem_ifAny (by decide) he
  | attr name value =>
    refine ⟨_, _, _, rfl, by decide, card, .inl fun e he => ?_⟩
    obtain rfl | he := List.mem_cons.mp he
    · exact ⟨_, _, by decide, rfl⟩
    · exact isPart_of_mem_ifAny (by decide) he
  | property propertySet name value dataType =>
    refine ⟨_, _, _, rfl, by decide, more (by decide), .inl fun e he => ?_⟩
    obtain rfl | he := List.mem_cons.mp he
    · exact ⟨_, _, by decide, rfl⟩
    obtain rfl | he := List.mem_cons.mp he
    · exact ⟨_, _, by decide, rfl⟩
    · exact isPart_of_mem_ifAny (by decide) he
  | classification system value =>
    refine ⟨_, _, _, rfl, by decide, card, .inl fun e he => ?_⟩
    obtain he | he := List.mem_append.mp he
    · exact isPart_of_mem_ifAny (by decide) he
    · exact isPart_of_mem_ifAny (by decide) he
  | partOf relation whole =>
    exact ⟨_, _, _, rfl, by decide, more (by decide), .inr ⟨rfl, _, ⟨_, _, by decide, rfl⟩, rfl⟩⟩

theorem IsPart.namedBy (h : IsPart e) : e.NamedBy valueNames := by
  obtain ⟨c, name, hn, rfl⟩ := h
  have names : ∀ name ∈ partNames, IsName name ∧ name ∉ valueNames := by decide
  refine .parent (names name hn).1 (names name hn).2 (by simp) fun e he => ?_
  obtain rfl := List.mem_singleton.mp he
  exact c.namedBy_element

theorem Facet.namedBy_element (f : Facet) (c : Option RequirementCardinality) :
    (f.element c).NamedBy valueNames := by
  obtain ⟨name, attributes, children, he, hn, ha, hc⟩ := f.element_cases c
  have names : ∀ name ∈ facetTags, IsName name ∧ name ∉ valueNames := by decide
  have attributeNames : ∀ name ∈ facetAttributes, IsName name := by decide
  rw [he]
  refine .parent (names name hn).1 (names name hn).2 (fun a h => attributeNames _ (ha a h))
    fun e h => ?_
  obtain hc | ⟨-, part, hpart, rfl⟩ := hc
  · exact (hc e h).namedBy
  · obtain rfl := List.mem_singleton.mp h
    refine .parent (by decide) (by decide) (by simp) fun e h => ?_
    obtain rfl := List.mem_singleton.mp h
    exact hpart.namedBy

/-! ## Groups -/

theorem mem_attributeIfAny {name value : String} {a : Xml.Attribute}
    (h : a ∈ attributeIfAny name value) : a.1 = name := by
  unfold attributeIfAny at h
  split at h
  · cases h
  · exact congrArg Prod.fst (List.mem_singleton.mp h)

theorem FacetGroup.namedBy_requirementsElement (g : FacetGroup) :
    g.requirementsElement.NamedBy valueNames := by
  refine .parent (by decide) (by decide) (fun a ha => ?_) fun e he => ?_
  · rw [mem_attributeIfAny ha]
    decide
  · obtain ⟨p, -, rfl⟩ := List.mem_map.mp he
    exact p.1.namedBy_element _

theorem Specification.wellNamed_element (s : Specification) : s.element.WellNamed := by
  refine .parent (by decide) (fun a ha => ?_) fun e he => ?_
  · simp only [List.mem_append, List.mem_cons, List.not_mem_nil, or_false] at ha
    obtain ((rfl | rfl | rfl) | ha) | ha := ha
    · show IsName "name"
      decide
    · show IsName "ifcVersion"
      decide
    · show IsName "identifier"
      decide
    · rw [mem_attributeIfAny ha]
      decide
    · rw [mem_attributeIfSome ha]
      decide
  obtain rfl | he := List.mem_cons.mp he
  · refine .parent (by decide) (fun a ha => ?_) fun e he => ?_
    · simp only [List.mem_cons, List.not_mem_nil, or_false] at ha
      obtain rfl | rfl := ha
      · show IsName "minOccurs"
        decide
      · show IsName "maxOccurs"
        decide
    · obtain ⟨f, -, rfl⟩ := List.mem_map.mp he
      exact (f.namedBy_element _).wellNamed
  · split at he
    · cases he
    obtain rfl := List.mem_singleton.mp he
    exact s.requirement.namedBy_requirementsElement.wellNamed

/-- The texts of a header that need not be there, with the names of their elements. -/
def GroupMetadata.optionalTexts (m : GroupMetadata) : List (String × String) :=
  [("ids:copyright", m.copyright), ("ids:version", m.version), ("ids:description", m.description),
    ("ids:author", m.author), ("ids:date", m.date.getD ""), ("ids:purpose", m.purpose),
    ("ids:milestone", m.milestone)]

theorem GroupMetadata.infoElement_eq (m : GroupMetadata) :
    m.infoElement = .parent "ids:info" []
      (.text "ids:title" m.name :: m.optionalTexts.flatMap fun p => textIfAny p.1 p.2) := by
  simp [infoElement, optionalTexts]

theorem GroupMetadata.wellNamed_infoElement (m : GroupMetadata) : m.infoElement.WellNamed := by
  rw [infoElement_eq]
  refine .parent (by decide) (by simp) fun e he => ?_
  obtain rfl | he := List.mem_cons.mp he
  · exact .text (by decide)
  obtain ⟨p, hp, he⟩ := List.mem_flatMap.mp he
  have hname : IsName p.1 := by
    have names : ∀ name ∈ m.optionalTexts.map Prod.fst, IsName name := by
      show ∀ name ∈ ["ids:copyright", "ids:version", "ids:description", "ids:author", "ids:date",
        "ids:purpose", "ids:milestone"], IsName name
      decide
    exact names _ (List.mem_map_of_mem hp)
  unfold textIfAny at he
  split at he
  · cases he
  · obtain rfl := List.mem_singleton.mp he
    exact .text hname

/-- The element of a group has names of letters, whatever the texts of the group are. -/
theorem SpecGroup.wellNamed (g : SpecGroup) : g.element.WellNamed := by
  have attributeNames : ∀ a ∈ namespaces, IsName a.1 := by decide
  refine .parent (by decide) attributeNames fun e he => ?_
  simp only [List.mem_cons, List.not_mem_nil, or_false] at he
  obtain rfl | rfl := he
  · exact g.metadata.wellNamed_infoElement
  · refine .parent (by decide) (by simp) fun e he => ?_
    obtain ⟨s, -, rfl⟩ := List.mem_map.mp he
    exact s.wellNamed_element

end Eir
