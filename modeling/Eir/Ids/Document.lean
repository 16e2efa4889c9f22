import Eir.Specification
import Eir.Xml.Element

/-!
# Exchanged documents

A group of specifications as an Information Delivery Specification: the tree of
elements that a model checker reads. Types of entities are in upper case there,
and facets of a requirement carry their cardinality.
-/

namespace Eir

open Xml (Attribute Element)

/-- An attribute that is there if it has a value. -/
def attributeIfSome (name : String) (value : Option String) : List Attribute :=
  (value.map (name, ·)).toList

/-- An attribute that is there unless its value is empty. -/
def attributeIfAny (name value : String) : List Attribute :=
  if value.isEmpty then [] else [(name, value)]

/-- An element of text that is there unless its text is empty. -/
def textIfAny (name content : String) : List Element :=
  if content.isEmpty then [] else [.text name content]

/-- What a value is restricted to; `base` is its type. -/
def restriction (base : String) (rules : List (String × String)) : Element :=
  .parent "xs:restriction" [("base", base)]
    (rules.map fun (rule, value) => .single rule [("value", value)])

namespace Bounds

/-- The rules of the bounds, for each bound that there is. -/
def rules (b : Bounds) : List (String × String) :=
  (b.min.map ((if b.minInclusive then "xs:minInclusive" else "xs:minExclusive"), ·)).toList ++
    (b.max.map ((if b.maxInclusive then "xs:maxInclusive" else "xs:maxExclusive"), ·)).toList

end Bounds

namespace Constraint

/-- What stands in the element that a constraint is put on. -/
def element : Constraint → Element
  | exact v => .text "ids:simpleValue" v
  | pattern p => restriction "xs:string" [("xs:pattern", p)]
  | list vs => restriction "xs:string" (vs.map ("xs:enumeration", ·))
  | range b => restriction "xs:double" b.rules
  | length lo hi =>
    restriction "xs:string"
      [("xs:minLength", Text.decimal lo), ("xs:maxLength", Text.decimal hi)]

/-- The constraint on what an element stands for. -/
def on (c : Constraint) (name : String) : Element := .parent name [] [c.element]

/-- The constraint, if there is one. -/
def ifAny (c : Option Constraint) (name : String) : List Element := (c.map (·.on name)).toList

end Constraint

namespace Facet

/-- The facet as an element. In a requirement it has a cardinality, which an entity facet does
not show. -/
def element (f : Facet) (cardinality : Option RequirementCardinality) : Element :=
  let card := attributeIfSome "cardinality" (cardinality.map (·.documentWord))
  match f with
  | entity types predefinedType =>
    .parent "ids:entity" []
      (types.on "ids:name" :: Constraint.ifAny predefinedType "ids:predefinedType")
  | attr name value =>
    .parent "ids:attribute" card
      ((Constraint.exact name).on "ids:name" :: Constraint.ifAny value "ids:value")
  | property propertySet name value dataType =>
    .parent "ids:property" (attributeIfSome "dataType" dataType ++ card)
      (propertySet.on "ids:propertySet" :: name.on "ids:baseName" ::
        Constraint.ifAny value "ids:value")
  | classification system value =>
    .parent "ids:classification" card
      (Constraint.ifAny value "ids:value" ++ Constraint.ifAny system "ids:system")
  | partOf relation whole =>
    .parent "ids:partOf" (attributeIfSome "relation" (relation.map (·.name)) ++ card)
      [.parent "ids:entity" [] [(Constraint.exact whole.toUpper).on "ids:name"]]

end Facet

namespace FacetGroup

/-- What a rule demands of selected objects. -/
def requirementsElement (g : FacetGroup) : Element :=
  .parent "ids:requirements" (attributeIfAny "description" g.description)
    (g.entries.map fun (f, c) => f.element (some c))

end FacetGroup

namespace Specification

/-- The objects that the rule is about. -/
def applicabilityElement (s : Specification) : Element :=
  .parent "ids:applicability"
    [("minOccurs", s.cardinality.occurs.1), ("maxOccurs", s.cardinality.occurs.2)]
    (s.applicability.facets.map (·.element none))

/-- The rule as an element. One that demands nothing of the selected objects is about whether
there are any. -/
def element (s : Specification) : Element :=
  .parent "ids:specification"
    ([("name", s.name), ("ifcVersion", " ".intercalate (s.dialects.map (·.name))),
        ("identifier", s.identifier)] ++
      attributeIfAny "description" s.description ++
      attributeIfSome "instructions" s.instructions)
    (s.applicabilityElement ::
      if s.requirement.isEmpty then [] else [s.requirement.requirementsElement])

end Specification

namespace GroupMetadata

/-- The header as an element. The title is always there. -/
def infoElement (m : GroupMetadata) : Element :=
  .parent "ids:info" []
    (.text "ids:title" m.name :: textIfAny "ids:copyright" m.copyright ++
      textIfAny "ids:version" m.version ++ textIfAny "ids:description" m.description ++
      textIfAny "ids:author" m.author ++ textIfAny "ids:date" (m.date.getD "") ++
      textIfAny "ids:purpose" m.purpose ++ textIfAny "ids:milestone" m.milestone)

end GroupMetadata

namespace SpecGroup

/-- The names that documents take their words from. -/
def namespaces : List Attribute := [
  ("xmlns:ids", "http://standards.buildingsmart.org/IDS"),
  ("xmlns:xs", "http://www.w3.org/2001/XMLSchema"),
  ("xmlns:xsi", "http://www.w3.org/2001/XMLSchema-instance"),
  ("xsi:schemaLocation",
    "http://standards.buildingsmart.org/IDS http://standards.buildingsmart.org/IDS/1.0/ids.xsd")]

/-- The group as a tree of elements. -/
def element (g : SpecGroup) : Element :=
  .parent "ids:ids" namespaces
    [g.metadata.infoElement,
      .parent "ids:specifications" [] (g.specifications.map (·.element))]

/-- The text of the document of a group. -/
def document (g : SpecGroup) : String := Xml.document g.element

end SpecGroup

end Eir
