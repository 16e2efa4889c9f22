import Eir.FacetGroup

/-!
# Requirements

What a rule can ask of the objects it selects. A requirement has a kind, a
subject (what it is about), a phrase (what its title says behind the modal verb)
and one facet.
-/

namespace Eir

/-- One demand on a selected object. -/
inductive Requirement where
  | attributeHasValue (attr value : String)
  /-- Reads "Matching" the narrative, or "Project Standards". -/
  | attributeMatchesPattern (attr pattern : String) (narrative : Option String)
  | attributeInList (attr : String) (values : List String)
  | attributeDefined (attr : String)
  | attributeLengthBetween (attr : String) (min max : Nat)
  | attributeValueInRange (attr : String) (bounds : Bounds)
  | propertyDefined (set property : String)
  | propertyHasValue (set property value : String) (dataType : Option String)
  | propertyInList (set property : String) (values : List String) (dataType : Option String)
  | propertyMatchesPattern (set property pattern patternName : String) (dataType : Option String)
  | propertyValueInRange (set property : String) (bounds : Bounds) (dataType : Option String)
  | propertySetPattern (setPattern property : String)
  | classificationDefined (label : String) (system : Constraint)
  | classificationHasValue (label : String) (system : Constraint) (value : String)
  | classificationInList (label : String) (system : Constraint) (values : List String)
  | classificationPattern (systemPattern pattern : String)
  | predefinedType (entity predefinedType : String)
  | partOf (relation : Option Relation) (whole : String)
  deriving DecidableEq, Repr

/-- The kind of a requirement. -/
inductive RequirementKind where
  | attributeHasValue | attributeMatchesPattern | attributeInList | attributeDefined
  | attributeLengthBetween | attributeValueInRange | propertyDefined | propertyHasValue
  | propertyInList | propertyMatchesPattern | propertyValueInRange | propertySetPattern
  | classificationDefined | classificationHasValue | classificationInList
  | classificationPattern | predefinedType | partOf
  deriving DecidableEq, Repr, Hashable, Inhabited

namespace RequirementKind

def all : List RequirementKind :=
  [attributeHasValue, attributeMatchesPattern, attributeInList, attributeDefined,
    attributeLengthBetween, attributeValueInRange, propertyDefined, propertyHasValue,
    propertyInList, propertyMatchesPattern, propertyValueInRange, propertySetPattern,
    classificationDefined, classificationHasValue, classificationInList,
    classificationPattern, predefinedType, partOf]

def name : RequirementKind → String
  | attributeHasValue => "AttributeHasValue"
  | attributeMatchesPattern => "AttributeMatchesPattern"
  | attributeInList => "AttributeInList"
  | attributeDefined => "AttributeDefined"
  | attributeLengthBetween => "AttributeLengthBetween"
  | attributeValueInRange => "AttributeValueInRange"
  | propertyDefined => "PropertyDefined"
  | propertyHasValue => "PropertyHasValue"
  | propertyInList => "PropertyInList"
  | propertyMatchesPattern => "PropertyMatchesPattern"
  | propertyValueInRange => "PropertyValueInRange"
  | propertySetPattern => "PropertySetPattern"
  | classificationDefined => "ClassificationDefined"
  | classificationHasValue => "ClassificationHasValue"
  | classificationInList => "ClassificationInList"
  | classificationPattern => "ClassificationPattern"
  | predefinedType => "PredefinedType"
  | partOf => "PartOf"

/-- The kind of that name. -/
def ofName? (text : String) : Option RequirementKind := all.find? fun k => k.name == text

instance : Json.Encode RequirementKind := ⟨fun k => .str k.name⟩
instance : Json.Decode RequirementKind := ⟨Json.constant? false ofName?⟩

end RequirementKind

namespace Requirement

def kind : Requirement → RequirementKind
  | attributeHasValue .. => .attributeHasValue
  | attributeMatchesPattern .. => .attributeMatchesPattern
  | attributeInList .. => .attributeInList
  | attributeDefined .. => .attributeDefined
  | attributeLengthBetween .. => .attributeLengthBetween
  | attributeValueInRange .. => .attributeValueInRange
  | propertyDefined .. => .propertyDefined
  | propertyHasValue .. => .propertyHasValue
  | propertyInList .. => .propertyInList
  | propertyMatchesPattern .. => .propertyMatchesPattern
  | propertyValueInRange .. => .propertyValueInRange
  | propertySetPattern .. => .propertySetPattern
  | classificationDefined .. => .classificationDefined
  | classificationHasValue .. => .classificationHasValue
  | classificationInList .. => .classificationInList
  | classificationPattern .. => .classificationPattern
  | predefinedType .. => .predefinedType
  | partOf .. => .partOf

/-- The name of a property within its set. -/
def dotted (set property : String) : String := set ++ "." ++ property

/-- What the requirement is about; rules are looked up by it. -/
def subject : Requirement → String
  | attributeHasValue a _ | attributeMatchesPattern a _ _ | attributeInList a _
  | attributeDefined a | attributeLengthBetween a _ _ | attributeValueInRange a _ => a
  | propertyDefined s p | propertyHasValue s p _ _ | propertyInList s p _ _
  | propertyMatchesPattern s p _ _ _ | propertyValueInRange s p _ _
  | propertySetPattern s p => dotted s p
  | classificationDefined l _ | classificationHasValue l _ _ | classificationInList l _ _ => l
  | classificationPattern s _ => s
  | predefinedType _ _ => "PredefinedType"
  | partOf _ whole => whole

/-- The phrase behind the modal verb. -/
def phrase : Requirement → String
  | attributeHasValue a v => "Have " ++ a ++ " Matching '" ++ v ++ "'"
  | attributeMatchesPattern a _ n => "Have " ++ a ++ " Matching " ++ n.getD "Project Standards"
  | attributeInList a vs =>
    "Have " ++ a ++ " In One Of " ++ Text.decimal vs.length ++ " Predefined Values."
  | attributeDefined a => "Have " ++ a ++ " Defined"
  | attributeLengthBetween a lo hi =>
    "Have " ++ a ++ " Length Between " ++ Text.decimal lo ++ " And " ++ Text.decimal hi
  | attributeValueInRange a b =>
    "Have " ++ a ++ " Value Between " ++ b.min.getD "nil" ++ " And " ++ b.max.getD "infinity"
  | propertyDefined s p => "Have Property '" ++ dotted s p ++ "' Defined."
  | propertyHasValue s p v _ =>
    "Have Property '" ++ dotted s p ++ "' With Value '" ++ v ++ "'."
  | propertyInList s p vs _ =>
    "Have Property '" ++ dotted s p ++ "' With One Of " ++ Text.decimal vs.length ++
      " Predefined Values."
  | propertyMatchesPattern s p _ n _ =>
    "Have Property '" ++ dotted s p ++ "' With Value Matching " ++ n
  | propertyValueInRange s p b _ =>
    "Have Property '" ++ dotted s p ++ "' With Value '" ++ b.short ++ "'."
  | propertySetPattern s p => "Have Property Matching '" ++ dotted s p ++ "' Defined"
  | classificationDefined l _ => "Have " ++ l ++ " Classification Defined"
  | classificationHasValue l _ v => "Have " ++ l ++ " Classification With Value '" ++ v ++ "'"
  | classificationInList l _ vs =>
    "Have " ++ l ++ " Classification With One Of " ++ Text.decimal vs.length ++
      " Predefined Values"
  | classificationPattern s p => "Have " ++ s ++ " Classification With Pattern '" ++ p ++ "'"
  | predefinedType _ t => "Have predefinedType '" ++ t ++ "'."
  | partOf _ whole => "Have a " ++ whole

/-- The facet that tests the requirement. -/
def facet : Requirement → Facet
  | attributeHasValue a v => .attr a (some (.exact v))
  | attributeMatchesPattern a p _ => .attr a (some (.pattern p))
  | attributeInList a vs => .attr a (some (.list vs))
  | attributeDefined a => .attr a none
  | attributeLengthBetween a lo hi => .attr a (some (.length lo hi))
  | attributeValueInRange a b => .attr a (some (.range b))
  | propertyDefined s p => .ofProperty (.exact s) (.exact p) none none
  | propertyHasValue s p v t => .ofProperty (.exact s) (.exact p) (some (.exact v)) t
  | propertyInList s p vs t => .ofProperty (.exact s) (.exact p) (some (.list vs)) t
  | propertyMatchesPattern s p x _ t => .ofProperty (.exact s) (.exact p) (some (.pattern x)) t
  | propertyValueInRange s p b t => .ofProperty (.exact s) (.exact p) (some (.range b)) t
  | propertySetPattern s p => .ofProperty (.pattern s) (.exact p) none none
  | classificationDefined _ s => .classification (some s) none
  | classificationHasValue _ s v => .classification (some s) (some (.exact v))
  | classificationInList _ s vs => .classification (some s) (some (.list vs))
  | classificationPattern s p => .classification (some (.pattern s)) (some (.pattern p))
  | predefinedType e t => .entity (.exact e.toUpper) (some (.exact t))
  | partOf r whole => .partOf r whole.toUpper

/-- The facet group of a rule that demands this. -/
def constraint (r : Requirement) : FacetGroup := ⟨r.subject, r.phrase, [r.facet], []⟩

/-- A value above `min`. -/
def propertyAbove (set property min : String) : Requirement :=
  propertyValueInRange set property (.above min false) none

/-- Sets the narrative of a pattern requirement; others have none. -/
def withNarrative (text : String) : Requirement → Requirement
  | attributeMatchesPattern a p _ => attributeMatchesPattern a p (some text)
  | r => r

/-- Sets the measure type of a requirement on the value of a property; others have none. -/
def withDataType (measure : String) : Requirement → Requirement
  | propertyHasValue s p v _ => propertyHasValue s p v (some measure)
  | propertyInList s p vs _ => propertyInList s p vs (some measure)
  | propertyMatchesPattern s p x n _ => propertyMatchesPattern s p x n (some measure)
  | propertyValueInRange s p b _ => propertyValueInRange s p b (some measure)
  | r => r

/-- The requirement of a kind whose parts are the members of an object. -/
def ofMembers? (j : Json) (kind : RequirementKind) : Option Requirement :=
  let text (key : String) : Option String := Json.required j key
  let texts (key : String) : Option (List String) := Json.required j key
  let system : Option Constraint := Json.required j "system"
  match kind with
  | .attributeHasValue => return attributeHasValue (← text "attribute") (← text "value")
  | .attributeMatchesPattern =>
    return attributeMatchesPattern (← text "attribute") (← text "pattern") none
  | .attributeInList => return attributeInList (← text "attribute") (← texts "values")
  | .attributeDefined => return attributeDefined (← text "attribute")
  | .attributeLengthBetween =>
    return attributeLengthBetween (← text "attribute") (← Json.required j "min")
      (← Json.required j "max")
  | .attributeValueInRange =>
    return attributeValueInRange (← text "attribute") (← Json.required j "bounds")
  | .propertyDefined => return propertyDefined (← text "property_set") (← text "property")
  | .propertyHasValue =>
    return propertyHasValue (← text "property_set") (← text "property") (← text "value") none
  | .propertyInList =>
    return propertyInList (← text "property_set") (← text "property") (← texts "values") none
  | .propertyMatchesPattern =>
    return propertyMatchesPattern (← text "property_set") (← text "property") (← text "pattern")
      (← text "pattern_name") none
  | .propertyValueInRange => do
    let set ← text "property_set"
    let property ← text "property"
    match j.get? "above" with
    | some _ => return propertyAbove set property (← text "above")
    | none => return propertyValueInRange set property (← Json.required j "bounds") none
  | .propertySetPattern =>
    return propertySetPattern (← text "property_set_pattern") (← text "property")
  | .classificationDefined => return classificationDefined (← text "label") (← system)
  | .classificationHasValue =>
    return classificationHasValue (← text "label") (← system) (← text "value")
  | .classificationInList =>
    return classificationInList (← text "label") (← system) (← texts "values")
  | .classificationPattern =>
    return classificationPattern (← text "system_pattern") (← text "pattern")
  | .predefinedType => return predefinedType (← text "entity") (← text "predefined_type")
  | .partOf => return partOf (← Json.optional j "relation") (← text "entity")

instance : Json.Decode Requirement where
  decode? j := do
    let r ← ofMembers? j (← Json.required j "kind")
    let r := match j.get? "narrative" with
      | some (.str text) => r.withNarrative text
      | _ => r
    return match j.get? "data_type" with
      | some (.str measure) => r.withDataType measure
      | _ => r

end Requirement

end Eir
