import Eir.Rulebook.Basic
import Eir.Rulebook.Patterns

/-!
# Type objects

Section 07. The rules of section 07.05 are about the names of types, one for
each type object and predefined type; they belong to the complex pass.
-/

namespace Eir.Rulebook

/-- The type objects whose subtypes are checked. -/
def rootTypes : List String := [
  "IfcBuildingElementType",
  "IfcFurnishingElementType",
  "IfcCivilElementType",
  "IfcDistributionElementType",
  "IfcTransportElementType",
  "IfcDoorStyle",
  "IfcWindowStyle"]

/-- The type objects that carry the data of products. -/
def productTypes : List String := [
  "IfcDoorStyle",
  "IfcBuildingElementProxyType",
  "IfcWindowStyle",
  "IfcDistributionControlElementType",
  "IfcDistributionChamberElementType",
  "IfcEnergyConversionDeviceType",
  "IfcFlowControllerType",
  "IfcFlowMovingDeviceType",
  "IfcFlowStorageDeviceType",
  "IfcFlowTerminalType",
  "IfcFlowTreatmentDeviceType",
  "IfcDiscreteAccessoryType",
  "IfcMechanicalFastenerType",
  "IfcVibrationIsolatorType",
  "IfcFurnishingElementType",
  "IfcTransportElementType"]

/-- What is known of the make of a product. -/
def makeProperties : List String := [
  "Shape", "Size", "Color", "Finish", "Grade", "Material", "Constituents", "Features",
  "AccessibilityPerformance", "CodePerformance", "SustainabilityPerformance"]

/-- The type objects, other than those of spaces, that list predefined types. -/
def enumeratedTypes (v : SchemaView) : List String :=
  let listed := v.types.filter fun t =>
    (Text.stripSuffix? "TYPE" t.upperName).isSome && !t.subKinds.isEmpty &&
      (Text.stripPrefix? "IFCSPACE" t.upperName).isNone
  (listed.map EntityType.upperName).mergeSort fun a b => decide (a ≤ b)

/-- Selects the type objects that list predefined types. -/
def enumeratedSelection (v : SchemaView) : FacetGroup :=
  (FacetGroup.empty "Object Type" "Object Type entity selector").addFacet
    (.entity (.list (enumeratedTypes v)) none)

/-- Some rule is about the names of objects of the sub-kind. -/
def namesSubKind (b : Rulebook) (subKind : String) : Bool :=
  subKind != undefinedSubKind || b.policy.namingRules

/-- The rule about the names of the types of one type object and sub-kind. -/
def typeNameRule (b : Rulebook) (t : EntityType) (subKind : Option String) : List Step :=
  let pattern := (b.namer.typeConvention t.name subKind).1.pattern
    (b.namer.conventions.hasFreeLabel t.name)
  Step.about (b.occurrenceSchema.selectExact "Type" t.name) fun a =>
    let a := match subKind with
      | some k => a.withPredefinedType k
      | none => a
    Step.rules a [.attributeMatchesPattern "Name" pattern none]

/-- The rules about the names of the types of one type object. -/
def typeNameRules (b : Rulebook) (t : EntityType) : List Step :=
  let label := b.namer.conventions.unprefixed t.name
  if b.namer.conventions.enumeratesSubKinds t.name && !t.subKinds.isEmpty then
    [.scope .numbering label ((t.subKinds.filter b.namesSubKind).flatMap fun k =>
      .setName k :: b.typeNameRule t (some k))]
  else .setName label :: b.typeNameRule t none

/-- Section 07.05. -/
def typeNameSection (b : Rulebook) : List Step :=
  [.setPasses .complexOnly, .setRequirement .optional] ++
    match b.schema.concreteSubtypes "IfcTypeObject" with
    | .error fault => [.fail fault]
    | .ok types =>
      (types.filter fun t => t.name != "IfcTypeObject" && t.name != "IfcTypeProduct").flatMap
        b.typeNameRules

/-- A property is there, and its value matches each of the patterns, given with their names. -/
def propertyRules (a : FacetGroup) (set property measure : String)
    (patterns : List (String × String)) : List Step :=
  Step.rules a (.propertyDefined set property ::
    patterns.map fun (pattern, name) =>
      .propertyMatchesPattern set property pattern name (some measure))

/-- The rules about who gives the warranty of products, and for how long. -/
def warrantyRules (a : FacetGroup) (guarantor duration : String) : List Step :=
  let inside (s : Stage) := Step.within (.starting s) (.starting .stage4)
  inside .stage4 (propertyRules a "COBie_Warranty" guarantor "IFCTEXT"
    [(Patterns.emailOrNone, "n/a or Email Address")]) ++
  inside .stage5 (Step.rules a [.propertyMatchesPattern "COBie_Warranty" guarantor Patterns.email
    "Email Address" (some "IFCTEXT")]) ++
  inside .stage4 (propertyRules a "COBie_Warranty" duration "IFCTEXT"
    [(Patterns.numeric, "Valid duration")]) ++
  inside .stage5 (Step.rules a [(Requirement.propertyAbove "COBie_Warranty" duration "0"
    ).withDataType "IFCTEXT"])

/-- The rules about the data of products. -/
def productRules (b : Rulebook) : List Step :=
  Step.about (b.schema.select "COBie Object Type" (present b.schema productTypes)) fun a =>
    Step.rules a [
      .propertyDefined "COBie_Asset" "AssetType",
      .propertyInList "COBie_Asset" "AssetType" ["Fixed", "Movable"] (some "IFCTEXT")] ++
    Step.within (.starting .stage5) (.starting .stage4)
      (propertyRules a "Pset_ManufacturerTypeInformation" "Manufacturer" "IFCLABEL"
        [(Patterns.emailOrNone, "n/a or Email Address"), (Patterns.email, "Email Address")]) ++
    warrantyRules a "WarrantyGuarantorParts" "WarrantyDurationParts" ++
    warrantyRules a "WarrantyGuarantorLabor" "WarrantyDurationLabor" ++
    Step.within (.starting .stage4) (.starting .stage4)
      (propertyRules a "COBie_EconomicImpactValues" "ReplacementCost" "IFCTEXT"
        [(Patterns.monetaryOrNone, "Replacement Cost")] ++
      propertyRules a "COBie_ServiceLife" "ExpectedLife" "IFCTEXT"
        [(Patterns.numericOrNone, "Expected Life")] ++
      propertyRules a "COBie_Warranty" "WarrantyDescription" "IFCTEXT"
        [(Patterns.textOrNone, "Warranty")] ++
      Step.rules a ([
        .propertyDefined "COBie_Specification" "NominalLength",
        .propertyDefined "COBie_Specification" "NominalWidth",
        .propertyDefined "COBie_Specification" "NominalHeight",
        .propertyDefined "Pset_ManufacturerTypeInformation" "ModelReference"] ++
        makeProperties.map (.propertyDefined "COBie_Specification")))

/-- Section 07. -/
def typeSection (b : Rulebook) : List Step :=
  let enumerated := enumeratedSelection b.schema
  .setTag "Type" ::
    Step.about (b.schema.select "Object Type" (present b.schema rootTypes)) fun a =>
      [.skip "07.01 Entity Correctly defined" false,
        .setRequirement .optional,
        .create enumerated (.attributeDefined "PredefinedType") none,
        .setRequirement .prohibited,
        .create enumerated (.attributeHasValue "PredefinedType" undefinedSubKind) none,
        .setRequirement .expected,
        .setApplicability .optional,
        .create a (.attributeDefined "Name") none,
        .scope .sectional "" b.typeNameSection,
        .skip "07.06 Unique support not in IDS" false,
        .create a (.attributeDefined "Description") none,
        .create a (.classificationPattern Patterns.uniclass "Pr_.*") none] ++
      b.productRules

end Eir.Rulebook
