import Eir.Sample.Model
import Eir.Sample.ProductData

/-!
# Breakages

The ways in which the data of types and doors are broken, one value each, with
the rules that then fail.
-/

namespace Eir

/-- What becomes of one value. -/
inductive Change where
  | to (value : String)
  | away
  /-- A text is put before the value. -/
  | behind (start : String)
  deriving DecidableEq, Repr

/-- One value that is broken. -/
structure Breakage where
  description : String
  field : Field
  change : Change
  /-- The identifier of the rule that then fails. -/
  tag : Option String
  deriving DecidableEq, Repr

namespace Breakage

/-- The values of a baseline, broken. -/
def apply (b : Breakage) (baseline : Baseline) : ValueSet :=
  let builder := SampleBuilder.of baseline
  let builder := match b.change with
    | .to value => builder.set b.field value
    | .away => builder.remove b.field
    | .behind start => builder.set b.field (start ++ (baseline.values.get? b.field).getD "")
  builder.build

end Breakage

namespace SampleSources

open ProductData

/-- A property of objects of an entity type is broken, against its first rule of a kind. -/
def propertyBreakage (s : SampleSources) (entity description set name : String) (change : Change)
    (kind : RequirementKind) : Breakage :=
  ⟨description, .property set name, change,
    s.tag entity none kind (Requirement.dotted set name)⟩

/-- The same against its strictest rule. -/
def strictBreakage (s : SampleSources) (entity description set name : String) (change : Change)
    (kind : RequirementKind) : Breakage :=
  ⟨description, .property set name, change,
    s.strictTag entity kind (Requirement.dotted set name)⟩

/-- An attribute of objects of an entity type is left empty. -/
def blankBreakage (s : SampleSources) (entity description attr : String) : Breakage :=
  ⟨description, .attr attr, .to "", s.tag entity none .attributeDefined attr⟩

/-- The type that is broken. -/
def brokenType : String := "IfcTransportElementType"

/-- The warranty of a type is broken. -/
def warrantyBreakages (s : SampleSources) (guarantor duration : String) : List Breakage :=
  let property := s.propertyBreakage brokenType
  [property "Blank guarantor" warrantySet guarantor (.to "") .propertyDefined,
    property "Guarantor not an email" warrantySet guarantor (.to "Not an email")
      .propertyMatchesPattern,
    s.strictBreakage brokenType "Guarantor placeholder" warrantySet guarantor (.to "n/a")
      .propertyMatchesPattern,
    property "No warranty duration" warrantySet duration .away .propertyDefined,
    property "Warranty duration in words" warrantySet duration (.to "5 years")
      .propertyMatchesPattern,
    property "Zero warranty duration" warrantySet duration (.to "0") .propertyValueInRange]

/-- How types are broken. -/
def typeBreakages (s : SampleSources) : List Breakage :=
  let property := s.propertyBreakage brokenType
  [s.blankBreakage brokenType "Blank name" "Name",
    s.blankBreakage brokenType "Blank description" "Description",
    ⟨"No product classification", .classification productSystem, .away,
      s.tag brokenType none .classificationPattern Rulebook.Patterns.uniclass⟩,
    property "No asset type" assetSet "AssetType" .away .propertyDefined,
    property "Unknown asset type" assetSet "AssetType" (.to "BAD") .propertyInList,
    property "Blank manufacturer" makerSet "Manufacturer" (.to "") .propertyDefined,
    property "Manufacturer not an email" makerSet "Manufacturer" (.to "AcmeInc")
      .propertyMatchesPattern,
    s.strictBreakage brokenType "Manufacturer placeholder" makerSet "Manufacturer" (.to "n/a")
      .propertyMatchesPattern,
    property "No model reference" makerSet "ModelReference" .away .propertyDefined] ++
  s.warrantyBreakages "WarrantyGuarantorParts" "WarrantyDurationParts" ++
  s.warrantyBreakages "WarrantyGuarantorLabor" "WarrantyDurationLabor" ++
  [property "No warranty description" warrantySet "WarrantyDescription" .away .propertyDefined,
    property "Warranty description without words" warrantySet "WarrantyDescription" (.to "!!!!")
      .propertyMatchesPattern,
    property "No replacement cost" economicSet "ReplacementCost" .away .propertyDefined,
    property "Replacement cost not monetary" economicSet "ReplacementCost" (.to "TBC")
      .propertyMatchesPattern,
    property "No expected life" serviceLifeSet "ExpectedLife" .away .propertyDefined,
    property "Expected life in words" serviceLifeSet "ExpectedLife" (.to "20 years")
      .propertyMatchesPattern] ++
  dimensions.map (fun d => property "No nominal dimension" makeSet d .away .propertyDefined) ++
  Rulebook.makeProperties.map fun p =>
    property "No specification value" makeSet p .away .propertyDefined

/-- How doors are broken. -/
def doorBreakages (s : SampleSources) : List Breakage :=
  let property := s.propertyBreakage "IfcDoor"
  [s.blankBreakage "IfcDoor" "Blank name" "Name",
    s.blankBreakage "IfcDoor" "Blank description" "Description",
    property "Serial number with letters" makerOccurrenceSet "SerialNumber" (.behind "BAD-")
      .propertyMatchesPattern,
    property "Blank installation date" componentSet "InstallationDate" (.to "")
      .propertyMatchesPattern,
    property "Warranty start not ISO" componentSet "WarrantyStartDate" (.to "2021-01-01 12:00:00")
      .propertyMatchesPattern,
    property "Blank tag number" componentSet "TagNumber" (.to "") .propertyHasValue,
    property "Bar code with letters" componentSet "BarCode" (.behind "BAD-")
      .propertyMatchesPattern,
    property "Asset identifier set" componentSet "AssetIdentifier" (.to "Bad") .propertyHasValue,
    property "No fire rating" doorSet "FireRating" .away .propertyDefined,
    property "Unknown fire rating" doorSet "FireRating" (.to "BAD") .propertyInList]

end SampleSources

end Eir
