import Eir.Rulebook.Types

/-!
# Components and systems

Sections 08 and 09. The rules of section 08.02 are about the names of components,
and belong to the complex pass.
-/

namespace Eir.Rulebook

/-- The types whose occurrences are components. -/
def componentTypes : List String := [
  "IfcBuildingElementProxy",
  "IfcDoor",
  "IfcShadingDevice",
  "IfcWindow",
  "IfcFlowMovingDevice",
  "IfcVibrationIsolator",
  "IfcDistributionControlElement",
  "IfcDistributionChamberElement",
  "IfcEnergyConversionDevice",
  "IfcFlowController",
  "IfcFlowStorageDevice",
  "IfcFlowTerminal",
  "IfcFlowTreatmentDevice",
  "IfcDiscreteAccessory",
  "IfcTendon",
  "IfcFurnishingElement",
  "IfcTransportElement"]

/-- The components that the schema of occurrences has. -/
def components (b : Rulebook) : List String := present b.occurrenceSchema componentTypes

/-- The rule about the names of the components of one type and sub-kind. -/
def componentNameRule (b : Rulebook) (t : EntityType) (subKind : Option String)
    (slot pattern : String) : List Step :=
  .setName slot ::
    Step.about (b.occurrenceSchema.selectExact "Object Occurrence [COBie]" t.name) fun a =>
      let a := match subKind with
        | some k => a.withPredefinedType k
        | none => a
      Step.rules a [.attributeMatchesPattern "Name" pattern none]

/-- The sub-kinds that the names of components of a type can tell apart: those of its type
object, or else its own. -/
def componentSubKinds (b : Rulebook) (t : EntityType) : List String :=
  let ofTypeObject := ((b.occurrenceSchema.catalog.find? (t.name ++ "Type")).map
    (·.subKinds)).getD []
  (if ofTypeObject.isEmpty then t.subKinds else ofTypeObject).filter b.namesSubKind

/-- The rules about the names of the components of one type. -/
def componentNameRules (b : Rulebook) (t : EntityType) : List Step :=
  let label := b.namer.conventions.unprefixed t.name
  match b.namer.code? t.name with
  | none => []
  | some code =>
    if code.hasOverrides then
      match b.componentSubKinds t with
      | [] => []
      | subKinds =>
        [.scope .numbering label (subKinds.flatMap fun k =>
          match b.namer.rulePattern? t.name (some k) with
          | none => []
          | some pattern => b.componentNameRule t (some k) k pattern)]
    else
      match b.namer.rulePattern? t.name none with
      | none => []
      | some pattern => b.componentNameRule t none label pattern

/-- Section 08.02. -/
def componentNameSection (b : Rulebook) : List Step :=
  [.setPasses .complexOnly, .setRequirement .optional] ++
    match b.components.mapM b.occurrenceSchema.concreteSubtypes with
    | .error fault => [.fail fault]
    | .ok types =>
      (SchemaView.dedupNames (types.flatten.mergeSort fun s t => decide (s.name ≤ t.name))).flatMap
        b.componentNameRules

/-- Section 08. -/
def componentSection (b : Rulebook) : List Step :=
  .setTag "Object" ::
    Step.about (b.occurrenceSchema.select "Object Occurrence (COBie Component)" b.components)
      fun a =>
        [.create a (.attributeDefined "Name") none,
          .scope .sectional "" b.componentNameSection,
          .skip "08.03 Unique support not in IDS" false] ++
        Step.rules a [
          .attributeDefined "Description",
          .propertyMatchesPattern "Pset_ManufacturerOccurrence" "SerialNumber"
            Patterns.numberOrNone "Serial number" none,
          .propertyMatchesPattern "COBie_Component" "InstallationDate" Patterns.dateOrDefault
            "Valid date" none,
          .propertyMatchesPattern "COBie_Component" "WarrantyStartDate" Patterns.dateOrDefault
            "Valid date" none,
          .propertyHasValue "COBie_Component" "TagNumber" "n/a" none,
          .propertyMatchesPattern "COBie_Component" "BarCode" Patterns.numberOrNone "Bar code"
            none,
          .propertyHasValue "COBie_Component" "AssetIdentifier" "n/a" none] ++
        .setRequirement .optional ::
        Step.about (b.schema.select "Door" ["IfcDoor"]) fun doors =>
          Step.rules doors [
            .propertyDefined "Pset_DoorCommon" "FireRating",
            .propertyInList "Pset_DoorCommon" "FireRating"
              ["Undefined", "n/a", "20", "30", "60", "90", "120"] none] ++
          [.setRequirement .expected,
            .skip "08:13: Duplicates not supported" false,
            .skip "08:14: PresentationLayers need further info" false]

/-- Section 09. -/
def systemSection (b : Rulebook) : List Step :=
  .setTag "System" :: Step.about (b.occurrenceSchema.selectExact "Ifc System" "IfcSystem") fun a =>
    [.skip "Requires IFC4 to make use of IfcDistributionSystem PDT" false,
      .skip "Requires IFC4 to make use of IfcDistributionSystem PDT" false] ++
    Step.rules a [.classificationPattern Patterns.uniclass "Ss_.*"]

end Eir.Rulebook
