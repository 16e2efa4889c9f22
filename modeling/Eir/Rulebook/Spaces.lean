import Eir.Rulebook.Basic
import Eir.Rulebook.Patterns

/-!
# Project, sites and spaces

Sections 01 to 06. The rules of section 05.15 hold the area data sheets and the
space classes of spaces together; they belong to the complex pass.
-/

namespace Eir.Rulebook

/-! ## Project, site and building -/

/-- Section 01. -/
def projectSection (b : Rulebook) : List Step :=
  .setTag "Project" :: Step.about (b.schema.select "Project" ["IfcProject"]) fun a =>
    identityRules a "Project" b.project.name b.project.description ++
    Step.rules a [
      .attributeDefined "Phase",
      .attributeInList "Phase" (Stage.all.map Stage.description)] ++
    [.create a (.attributeHasValue "Phase" b.stage.description)
      (some "Project Should Have Phase Correct For Project Stage")]

/-- Section 02. -/
def siteSection (b : Rulebook) : List Step :=
  .setTag "Site" :: Step.about (b.schema.select "Site" ["IfcSite"]) fun a =>
    identityRules a "Site" b.project.siteName b.project.siteDescription

/-- Section 03. -/
def buildingSection (b : Rulebook) : List Step :=
  .setTag "Building" :: Step.about (b.schema.select "Building" ["IfcBuilding"]) fun a =>
    identityRules a "Building" b.project.buildingName b.project.buildingDescription ++
    Step.rules a [
      .classificationPattern Patterns.uniclass "En.*",
      .classificationHasValue "Uniclass En" (.pattern Patterns.uniclass)
        b.project.buildingCategory,
      .propertyDefined "Additional_Pset_BuildingCommon" "BlockConstructionType",
      .propertyDefined "Additional_Pset_BuildingCommon" "MaximumBlockHeight",
      .propertyDefined "Pset_BuildingCommon" "NumberOfStoreys",
      .propertyDefined "COBie_BuildingCommon_UK" "UPRN",
      .propertyHasValue "COBie_BuildingCommon_UK" "UPRN" b.project.uprn (some "IFCTEXT")]

/-! ## Storeys, spaces and zones -/

/-- The elevations of the storeys, to be filled in for each project. -/
def elevations (storeys : Nat) : List String :=
  (List.range storeys).map fun level =>
    "\x7b\x7bIfcBuildingStorey.Level " ++ Text.zeroPadded 2 level ++ ".Elevation\x7d\x7d"

/-- Section 04. -/
def storeySection (b : Rulebook) : List Step :=
  .setTag "BuildingStorey" ::
    Step.about (b.schema.select "Building Storey" ["IfcBuildingStorey"]) fun a =>
      Step.rules a [
        .attributeDefined "GlobalId",
        .attributeDefined "Name",
        .attributeInList "Name" b.content.floorNames] ++
      .skip "Unique Storey Name" false ::
      Step.rules a [
        .attributeDefined "Description",
        .attributeInList "Description" b.content.floorDescriptions,
        .classificationInList "COBie Floor Classification" (.pattern ".*Floor.*")
          ["Site", "Floor", "Roof"],
        .attributeInList "Elevation" (elevations b.project.storeys),
        (Requirement.propertyAbove "Additional_Pset_BuildingStoreyCommon" "NetHeight" "0"
          ).withDataType "IFCLENGTHMEASURE"]

/-- The first codes of a list, and how many more there are. -/
def codesLabel (codes : List String) : String :=
  let shown := ", ".intercalate (codes.take 3)
  if 3 < codes.length then shown ++ ",+" ++ Text.decimal (codes.length - 3) ++ " more" else shown

/-- Section 05.15: spaces with one of the area data sheets have the space class of the sheets. -/
def consistencySection (b : Rulebook) : List Step :=
  [.setPasses .complexOnly, .setRequirement .optional] ++
    b.content.sheetsByClass.flatMap fun (spaceClass, codes) =>
      let selection := do
        return (← b.schema.select ("Spaces with ADS '" ++ codesLabel codes ++ "'") ["IfcSpace"])
          |>.classified (.pattern ".*ADS.*") codes
      .setName spaceClass :: Step.about selection fun a =>
        Step.rules a [.classificationHasValue "Uniclass" (.pattern Patterns.uniclass) spaceClass]

/-- Section 05. -/
def spaceSection (b : Rulebook) : List Step :=
  .setTag "Space" :: Step.about (b.schema.select "Space" ["IfcSpace"]) fun a =>
    Step.rules a [
      .attributeDefined "GlobalId",
      .attributeDefined "Name",
      .attributeMatchesPattern "Name" spaceNamePattern none] ++
    [.skip "05.04: Unique name not supported" false,
      .skip "05.05: Name related to Floor TBC" false] ++
    Step.rules a [.attributeDefined "Description"] ++
    Step.within (.union (.single .stage3) (.single .stage4)) .all
      (Step.rules a [.propertyHasValue "COBie_Space" "Roomtag" "n/a" (some "IFCTEXT")]) ++
    Step.within (.starting .stage5) .all
      (Step.rules a [.propertyDefined "COBie_Space" "Roomtag"]) ++
    Step.rules a [
      .classificationDefined "ADS Classification" (.pattern Patterns.areaDataSheets),
      .classificationInList "ADS Classification" (.pattern Patterns.areaDataSheets)
        b.content.areaDataSheetCodes,
      (Requirement.propertyAbove "BaseQuantities" "Height" "0").withDataType "IFCLENGTHMEASURE",
      (Requirement.propertyAbove "BaseQuantities" "GrossFloorArea" "0"
        ).withDataType "IFCAREAMEASURE",
      (Requirement.propertyAbove "BaseQuantities" "NetFloorArea" "0"
        ).withDataType "IFCAREAMEASURE",
      .classificationInList "Uniclass 2015" (.pattern Patterns.uniclass)
        b.content.spaceClassCodes] ++
    [.scope .sectional "" b.consistencySection]

/-- Section 06. -/
def zoneSection (b : Rulebook) : List Step :=
  [.setTag "Zone", .setRequirement .optional] ++
    Step.about (b.schema.select "Zone" ["IfcZone"]) fun a =>
      Step.rules a [
        .attributeDefined "GlobalId",
        .attributeDefined "Name",
        .attributeInList "Name" b.content.zoneCodes,
        .attributeDefined "Description",
        .attributeInList "Description" b.content.zoneDescriptions,
        .classificationDefined "Category" (.pattern ".*Zone.*"),
        .classificationInList "Category" (.pattern ".*Zone.*") b.content.zoneCategories] ++
      .skip "Can't checks spaces allocated to single zone" false ::
      Step.rules a [.partOf (some .assignsToGroup) "IfcSpace"]

end Eir.Rulebook
