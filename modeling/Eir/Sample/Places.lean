import Eir.Sample.Baseline
import Eir.Sample.Model

/-!
# Places

The samples of the project, the site, the building, the storeys and the zones,
which both models have.
-/

namespace Eir.SampleSources

/-- Values that are a name and a description. -/
def described (name description : String) : ValueSet :=
  (ValueSet.empty.set (.attr "Name") name).set (.attr "Description") description

/-- Values with more fields. -/
def withFields (v : ValueSet) (fields : List (Field × String)) : ValueSet :=
  fields.foldl (fun v (f, t) => v.set f t) v

/-- A sample with these values. -/
def sampleOf (entity container : String) (values : ValueSet) : Sample :=
  { Sample.named entity container "" with values }

/-- The project, the site and the building. -/
def siteSamples (s : SampleSources) (stage : Stage) : List Sample :=
  let p := s.project
  [sampleOf "IfcProject" ""
      (withFields (described p.name p.description) [(.attr "Phase", stage.description)]),
    sampleOf "IfcSite" p.name (described p.siteName p.siteDescription),
    sampleOf "IfcBuilding" p.siteName (withFields (described p.buildingName p.buildingDescription) [
      (.classification "Uniclass", p.buildingCategory),
      (.property "Additional_Pset_BuildingCommon" "BlockConstructionType",
        p.blockConstructionType),
      (.property "Additional_Pset_BuildingCommon" "MaximumBlockHeight", "18000"),
      (.property "Pset_BuildingCommon" "NumberOfStoreys", Text.decimal p.storeys),
      (.property "COBie_BuildingCommon_UK" "UPRN", p.uprn)])]

/-- The properties of storeys. -/
def storeySet : String := "Additional_Pset_BuildingStoreyCommon"

/-- The floor of a code, or one that no rule accepts. -/
def floorOf (s : SampleSources) (code : String) : Floor :=
  (s.inputs.content.floor? code).getD ⟨code, some "Invalid", "Bad level", "Bad Category"⟩

/-- The storey of a code at a level, counted from the lowest. -/
def storeySample (s : SampleSources) (level : Nat) (code : String) : Sample :=
  let floor := s.floorOf code
  sampleOf "IfcBuildingStorey" s.project.buildingName
    (withFields (described (floor.name.getD floor.code) floor.description) [
      (.attr "Elevation", Text.decimal (level * 3400)),
      (.property storeySet "NetHeight", "2800"),
      (.classification "Floor", floor.category)])

/-- The storeys of the codes, from the lowest up. -/
def storeySamples (s : SampleSources) (codes : List String) : List Sample :=
  codes.mapIdx s.storeySample

/-- The zones of the codes that are known. -/
def zoneSamples (s : SampleSources) (codes : List String) : List Sample :=
  (codes.filterMap s.inputs.content.zone?).map fun z =>
    sampleOf "IfcZone" s.project.name
      (withFields (described z.code z.description) [(.classification "Zones", z.category)])

/-- The systems under which spaces are classified. -/
def sheetSystem : String := "DFE ADS"
def spaceSystem : String := "Uniclass SL"

end Eir.SampleSources
