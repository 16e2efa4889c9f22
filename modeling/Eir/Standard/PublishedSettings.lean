import Eir.Settings

/-!
# The standard settings

The settings of the published rulebook.
-/

namespace Eir.Standard

/-- A school to stand in the samples. -/
def sampleProject : ProjectSettings where
  name := "Foxmere Primary School Redevelopment"
  description := "A new two-story primary school designed to accommodate 420 students, featuring " ++
    "modern learning spaces, sustainable construction, and enhanced accessibility."
  siteName := "Foxmere Academy Campus"
  siteDescription := "A 2.5-hectare site in the outskirts of Newcastle upon Tyne, selected for its " ++
    "excellent transport links and green surroundings."
  buildingName := "Foxmere Primary Block A"
  buildingDescription := "The main teaching block housing 14 classrooms, a library, a multi-use hall, and " ++
    "staff facilities."
  buildingCategory := "En_25_10_40"
  blockConstructionType := "Masonry"
  uprn := "4510724634"
  storeys := 2

/-- The settings of the published rulebook. -/
def settings : Settings where
  project := .tokens
  publication := .standard
  stages := [.stage3, .stage4, .stage5]
  passes := ["Core", "Complex", "All"]
  output := ⟨true, true, true, [.ids, .json], true⟩
  schema := ⟨.ifc2x3, [.ifc2x3], true⟩
  undefinedSubKind := ⟨false, true⟩
  fixtures := ⟨true, "00-01G", "01-01B", some sampleProject⟩

end Eir.Standard
