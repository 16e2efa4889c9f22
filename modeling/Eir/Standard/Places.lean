import Eir.Content

/-!
# The standard content

The floors, zones, area data sheets and space classes of a school.
-/

namespace Eir.Standard

/-- The codes of floors. Those without a name are no storeys. -/
def floors : List Floor := [
  ⟨"XX", none, "No spatial sub-division is applicable", "n/a"⟩,
  ⟨"ZZ", none, "Multiple spatial sub-divisions are applicable", "n/a"⟩,
  ⟨"B2", some "Level B2", "Basement level 2", "Floor"⟩,
  ⟨"B1", some "Level B1", "Basement level 1", "Floor"⟩,
  ⟨"00", some "Level 00", "Base level of building", "Floor"⟩,
  ⟨"M0", some "Level M0", "Mezzanine above base level", "Floor"⟩,
  ⟨"01", some "Level 01", "First floor", "Floor"⟩,
  ⟨"M1", some "Level M1", "Mezzanine above first floor", "Floor"⟩,
  ⟨"02", some "Level 02", "Second floor", "Floor"⟩,
  ⟨"03", some "Level 03", "Third floor", "Floor"⟩,
  ⟨"04", some "Level 04", "Fourth floor", "Floor"⟩,
  ⟨"RF", some "Level RF", "Main roof", "Roof"⟩,
  ⟨"R2", some "Level R2", "Additional roof above main roof", "Roof"⟩]

def zones : List Zone := [
  ⟨"Basic teaching", "Teaching", "General and specialist classrooms"⟩,
  ⟨"Practical teaching", "Teaching", "Practical spaces for science and technology"⟩,
  ⟨"Learning resources", "Teaching", "Libraries and learning resource areas"⟩,
  ⟨"Halls and dining", "Communal", "Halls and dining spaces"⟩,
  ⟨"Staff and admin", "Support", "Staff and administration spaces"⟩,
  ⟨"Storage", "Support", "Storage for teaching and other resources"⟩,
  ⟨"Non-net", "Non-net", "Circulation"⟩]

def areaDataSheets : List AreaDataSheet := [
  ⟨"CLA11", "Classrooms (nursery)", "SL_25_10_14"⟩,
  ⟨"CLA12", "Classrooms (general)", "SL_25_10_14"⟩,
  ⟨"CLA13", "Classrooms (primary)", "SL_25_10_14"⟩,
  ⟨"CLA14", "Classrooms (secondary)", "SL_25_10_14"⟩,
  ⟨"CLA21", "Seminar rooms", "SL_25_10_14"⟩,
  ⟨"CLA31", "Small group rooms", "SL_25_10_70"⟩,
  ⟨"CLA32", "Interview rooms", "SL_25_10_70"⟩,
  ⟨"CLA61", "Secondary SEN classrooms", "SL_25_10_76"⟩,
  ⟨"CLA62", "Secondary SEN classrooms (AP behaviour)", "SL_25_10_76"⟩,
  ⟨"PRA11", "Art rooms", "SL_25_10_02"⟩,
  ⟨"PRA21", "Design and technology workshops", "SL_25_10_20"⟩,
  ⟨"PRA22", "Food technology rooms", "SL_25_10_30"⟩,
  ⟨"PRA31", "ICT rooms", "SL_25_10_38"⟩,
  ⟨"PRA41", "Music classrooms", "SL_25_10_60"⟩,
  ⟨"PRA42", "Music practice rooms", "SL_25_10_60"⟩,
  ⟨"PRA51", "Science laboratories", "SL_25_10_72"⟩,
  ⟨"LRC11", "Libraries", "SL_25_10_44"⟩,
  ⟨"HAL11", "Main halls", "SL_35_10_50"⟩,
  ⟨"HAL12", "Studios", "SL_35_10_50"⟩,
  ⟨"DIN11", "Dining halls", "SL_55_10_20"⟩,
  ⟨"ADM11", "Offices", "SL_20_15_60"⟩,
  ⟨"ADM21", "Staff rooms", "SL_20_15_74"⟩,
  ⟨"STT10", "Teaching resources stores", "SL_90_50_87"⟩,
  ⟨"STT20", "PE stores", "SL_90_50_87"⟩,
  ⟨"TOI11", "Pupil toilets", "SL_90_10_80"⟩]

def spaceClasses : List SpaceClass := [
  ⟨"SL_20_15_60", "Offices"⟩,
  ⟨"SL_20_15_74", "Staff rooms"⟩,
  ⟨"SL_25_10_02", "Art rooms"⟩,
  ⟨"SL_25_10_14", "Classrooms"⟩,
  ⟨"SL_25_10_20", "Design and technology workshops"⟩,
  ⟨"SL_25_10_30", "Food technology rooms"⟩,
  ⟨"SL_25_10_38", "Information and communication technology (ICT) rooms"⟩,
  ⟨"SL_25_10_44", "Learning resource centres"⟩,
  ⟨"SL_25_10_60", "Music rooms"⟩,
  ⟨"SL_25_10_70", "Small group rooms"⟩,
  ⟨"SL_25_10_72", "Science laboratories"⟩,
  ⟨"SL_25_10_76", "Secondary special educational needs (SEN) classrooms"⟩,
  ⟨"SL_35_10_50", "Halls"⟩,
  ⟨"SL_42_40_30", "Changing rooms"⟩,
  ⟨"SL_55_10_20", "Dining rooms"⟩,
  ⟨"SL_90_10_80", "Toilets"⟩,
  ⟨"SL_90_50_87", "Teaching resources stores"⟩]

/-- All of it. -/
def content : Content := ⟨floors, zones, areaDataSheets, spaceClasses⟩

end Eir.Standard
