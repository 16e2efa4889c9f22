import Eir.Sample.Places

/-!
# The spatial model

Storeys, one of which no rule accepts, with rooms in all of them, zones, and the
doors and windows of the ground floor, at stage 3. Level 02, its rooms and the
last zones are then broken one value at a time.
-/

namespace Eir.SampleSources

def spatialModelName : String := "DfE-Spatial-Stage3"

/-- The storey that is broken. -/
def brokenStorey : String := "Level 02"

/-- The rooms on storeys that have the names given, numbered from 1. -/
def roomSamples (s : SampleSources) (storeys : List Sample) (rooms : List String) :
    Except RunError (List Sample) := do
  let classes := s.inputs.content.mappedClasses
  if classes.isEmpty then throw (.plain "No Uniclass space is mapped from an ADS code")
  let places := storeys.flatMap fun storey => rooms.map fun room => (storey.name, room)
  places.zipIdx.mapM fun ((storey, room), i) => do
    let sequence := i + 1
    let class_ := classes.getD (sequence % min 10 classes.length) default
    let some sheet := s.inputs.content.areaDataSheets.find? (·.spaceClass == class_.code)
      | throw (.plain ("No ADS code maps to " ++ class_.code))
    let name := Text.eraseAll "Level " storey ++ "-" ++ room
    return sampleOf "IfcSpace" storey
      (withFields (described name ("Room " ++ name ++ "-" ++ Text.decimal sequence)) [
        (.classification spaceSystem, class_.code),
        (.classification sheetSystem, sheet.code),
        (.property "COBie_Space" "Roomtag", "n/a"),
        (.property "BaseQuantities" "Height", "2400"),
        (.property "BaseQuantities" "GrossFloorArea", Text.decimal (100 * sequence)),
        (.property "BaseQuantities" "NetFloorArea", Text.decimal (95 * sequence))])

/-- Puts rooms into zones in turn. -/
def zoned (rooms zones : List Sample) : Except RunError (List Sample) :=
  if zones.isEmpty then .error (.plain "Cannot assign rooms without zones")
  else .ok (rooms.mapIdx fun i room =>
    let zone := ((zones[i % zones.length]?).map Sample.name).getD ""
    { room with values := room.values.set (.membership zone) "" })

/-- The door and the window of a room. -/
def openings (room : Sample) : List Sample :=
  let description := (room.values.get? (.attr "Description")).getD ""
  let opening (entity code word : String) : Sample :=
    sampleOf entity room.name
      (described (room.name ++ "-" ++ code) (word ++ " to " ++ description))
  [opening "IfcDoor" "D01" "Door", opening "IfcWindow" "W01" "Window"]

/-- How the storey is broken. -/
def storeyScript (s : SampleSources) : List CorruptionStep :=
  let tag := s.tag "IfcBuildingStorey" none
  [⟨"Blank storey description", .blank (.attr "Description"),
      tag .attributeDefined "Description"⟩,
    ⟨"Blank storey name", .blank (.attr "Name"), tag .attributeDefined "Name"⟩,
    ⟨"Remove net height", .remove (.property storeySet "NetHeight"),
      tag .propertyValueInRange (storeySet ++ ".NetHeight")⟩]

/-- How rooms are broken. -/
def roomScript (s : SampleSources) : List CorruptionStep :=
  let tag := s.tag "IfcSpace" none
  let roomtag : Field := .property "COBie_Space" "Roomtag"
  let roomtagRule :=
    s.tagAny "IfcSpace" [.propertyHasValue, .propertyDefined] "COBie_Space.Roomtag"
  [⟨"Blank name", .blank (.attr "Name"), tag .attributeDefined "Name"⟩,
    ⟨"Blank description", .blank (.attr "Description"), tag .attributeDefined "Description"⟩,
    ⟨"Remove Roomtag", .remove roomtag, roomtagRule⟩,
    ⟨"Invalid Roomtag", .replace roomtag "INVALID", roomtagRule⟩,
    ⟨"Remove ADS classification", .remove (.classification sheetSystem),
      tag .classificationDefined "ADS Classification"⟩,
    ⟨"Unknown ADS code", .replace (.classification sheetSystem) "BOGUS",
      tag .classificationInList "ADS Classification"⟩,
    ⟨"Remove height quantity", .remove (.property "BaseQuantities" "Height"),
      tag .propertyValueInRange "BaseQuantities.Height"⟩,
    ⟨"Zero gross floor area", .zero (.property "BaseQuantities" "GrossFloorArea"),
      tag .propertyValueInRange "BaseQuantities.GrossFloorArea"⟩,
    ⟨"Remove Uniclass classification", .remove (.classification spaceSystem),
      tag .classificationInList "Uniclass 2015"⟩,
    ⟨"Unknown Uniclass code", .replace (.classification spaceSystem) "SL_00_00_00",
      tag .classificationInList "Uniclass 2015"⟩]

/-- How a room is taken out of the zone. -/
def unzoneStep (s : SampleSources) (zone : String) : CorruptionStep :=
  ⟨"Remove from zone", .remove (.membership zone), s.tag "IfcZone" none .partOf "IfcSpace"⟩

/-- A class that exists, but is not the one of the room's sheet. -/
def inconsistencyStep : CorruptionStep :=
  ⟨"Uniclass inconsistent with ADS", .replace (.classification spaceSystem) "SL_42_40_30", none⟩

/-- How zones are broken. -/
def zoneScript (s : SampleSources) : List CorruptionStep :=
  let tag := s.tag "IfcZone" none
  [⟨"Blank zone name", .blank (.attr "Name"), tag .attributeDefined "Name"⟩,
    ⟨"Unknown zone name", .replace (.attr "Name") "Not a valid name",
      tag .attributeInList "Name"⟩,
    ⟨"Blank zone description", .blank (.attr "Description"),
      tag .attributeDefined "Description"⟩,
    ⟨"Unknown zone description", .replace (.attr "Description") "Not a valid description",
      tag .attributeInList "Description"⟩,
    ⟨"Remove zone category", .remove (.classification "Zones"),
      tag .classificationDefined "Category"⟩,
    ⟨"Unknown zone category", .replace (.classification "Zones") "Invalid Category",
      tag .classificationInList "Category"⟩]

/-- Breaks the rooms at the positions. The room that the cursor reaches last is taken out of its
first zone. -/
def breakRooms (s : SampleSources) (m : SampleModel) (rooms : List Nat) :
    Except RunError SampleModel := do
  let script := s.roomScript
  match rooms with
  | [] => throw (.plain (brokenStorey ++ " has no rooms to corrupt"))
  | first :: _ =>
    let zone := do
      let room ← m.samples[← rooms[script.length % rooms.length]?]?
      room.values.memberships.toList.head?
    match zone with
    | none => throw (.plain "Corrupted room has no zone")
    | some zone =>
      (← m.corrupted rooms (script ++ [s.unzoneStep zone])).corrupted [first] [inconsistencyStep]

/-- Breaks the zones at the positions, if there are any. -/
def breakZones (s : SampleSources) (m : SampleModel) (zones : List Nat) :
    Except RunError SampleModel :=
  if zones.isEmpty then .ok m else m.corrupted zones s.zoneScript

/-- The spatial model. -/
def spatialModel (s : SampleSources) : Except RunError SampleModel := do
  let site := s.siteSamples .stage3
  let storeys := s.storeySamples ["00", "M0", "01", "02", "RF", "BAD"]
  let rooms := (← s.roomSamples (storeys.take 4) ["00", "01", "02a", "02b", "03", "B4D"]) ++
    (← s.roomSamples (storeys.drop 4) ["04", "05", "06"])
  let zones := s.zoneSamples ["Basic teaching", "Learning resources", "Halls and dining",
    "Non-net", "Staff and admin"]
  let rooms ← zoned rooms zones
  let ground := rooms.filter fun room => Text.occursIn "00" room.container
  let m := (SampleModel.empty spatialModelName .stage3 s.dialect s.project.name).extend
    (site ++ storeys ++ rooms ++ zones ++ ground.flatMap openings)
  let some level := storeys.findIdx? (·.name == brokenStorey)
    | throw (.plain (brokenStorey ++ " missing from the spatial fixture"))
  let brokenRooms := m.containedIn "IfcSpace" brokenStorey
  let m ← m.corrupted [site.length + level] s.storeyScript
  let m ← s.breakRooms m brokenRooms
  let firstZone := site.length + storeys.length + rooms.length
  let m ← s.breakZones m (((List.range zones.length).map (firstZone + ·)).drop 2)
  return m.stamped

end Eir.SampleSources
