import Eir.Json.Codec

/-!
# Content tables

The floors, zones, area data sheets and space classes of a kind of building. The
rules demand the values of these tables, and the samples take theirs from them.
-/

namespace Eir

/-- A storey code. A floor without a name is no storey. -/
structure Floor where
  code : String
  name : Option String
  description : String
  category : String
  deriving DecidableEq, Repr, Inhabited

instance : Json.Encode Floor where
  encode f := .obj [("code", .str f.code), ("name", Json.encode f.name),
    ("description", .str f.description), ("category", .str f.category)]

instance : Json.Decode Floor where
  decode? j := do
    let j ← j.record? ["code", "name", "description", "category"]
    return {
      code := ← Json.required j "code"
      name := ← Json.optional j "name"
      description := ← Json.required j "description"
      category := ← Json.required j "category" }

/-- A zone of a building. -/
structure Zone where
  code : String
  category : String
  description : String
  deriving DecidableEq, Repr, Inhabited

instance : Json.Encode Zone where
  encode z := .obj [("code", .str z.code), ("category", .str z.category),
    ("description", .str z.description)]

instance : Json.Decode Zone where
  decode? j := do
    let j ← j.record? ["code", "category", "description"]
    return {
      code := ← Json.required j "code"
      category := ← Json.required j "category"
      description := ← Json.required j "description" }

/-- An area data sheet, and the code of the space class that it belongs to. -/
structure AreaDataSheet where
  code : String
  description : String
  spaceClass : String
  deriving DecidableEq, Repr, Inhabited

instance : Json.Encode AreaDataSheet where
  encode a := .obj [("code", .str a.code), ("description", .str a.description),
    ("uniclass", .str a.spaceClass)]

instance : Json.Decode AreaDataSheet where
  decode? j := do
    let j ← j.record? ["code", "description", "uniclass"]
    return {
      code := ← Json.required j "code"
      description := ← Json.required j "description"
      spaceClass := ← Json.required j "uniclass" }

/-- A class of spaces. -/
structure SpaceClass where
  code : String
  description : String
  deriving DecidableEq, Repr, Inhabited

instance : Json.Encode SpaceClass where
  encode u := .obj [("code", .str u.code), ("description", .str u.description)]

instance : Json.Decode SpaceClass where
  decode? j := do
    let j ← j.record? ["code", "description"]
    return {
      code := ← Json.required j "code"
      description := ← Json.required j "description" }

/-- The tables. -/
structure Content where
  floors : List Floor
  zones : List Zone
  areaDataSheets : List AreaDataSheet
  spaceClasses : List SpaceClass
  deriving DecidableEq, Repr, Inhabited

namespace Content

/-- The floor of that code. -/
def floor? (c : Content) (code : String) : Option Floor := c.floors.find? (·.code == code)

/-- The zone of that code. -/
def zone? (c : Content) (code : String) : Option Zone := c.zones.find? (·.code == code)

/-- The floors that are storeys, with their names. -/
def storeys (c : Content) : List (String × Floor) :=
  c.floors.filterMap fun f => f.name.map (·, f)

def floorNames (c : Content) : List String := c.storeys.map (·.1)

def floorDescriptions (c : Content) : List String := c.storeys.map (·.2.description)

def zoneCodes (c : Content) : List String := c.zones.map (·.code)

def zoneDescriptions (c : Content) : List String := c.zones.map (·.description)

/-- The categories of zones, each once, in the order in which they first stand. -/
def zoneCategories (c : Content) : List String := (c.zones.map (·.category)).eraseDups

def areaDataSheetCodes (c : Content) : List String := c.areaDataSheets.map (·.code)

def spaceClassCodes (c : Content) : List String := c.spaceClasses.map (·.code)

/-- The space classes of the sheets, each once, with the codes of the sheets of each. -/
def sheetsByClass (c : Content) : List (String × List String) :=
  (c.areaDataSheets.map (·.spaceClass)).eraseDups.map fun u =>
    (u, (c.areaDataSheets.filter (·.spaceClass == u)).map (·.code))

/-- The space classes that some sheet belongs to. -/
def mappedClasses (c : Content) : List SpaceClass :=
  c.spaceClasses.filter fun u => c.areaDataSheets.any (·.spaceClass == u.code)

end Content

end Eir
