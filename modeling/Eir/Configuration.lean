import Eir.Inputs
import Eir.Naming.Tables
import Eir.Standard.EntityTypes
import Eir.Standard.Places
import Eir.Standard.PublishedSettings
import Eir.Standard.ShortCodes
import Eir.Standard.SubKindWords
import Eir.Yaml.Reader
import Eir.Yaml.Shape

/-!
# Configuration

A folder of documents with the settings and the tables of a run. What has no
document in the folder is as in the published rulebook.
-/

namespace Eir

namespace Catalog

/-- A document of rows of entity types. -/
def shape : Yaml.Shape :=
  .record [("types", .list (.record [("name", .text), ("parent", .maybe .text),
    ("abstract", .boolean), ("domain", .maybe .text), ("dialects", .list .word),
    ("sub_kinds", .list .text), ("ifc2x3_host", .maybe .text)]))]

/-- Reads a document of rows. -/
def ofYaml (y : Yaml) : Except Fault Catalog :=
  match (shape.ofDocument? y).bind fun j => Json.required j "types" with
  | some rows => ofRows rows
  | none => .error .table

end Catalog

/-- A document with a list of rows of texts under one key, of which `optional` may be nothing. -/
def Yaml.Shape.rows (key : String) (fields optional : List String) : Yaml.Shape :=
  let shape (field : String) : Yaml.Shape := if field ∈ optional then .maybe .text else .text
  .record [(key, .list (.record (fields.map fun field => (field, shape field))))]

/-- Documents by their paths in the folder. -/
structure Configuration where
  documents : List (String × String)

namespace Configuration

/-- A folder with nothing in it. -/
def empty : Configuration := ⟨[]⟩

def settingsFile : String := "generator.yaml"
def catalogFile : String := "schema/ifc_catalog.yaml"
def codesFile : String := "naming/type_codes.yaml"
def subKindsFile : String := "naming/sub_kinds.yaml"
def floorsFile : String := "content/floors.yaml"
def zonesFile : String := "content/zones.yaml"
def sheetsFile : String := "content/ads_codes.yaml"
def classesFile : String := "content/uniclass_sl.yaml"

/-- The documents that are looked for. -/
def files : List String :=
  [settingsFile, catalogFile, codesFile, subKindsFile, floorsFile, zonesFile, sheetsFile,
    classesFile]

/-- Reads a document. One that cannot be read is an error while `activity` is going on. -/
def read {α : Type} (c : Configuration) (file activity : String) (standard : Except RunError α)
    (ofYaml : Yaml → Except RunError α) : Except RunError α :=
  match c.documents.lookup file with
  | none => standard
  | some text =>
    during activity (match Yaml.ofText? text with
      | some y => ofYaml y
      | none => .error .unreadable)

/-- What a document gives, unless it is of the wrong shape. -/
def orUnreadable {α : Type} : Option α → Except RunError α
  | some x => .ok x
  | none => .error .unreadable

/-- The settings. Those with which no run can succeed are refused. -/
def settings (c : Configuration) : Except RunError Settings := do
  let s ← c.read settingsFile ("Failed to parse " ++ settingsFile) (.ok Standard.settings)
    fun y => orUnreadable (Settings.ofYaml? y)
  during ("Invalid " ++ settingsFile) s.validate
  return s

/-- The catalog of entity types. -/
def catalog (c : Configuration) : Except RunError Catalog :=
  c.read catalogFile ("Failed to load schema catalog " ++ catalogFile) (asRun Standard.catalog)
    fun y => asRun (Catalog.ofYaml y)

/-- The short codes. -/
def codes (c : Configuration) : Except RunError CodeTable :=
  c.read codesFile ("Failed to load type codes " ++ codesFile) (.ok Standard.codeTable)
    fun y => orUnreadable (CodeTable.ofYaml? y)

/-- The words of sub-kinds. -/
def subKindNames (c : Configuration) : Except RunError SubKindNames :=
  c.read subKindsFile ("Failed to load sub-kind names " ++ subKindsFile)
    (.ok Standard.subKindNames) fun y => orUnreadable (SubKindNames.ofYaml? y)

/-- The rows of one of the tables of content, under a key. -/
def rows {α : Type} [Json.Decode α] (c : Configuration) (file key : String)
    (fields optional : List String) (standard : List α) : Except RunError (List α) :=
  c.read file ("Failed to parse " ++ file) (.ok standard) fun y =>
    orUnreadable (((Yaml.Shape.rows key fields optional).ofDocument? y).bind fun j =>
      Json.required j key)

/-- Refuses content that no building can be described with. -/
def checkContent (content : Content) : Except RunError Unit :=
  if content.storeys.isEmpty then .error (.plain (floorsFile ++ " defines no named floors"))
  else if content.zones.isEmpty then .error (.plain (zonesFile ++ " defines no zones"))
  else
    match content.areaDataSheets.find? fun a =>
        !content.spaceClassCodes.contains a.spaceClass with
    | some a =>
      .error (.plain ("ADS code " ++ a.code ++ " maps to " ++ a.spaceClass ++
        " which is missing from " ++ classesFile))
    | none => .ok ()

/-- The tables of content. -/
def content (c : Configuration) : Except RunError Content := do
  let floors ← c.rows floorsFile "floors" ["code", "name", "description", "category"] ["name"]
    Standard.floors
  let zones ← c.rows zonesFile "zones" ["code", "category", "description"] [] Standard.zones
  let areaDataSheets ← c.rows sheetsFile "ads_codes" ["code", "description", "uniclass"] []
    Standard.areaDataSheets
  let spaceClasses ← c.rows classesFile "uniclass_sl" ["code", "description"] []
    Standard.spaceClasses
  let content : Content := ⟨floors, zones, areaDataSheets, spaceClasses⟩
  checkContent content
  return content

/-- Everything that a run works from. -/
def inputs (c : Configuration) : Except RunError Inputs := do
  return ⟨← c.settings, ← c.catalog, ← c.codes, ← c.subKindNames, ← c.content⟩

end Configuration

end Eir
