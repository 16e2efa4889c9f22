import Eir.Date
import Eir.Dialect
import Eir.Fault
import Eir.Naming.Resolver
import Eir.Stage
import Eir.Yaml.Shape

/-!
# Settings

What a run is asked to do: the project that the rules are written for, how the
documents are named and written, which stages and passes are compiled, and which
samples are made.
-/

namespace Eir

/-- A natural number of 32 bits. -/
def Json.word? (j : Json) (key : String) : Option Nat :=
  (j.get? key).bind (Json.natBelow? (1 <<< 32))

/-- The values of a project that stand in its rules. -/
structure ProjectSettings where
  name : String
  description : String
  siteName : String
  siteDescription : String
  buildingName : String
  buildingDescription : String
  /-- The class of the building. -/
  buildingCategory : String
  blockConstructionType : String
  uprn : String
  storeys : Nat
  deriving DecidableEq, Repr

namespace ProjectSettings

/-- The words to be filled in for each project. -/
def tokens : ProjectSettings where
  name := "\x7b\x7bIfcProjectName\x7d\x7d"
  description := "\x7b\x7bIfcProjectDescription\x7d\x7d"
  siteName := "\x7b\x7bIfcSiteName\x7d\x7d"
  siteDescription := "\x7b\x7bIfcSiteDescription\x7d\x7d"
  buildingName := "\x7b\x7bIfcBuildingName\x7d\x7d"
  buildingDescription := "\x7b\x7bIfcBuildingDescription\x7d\x7d"
  buildingCategory := "\x7b\x7bIfcBuildingClassificationReference\x7d\x7d"
  blockConstructionType := "\x7b\x7bBuildingBlockConstructionType\x7d\x7d"
  uprn := "\x7b\x7bIfcBuildingUPRN\x7d\x7d"
  storeys := 3

instance : Inhabited ProjectSettings := ⟨tokens⟩

instance : Json.Encode ProjectSettings where
  encode p := .obj [("name", .str p.name), ("description", .str p.description),
    ("site_name", .str p.siteName), ("site_description", .str p.siteDescription),
    ("building_name", .str p.buildingName), ("building_description", .str p.buildingDescription),
    ("building_category", .str p.buildingCategory),
    ("block_construction_type", .str p.blockConstructionType), ("uprn", .str p.uprn),
    ("number_of_storeys", Json.encode p.storeys)]

instance : Json.Decode ProjectSettings where
  decode? j := do
    let j ← j.record? ["name", "description", "site_name", "site_description", "building_name",
      "building_description", "building_category", "block_construction_type", "uprn",
      "number_of_storeys"]
    return {
      name := ← Json.required j "name"
      description := ← Json.required j "description"
      siteName := ← Json.required j "site_name"
      siteDescription := ← Json.required j "site_description"
      buildingName := ← Json.required j "building_name"
      buildingDescription := ← Json.required j "building_description"
      buildingCategory := ← Json.required j "building_category"
      blockConstructionType := ← Json.required j "block_construction_type"
      uprn := ← Json.required j "uprn"
      storeys := ← if (j.get? "number_of_storeys").isNone then some 3
        else j.word? "number_of_storeys" }

def shape : Yaml.Shape :=
  .record [("name", .text), ("description", .text), ("site_name", .text),
    ("site_description", .text), ("building_name", .text), ("building_description", .text),
    ("building_category", .text), ("block_construction_type", .text), ("uprn", .text),
    ("number_of_storeys", .natural)]

end ProjectSettings

/-- How documents are named and who they are from. -/
structure PublicationSettings where
  basePath : String
  documentPrefix : String
  version : Nat
  status : String
  revision : String
  author : String
  copyright : String
  purpose : String
  /-- The date of issue, if it is fixed. -/
  date : Option Date
  deriving DecidableEq, Repr

namespace PublicationSettings

def standard : PublicationSettings where
  basePath := "DFE-ER"
  documentPrefix := "ER-DFE-XX-XX-L-X"
  version := 45
  status := "S2"
  revision := "P01"
  author := "DfE.BIM@Education.gov.uk"
  copyright := "CC BY 4.0"
  purpose := "Information Model Assurance"
  date := none

instance : Inhabited PublicationSettings := ⟨standard⟩

instance : Json.Encode Date := ⟨fun d => .str d.text⟩
instance : Json.Decode Date where
  decode?
    | .str s => Date.ofText? s
    | _ => none

instance : Json.Encode PublicationSettings where
  encode p := .obj [("base_path", .str p.basePath), ("document_prefix", .str p.documentPrefix),
    ("version", Json.encode p.version), ("status", .str p.status), ("revision", .str p.revision),
    ("author", .str p.author), ("copyright", .str p.copyright), ("purpose", .str p.purpose),
    ("date", Json.encode p.date)]

instance : Json.Decode PublicationSettings where
  decode? j := do
    let j ← j.record? ["base_path", "document_prefix", "version", "status", "revision", "author",
      "copyright", "purpose", "date"]
    return {
      basePath := ← Json.required j "base_path"
      documentPrefix := ← Json.required j "document_prefix"
      version := ← j.word? "version"
      status := ← Json.required j "status"
      revision := ← Json.required j "revision"
      author := ← Json.required j "author"
      copyright := ← Json.required j "copyright"
      purpose := ← Json.required j "purpose"
      date := ← Json.optional j "date" }

def shape : Yaml.Shape :=
  .record [("base_path", .text), ("document_prefix", .text), ("version", .natural),
    ("status", .text), ("revision", .text), ("author", .text), ("copyright", .text),
    ("purpose", .text), ("date", .maybe .text)]

end PublicationSettings

/-- The formats that bundles are written in. -/
inductive OutputFormat where
  | ids | json
  deriving DecidableEq, Repr, Inhabited

namespace OutputFormat

def name : OutputFormat → String
  | ids => "ids"
  | json => "json"

/-- The format of that name. -/
def ofName? (text : String) : Option OutputFormat := [ids, json].find? fun f => f.name == text

instance : Json.Encode OutputFormat := ⟨fun f => .str f.name⟩
instance : Json.Decode OutputFormat := ⟨Json.constant? false ofName?⟩

end OutputFormat

/-- What is written to files. -/
structure OutputSettings where
  oneFilePerSpecification : Bool
  oneFilePerScope : Bool
  groupByApplicability : Bool
  formats : List OutputFormat
  /-- Written documents are read back and checked. -/
  validate : Bool
  deriving DecidableEq, Repr

namespace OutputSettings

instance : Inhabited OutputSettings := ⟨⟨false, false, false, [.ids], false⟩⟩

def writes (o : OutputSettings) (f : OutputFormat) : Bool := o.formats.contains f

instance : Json.Encode OutputSettings where
  encode o := .obj [("one_file_per_specification", .bool o.oneFilePerSpecification),
    ("one_file_per_scope", .bool o.oneFilePerScope),
    ("group_by_applicability", .bool o.groupByApplicability), ("formats", Json.encode o.formats),
    ("validate", .bool o.validate)]

instance : Json.Decode OutputSettings where
  decode? j := do
    let j ← j.record? ["one_file_per_specification", "one_file_per_scope",
      "group_by_applicability", "formats", "validate"]
    return {
      oneFilePerSpecification := ← Json.orElse j "one_file_per_specification" false
      oneFilePerScope := ← Json.orElse j "one_file_per_scope" false
      groupByApplicability := ← Json.orElse j "group_by_applicability" false
      formats := ← Json.orElse j "formats" [.ids]
      validate := ← Json.orElse j "validate" false }

def shape : Yaml.Shape :=
  .record [("one_file_per_specification", .boolean), ("one_file_per_scope", .boolean),
    ("group_by_applicability", .boolean), ("formats", .list .word), ("validate", .boolean)]

end OutputSettings

/-- The dialects that rules are written for. -/
structure SchemaSettings where
  target : Dialect
  supported : List Dialect
  useInferredTypes : Bool
  deriving DecidableEq, Repr

namespace SchemaSettings

instance : Inhabited SchemaSettings := ⟨⟨.ifc2x3, [.ifc2x3], true⟩⟩

def supportedSet (s : SchemaSettings) : DialectSet := .ofList s.supported

instance : Json.Encode SchemaSettings where
  encode s := .obj [("target", Json.encode s.target), ("supported", Json.encode s.supported),
    ("use_inferred_occurrence_types", .bool s.useInferredTypes)]

instance : Json.Decode SchemaSettings where
  decode? j := do
    let j ← j.record? ["target", "supported", "use_inferred_occurrence_types"]
    return {
      target := ← Json.required j "target"
      supported := ← Json.orElse j "supported" [.ifc2x3]
      useInferredTypes := ← Json.orElse j "use_inferred_occurrence_types" true }

def shape : Yaml.Shape :=
  .record [("target", .word), ("supported", .list .word),
    ("use_inferred_occurrence_types", .boolean)]

end SchemaSettings

/-- Which samples are made. -/
structure FixtureSettings where
  enabled : Bool
  /-- The space that holds what is right. -/
  passContainer : String
  /-- The space that holds what is wrong. -/
  failContainer : String
  /-- Values of a project to stand in samples. -/
  sampleProject : Option ProjectSettings
  deriving DecidableEq, Repr

namespace FixtureSettings

instance : Inhabited FixtureSettings := ⟨⟨true, "00-01G", "01-01B", none⟩⟩

instance : Json.Encode FixtureSettings where
  encode f := .obj [("enabled", .bool f.enabled), ("pass_container", .str f.passContainer),
    ("fail_container", .str f.failContainer), ("sample_project", Json.encode f.sampleProject)]

instance : Json.Decode FixtureSettings where
  decode? j := do
    let j ← j.record? ["enabled", "pass_container", "fail_container", "sample_project"]
    return {
      enabled := ← Json.orElse j "enabled" true
      passContainer := ← Json.required j "pass_container"
      failContainer := ← Json.required j "fail_container"
      sampleProject := ← Json.optional j "sample_project" }

def shape : Yaml.Shape :=
  .record [("enabled", .boolean), ("pass_container", .text), ("fail_container", .text),
    ("sample_project", .maybe ProjectSettings.shape)]

end FixtureSettings

/-- All settings of a run. -/
structure Settings where
  project : ProjectSettings
  publication : PublicationSettings
  stages : List Stage
  /-- The labels of the passes. -/
  passes : List String
  output : OutputSettings
  schema : SchemaSettings
  undefinedSubKind : UndefinedPolicy
  fixtures : FixtureSettings
  deriving DecidableEq, Repr

namespace Settings

/-- The settings where a document says nothing. -/
def standard : Settings :=
  ⟨default, default, [.stage3, .stage4, .stage5], ["Core", "Complex", "All"], default, default,
    default, default⟩

instance : Inhabited Settings := ⟨standard⟩

instance : Json.Encode Settings where
  encode s := .obj [("project", Json.encode s.project),
    ("publication", Json.encode s.publication), ("stages", Json.encode s.stages),
    ("passes", Json.encode s.passes), ("output", Json.encode s.output),
    ("schema", Json.encode s.schema), ("undefined_sub_kind", Json.encode s.undefinedSubKind),
    ("fixtures", Json.encode s.fixtures)]

instance : Json.Decode Settings where
  decode? j := do
    let j ← j.record? ["project", "publication", "stages", "passes", "output", "schema",
      "undefined_sub_kind", "fixtures"]
    return {
      project := ← Json.orElse j "project" default
      publication := ← Json.orElse j "publication" default
      stages := ← Json.orElse j "stages" standard.stages
      passes := ← Json.orElse j "passes" standard.passes
      output := ← Json.orElse j "output" default
      schema := ← Json.orElse j "schema" default
      undefinedSubKind := ← Json.orElse j "undefined_sub_kind" default
      fixtures := ← Json.orElse j "fixtures" default }

def shape : Yaml.Shape :=
  .record [("project", ProjectSettings.shape), ("publication", PublicationSettings.shape),
    ("stages", .list .word), ("passes", .list .text), ("output", OutputSettings.shape),
    ("schema", SchemaSettings.shape),
    ("undefined_sub_kind",
      .record [("naming_rules", .boolean), ("fixture_occurrences", .boolean)]),
    ("fixtures", FixtureSettings.shape)]

/-- Reads settings from a document. -/
def ofYaml? (y : Yaml) : Option Settings := (shape.ofDocument? y).bind Json.decode?

/-- The passes that the labels name. -/
def generationPasses (s : Settings) : Except RunError (List PassSet) :=
  s.passes.mapM fun label =>
    match PassSet.ofLabel? label with
    | some p => .ok p
    | none => .error (.plain ("Unknown generation pass '" ++ label ++ "'"))

/-- Refuses settings with which no run can succeed. -/
def validate (s : Settings) : Except RunError Unit := do
  match s.stages.find? fun stage => !stage.isTarget with
  | some stage => throw (.plain (stage.name ++ " cannot be a target stage"))
  | none => pure ()
  let _ ← s.generationPasses
  if s.output.formats.isEmpty then
    throw (.plain "output.formats must name at least one format")
  if !s.schema.supported.contains s.schema.target then
    throw (.plain ("schema.supported must include the target dialect " ++ s.schema.target.name))
  if s.fixtures.passContainer = s.fixtures.failContainer then
    throw (.plain "fixture pass and fail containers must differ")

end Settings

end Eir
