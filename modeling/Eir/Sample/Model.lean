import Eir.Digest.NameId
import Eir.Fault
import Eir.Inputs
import Eir.Sample.Corruption
import Eir.Stage

/-!
# Sample models

A list of samples in the order in which they were made, with the log of what was
broken in them. Other objects refer to a sample by its position. Sample models
are made from the inputs of a run and the index of the rules of a stage, in which
the rules that samples are about are looked up.
-/

namespace Eir

/-- A model that rules can be tried on. -/
structure SampleModel where
  name : String
  stage : Stage
  schema : Dialect
  project : String
  samples : List Sample
  corruptions : List CorruptionRecord
  deriving DecidableEq, Inhabited

namespace SampleModel

/-- A model without samples. -/
def empty (name : String) (stage : Stage) (schema : Dialect) (project : String) : SampleModel :=
  ⟨name, stage, schema, project, [], []⟩

/-- Adds samples behind the others. -/
def extend (m : SampleModel) (samples : List Sample) : SampleModel :=
  { m with samples := m.samples ++ samples }

/-- The first sample of an entity type, whose name may be in any case, with a name. -/
def find? (m : SampleModel) (entity name : String) : Option Sample :=
  m.samples.find? fun s => s.entity.toLower == entity.toLower && s.name == name

/-- The positions of the samples of an entity type in a container. -/
def containedIn (m : SampleModel) (entity container : String) : List Nat :=
  (m.samples.zipIdx.filter fun (s, _) =>
    s.entity.toLower == entity.toLower && s.container == container).map (·.2)

/-- Runs a script over the samples at the targets and logs what it did. Where it fails, what it
did so far stays done and is not logged. -/
def corrupt (m : SampleModel) (targets : List Nat) (script : List CorruptionStep) :
    Except RunError (List CorruptionRecord) × SampleModel :=
  match Eir.corrupt m.samples targets script with
  | (run, none) =>
    (.ok run.records,
      { m with samples := run.samples, corruptions := m.corruptions ++ run.records })
  | (run, some f) =>
    (during ("Corrupting " ++ m.name ++ " fixture") (.error (.fault f)),
      { m with samples := run.samples })

/-- Runs a script that has to succeed. -/
def corrupted (m : SampleModel) (targets : List Nat) (script : List CorruptionStep) :
    Except RunError SampleModel :=
  match m.corrupt targets script with
  | (.ok _, m) => .ok m
  | (.error e, _) => .error e

/-- The space of the names of models. -/
def modelSpace : Uuid := .ofNat 0x6f1d4c2e9b1a4f7e8d2c5a0b3e9f1c44

/-- Gives each sample that has none an identifier, from the name of the model, its position and
its entity type. -/
def stamped (m : SampleModel) : SampleModel :=
  let space := Uuid.ofName modelSpace m.name
  let field : Field := .attr "GlobalId"
  { m with samples := m.samples.mapIdx fun i s =>
      if s.values.contains field then s
      else
        let id := Uuid.ofName space (Text.decimal i ++ ":" ++ s.entity)
        { s with values := s.values.set field id.text } }

/-- The identifiers of the rules that failing samples are about, in order and each once. -/
def failureTags (m : SampleModel) : List String :=
  sampleTags (m.samples.filter fun s => !s.conforming)

/-- The name of the file of the model. -/
def fileName (m : SampleModel) : String := m.name ++ ".json"

instance : Json.Encode SampleModel where
  encode m := .obj [("name", .str m.name), ("stage", Json.encode m.stage),
    ("schema", Json.encode m.schema), ("project", .str m.project),
    ("samples", .obj [("instances", Json.encode m.samples)]),
    ("corruptions", Json.encode m.corruptions)]

instance : Json.Decode SampleModel where
  decode? j := do
    let j ← j.record? ["name", "stage", "schema", "project", "samples", "corruptions"]
    return {
      name := ← Json.required j "name"
      stage := ← Json.required j "stage"
      schema := ← Json.required j "schema"
      project := ← Json.required j "project"
      samples := ← Json.required (← (← j.get? "samples").record? ["instances"]) "instances"
      corruptions := ← Json.orElse j "corruptions" [] }

end SampleModel

/-! ## Sources -/

/-- What sample models are made from. -/
structure SampleSources where
  inputs : Inputs
  index : RuleIndex

namespace SampleSources

/-- The sources for a stage: all its rules are compiled. -/
def ofStage (i : Inputs) (date : Date) (stage : Stage) : Except RunError SampleSources := do
  return ⟨i, (← i.allRules date stage).index⟩

/-- The project that stands in the samples. -/
def project (s : SampleSources) : ProjectSettings :=
  s.inputs.settings.fixtures.sampleProject.getD s.inputs.settings.project

/-- The dialect that the samples are written in. -/
def dialect (s : SampleSources) : Dialect := s.inputs.settings.schema.target

/-- The rule of a kind about a subject of an entity type. -/
def tag (s : SampleSources) (entity : String) (subKind : Option String) (kind : RequirementKind)
    (subject : String) : Option String := s.index.lookup? (.of entity subKind kind subject)

/-- The rule of the first of the kinds that has one. -/
def tagAny (s : SampleSources) (entity : String) (kinds : List RequirementKind)
    (subject : String) : Option String :=
  kinds.findSome? fun kind => s.tag entity none kind subject

/-- The last rule of a kind, which is the strictest where later stages ask for more. -/
def strictTag (s : SampleSources) (entity : String) (kind : RequirementKind) (subject : String) :
    Option String :=
  (s.index.lookupAll (.of entity none kind subject)).getLast?

/-- One of the ancestors is met within `depth` links up from the type. -/
def reaches (c : Catalog) (ancestors : List String) : Nat → EntityType → Bool
  | 0, _ => false
  | depth + 1, t =>
    ancestors.any (fun a => a.toLower == t.name.toLower) ||
      match t.parent.bind c.find? with
      | some p => reaches c ancestors depth p
      | none => false

/-- The type of that name is one of the ancestors or below one. -/
def isA (s : SampleSources) (name : String) (ancestors : List String) : Bool :=
  match s.inputs.catalog.find? name with
  | some t => reaches s.inputs.catalog ancestors (s.inputs.catalog.size + 1) t
  | none => false

/-- The view in which the types that samples stand for are found. -/
def logicalView (s : SampleSources) : SchemaView :=
  if s.inputs.settings.schema.useInferredTypes && s.dialect == .ifc2x3 then
    s.inputs.catalog.hybridView
  else s.inputs.catalog.view s.dialect

end SampleSources

end Eir
